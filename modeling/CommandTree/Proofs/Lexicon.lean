import Mathlib.Data.List.TakeWhile
import Mathlib.Tactic.Common
import CommandTree.Text.Quoted
import CommandTree.ParseError
/-!
The lexical grammar of command files.

A text is a sequence of lexemes with trivia in front of each and behind the last. Trivia are blanks, which are all
characters up to the space, and comments; a lexeme is a structural character, a string between quotation marks, or a
bare word. The grammar says what these are without saying how they are found.

* `Trivia`, `Escape`, `QuotedRun` and `Lexeme` are the parts; `Lexeme` and the comments of `Trivia` depend on the text behind
  them, since words and line comments are as long as they can be;
* `Opens` cuts one lexeme off the front of a text and `Segments` cuts several; `Lexes` uses a text up;
* `Offence` are the three ways in which a text goes on with no lexeme, and `Fails` and `Offends` say where this is met;
* `breaks` counts line breaks, a carriage return with a line feed behind it as one (`breaks_append`);
* `cases_next`: behind trivia a text is used up, or a lexeme or an offence follows, so that `lexes_or_offends`.
-/

namespace CommandTree.Lexicon

open Text

/-! ### Line breaks -/

/-- Whether a line ends behind a character, given what follows: between a carriage return and a line feed none does. -/
def endsLine (c : Char) (cs : List Char) : Bool := c == '\n' || (c == '\r' && cs.head? != some '\n')

/-- How many lines end in a text. -/
def breaks : List Char → Nat
  | [] => 0
  | c :: cs => (if endsLine c cs then 1 else 0) + breaks cs

lemma isLineBreak_of_endsLine {c : Char} {cs : List Char} (h : endsLine c cs = true) : isLineBreak c = true := by
  simp only [endsLine, Bool.or_eq_true, Bool.and_eq_true, beq_iff_eq] at h
  rcases h with rfl | ⟨rfl, -⟩ <;> rfl

/-- What follows matters only if it begins with a line feed. -/
lemma endsLine_append {c : Char} {us vs : List Char} (h : vs.head? ≠ some '\n') :
    endsLine c (us ++ vs) = endsLine c us := by
  cases us with
  | nil =>
      have hb : (vs.head? != some '\n') = true := by simpa using h
      simp only [List.nil_append, endsLine, hb]
      rfl
  | cons u us => simp [endsLine]

/-- Line breaks add up, unless a carriage return and a line feed come together. -/
lemma breaks_append {us vs : List Char} (h : vs.head? ≠ some '\n') : breaks (us ++ vs) = breaks us + breaks vs := by
  induction us with
  | nil => simp [breaks]
  | cons u us ih =>
      simp only [List.cons_append, breaks, ih, endsLine_append h]
      omega

/-- No line ends in a text without line breaks. -/
lemma breaks_eq_zero {cs : List Char} (h : ∀ c ∈ cs, isLineBreak c = false) : breaks cs = 0 := by
  induction cs with
  | nil => rfl
  | cons c cs ih =>
      have hc : endsLine c cs = false := by
        by_contra ends
        simp [isLineBreak_of_endsLine (by simpa using ends)] at h
      simp [breaks, hc, ih fun d hd => h d (List.mem_cons_of_mem _ hd)]

/-- Text without line breaks may be put in front. -/
lemma breaks_append_of_forall {us : List Char} (h : ∀ c ∈ us, isLineBreak c = false) (vs : List Char) :
    breaks (us ++ vs) = breaks vs := by
  induction us with
  | nil => rfl
  | cons u us ih =>
      have hu : endsLine u (us ++ vs) = false := by
        by_contra ends
        simp [isLineBreak_of_endsLine (by simpa using ends)] at h
      simp [breaks, hu, ih fun d hd => h d (List.mem_cons_of_mem _ hd)]

/-! ### Trivia -/

/-- What stands between lexemes in front of the text `rest`: blanks, comments up to the end of their line, and comments
up to the first `*/` behind their opening. -/
inductive Trivia (rest : List Char) : List Char → Prop
  | nil : Trivia rest []
  | blank {c : Char} {w : List Char} (le : c ≤ ' ') (more : Trivia rest w) : Trivia rest (c :: w)
  | line {body w : List Char} (inLine : ∀ c ∈ body, isLineBreak c = false)
      (ends : ∀ c ∈ (w ++ rest).head?, isLineBreak c = true) (more : Trivia rest w) :
      Trivia rest ('/' :: '/' :: (body ++ w))
  | block {body w : List Char} (inside : ¬ ['*', '/'] <:+: body) (more : Trivia rest w) :
      Trivia rest ('/' :: '*' :: (body ++ '*' :: '/' :: w))

/-! ### Lexemes -/

/-- What a character stands for behind a backslash: five letters for a character that is not seen, any other character for
itself. -/
inductive Escape : Char → Char → Prop
  | lineFeed : Escape 'n' '\n'
  | tab : Escape 't' '\t'
  | carriageReturn : Escape 'r' '\r'
  | backspace : Escape 'b' '\x08'
  | formFeed : Escape 'f' '\x0c'
  | itself {c : Char} (other : c ∉ ['n', 't', 'r', 'b', 'f']) : Escape c c

/-- An escape is read as what it stands for, and stands for nothing else. -/
lemma escape_iff {c d : Char} : Escape c d ↔ unescape c = d := by
  constructor
  · intro escape
    cases escape with
    | itself other =>
        unfold unescape
        split <;> simp_all
    | _ => rfl
  · rintro rfl
    unfold unescape
    split
    · exact .lineFeed
    · exact .tab
    · exact .carriageReturn
    · exact .backspace
    · exact .formFeed
    · exact .itself (by simp_all)

/-- What stands between quotation marks, with the characters that it stands for: no line break, and a quotation mark or
a backslash only behind a backslash. -/
inductive QuotedRun : List Char → List Char → Prop
  | nil : QuotedRun [] []
  | plain {c : Char} {body s : List Char} (mark : c ≠ '"') (slash : c ≠ '\\') (inLine : isLineBreak c = false)
      (more : QuotedRun body s) : QuotedRun (c :: body) (c :: s)
  | escape {c d : Char} {body s : List Char} (stands : Escape c d) (inLine : isLineBreak c = false)
      (more : QuotedRun body s) : QuotedRun ('\\' :: c :: body) (d :: s)

/-- The characters of a token in front of the text `rest`. A word goes on as long as it can, and opens no comment. -/
inductive Lexeme (rest : List Char) : List Char → Token → Prop
  | structural {c : Char} {t : Token} (is : Token.ofStructural? c = some t) : Lexeme rest [c] t
  | quoted {body s : List Char} (run : QuotedRun body s) :
      Lexeme rest ('"' :: (body ++ ['"'])) (.string (String.ofList s))
  | word {x : List Char} (ne : x ≠ []) (inside : ∀ c ∈ x, isWordChar c = true)
      (maximal : ∀ c ∈ rest.head?, isWordChar c = false) (opens : opensComment x = false) :
      Lexeme rest x (.string (String.ofList x))

/-- A text begins with trivia and the lexeme of a token, and `rest` is left. -/
def Opens (cs : List Char) (t : Token) (rest : List Char) : Prop :=
  ∃ w x, cs = w ++ (x ++ rest) ∧ Trivia (x ++ rest) w ∧ Lexeme rest x t

/-- A text begins with the lexemes of the given tokens, with trivia in front of each, and `last` is left. -/
inductive Segments : List Char → List Token → List Char → Prop
  | nil (cs : List Char) : Segments cs [] cs
  | cons {cs rest last : List Char} {t : Token} {ts : List Token} (opens : Opens cs t rest)
      (more : Segments rest ts last) : Segments cs (t :: ts) last

/-- A text consists of the lexemes of the given tokens, with trivia in front of each and behind the last. -/
def Lexes (cs : List Char) (ts : List Token) : Prop := ∃ w, Segments cs ts w ∧ Trivia [] w

lemma structural_cases {c : Char} {t : Token} (h : Token.ofStructural? c = some t) :
    (c = '{' ∧ t = .openBlock) ∨ (c = '}' ∧ t = .closeBlock) ∨ (c = ';' ∧ t = .statementEnd) := by
  unfold Token.ofStructural? at h
  split at h
  · exact .inl ⟨rfl, (Option.some.inj h).symm⟩
  · exact .inr (.inl ⟨rfl, (Option.some.inj h).symm⟩)
  · exact .inr (.inr ⟨rfl, (Option.some.inj h).symm⟩)
  · cases h

lemma opensComment_iff {cs : List Char} :
    opensComment cs = true ↔ ∃ d more, cs = '/' :: d :: more ∧ (d = '/' ∨ d = '*') := by
  constructor
  · intro h
    unfold opensComment at h
    split at h
    · exact ⟨'/', _, rfl, .inl rfl⟩
    · exact ⟨'*', _, rfl, .inr rfl⟩
    · cases h
  · rintro ⟨_, more, rfl, rfl | rfl⟩
    · rfl
    · rfl

lemma Lexeme.ne_nil {rest x : List Char} {t : Token} (h : Lexeme rest x t) : x ≠ [] := by
  cases h with
  | structural => simp
  | quoted => simp
  | word ne => exact ne

lemma isLineBreak_of_lt {c : Char} (h : ' ' < c) : isLineBreak c = false := by
  by_contra breaking
  simp only [Bool.not_eq_false, isLineBreak, Bool.or_eq_true, beq_iff_eq] at breaking
  rcases breaking with rfl | rfl <;> exact absurd h (by decide)

lemma lt_of_ofStructural? {c : Char} {t : Token} (h : Token.ofStructural? c = some t) : ' ' < c := by
  rcases structural_cases h with ⟨rfl, -⟩ | ⟨rfl, -⟩ | ⟨rfl, -⟩
  · decide
  · decide
  · decide

lemma QuotedRun.inLine {body s : List Char} (run : QuotedRun body s) : ∀ c ∈ body, isLineBreak c = false := by
  induction run with
  | nil => nofun
  | plain _ _ hc _ ih => exact List.forall_mem_cons.2 ⟨hc, ih⟩
  | escape _ hc _ ih => exact List.forall_mem_cons.2 ⟨rfl, List.forall_mem_cons.2 ⟨hc, ih⟩⟩

/-- No line ends inside a string that is cut, perhaps behind a backslash. -/
lemma QuotedRun.inLine_cut {body s slash : List Char} (run : QuotedRun body s) (cut : slash = [] ∨ slash = ['\\']) :
    ∀ c ∈ '"' :: (body ++ slash), isLineBreak c = false := by
  refine List.forall_mem_cons.2 ⟨rfl, List.forall_mem_append.2 ⟨run.inLine, ?_⟩⟩
  rcases cut with rfl | rfl
  · nofun
  · exact List.forall_mem_singleton.2 rfl

/-- No line ends inside a lexeme. -/
lemma Lexeme.inLine {rest x : List Char} {t : Token} (h : Lexeme rest x t) : ∀ c ∈ x, isLineBreak c = false := by
  cases h with
  | structural is => simpa using isLineBreak_of_lt (lt_of_ofStructural? is)
  | quoted run =>
      intro c hc
      simp only [List.mem_cons, List.mem_append, List.not_mem_nil, or_false] at hc
      rcases hc with rfl | hc | rfl
      · rfl
      · exact run.inLine c hc
      · rfl
  | word _ inside => exact fun c hc => isLineBreak_of_lt (lt_of_isWordChar (inside c hc))

/-- A lexeme begins neither with a blank nor as a comment. -/
lemma Lexeme.begins {rest x : List Char} {t : Token} (h : Lexeme rest x t) :
    ∃ c x', x = c :: x' ∧ ' ' < c ∧ opensComment (x ++ rest) = false := by
  cases h with
  | @structural c _ is =>
      refine ⟨c, [], rfl, lt_of_ofStructural? is, ?_⟩
      rcases structural_cases is with ⟨rfl, -⟩ | ⟨rfl, -⟩ | ⟨rfl, -⟩
      · rfl
      · rfl
      · rfl
  | quoted => exact ⟨'"', _, rfl, by decide, rfl⟩
  | word ne inside maximal opens =>
      match x, ne with
      | [c], _ =>
          refine ⟨c, [], rfl, lt_of_isWordChar (inside c List.mem_cons_self), ?_⟩
          by_contra opening
          obtain ⟨d, more, same, rfl | rfl⟩ := opensComment_iff.1 (by simpa using opening)
          · rw [(List.cons.inj same).2] at maximal
            cases maximal '/' rfl
          · rw [(List.cons.inj same).2] at maximal
            cases maximal '*' rfl
      | c :: d :: x', _ =>
          refine ⟨c, d :: x', rfl, lt_of_isWordChar (inside c List.mem_cons_self), ?_⟩
          rw [← opens, Bool.eq_iff_iff, opensComment_iff, opensComment_iff]
          simp

/-! ### Offences -/

/-- A place where no lexeme begins, cut in front of the offending character: a character that begins none, or the
end of the line or of the text inside a string or a block comment. -/
inductive Offence : List Char → List Char → Complaint → Prop
  | character {c : Char} {rest : List Char} (above : ' ' < c) (notStructural : Token.ofStructural? c = none)
      (notMark : c ≠ '"') (notWord : isWordChar c = false) : Offence [] (c :: rest) (.unknownCharacter c)
  | quote {body s slash rest : List Char} (run : QuotedRun body s) (cut : slash = [] ∨ slash = ['\\'])
      (ends : ∀ c ∈ rest.head?, isLineBreak c = true) : Offence ('"' :: (body ++ slash)) rest .unterminatedQuote
  | comment {body : List Char} (inside : ¬ ['*', '/'] <:+: body) :
      Offence ('/' :: '*' :: body) [] .unterminatedComment

/-- A text goes on with an offence behind trivia; `before` is all that stands in front of the offending character, and
`rest` is left. -/
def Fails (cs before rest : List Char) (complaint : Complaint) : Prop :=
  ∃ w bad, before = w ++ bad ∧ cs = w ++ (bad ++ rest) ∧ Trivia (bad ++ rest) w ∧ Offence bad rest complaint

/-- A text begins with the lexemes of the given tokens, and then goes on with an offence; `before` is all that stands
in front of the offending character. -/
def Offends (cs : List Char) (ts : List Token) (before : List Char) (complaint : Complaint) : Prop :=
  ∃ front last back rest, cs = front ++ last ∧ Segments cs ts last ∧ Fails last back rest complaint ∧
    before = front ++ back

/-! ### Every text lexes or offends -/

/-- A block comment ends at a first `*/`, or there is none. -/
lemma exists_close (cs : List Char) :
    (∃ body rest, cs = body ++ '*' :: '/' :: rest ∧ ¬ ['*', '/'] <:+: body) ∨ ¬ ['*', '/'] <:+: cs := by
  induction cs with
  | nil => exact .inr (by simp)
  | cons c cs ih =>
      by_cases close : ['*', '/'] <+: c :: cs
      · obtain ⟨rest, hrest⟩ := close
        exact .inl ⟨[], rest, by simpa using hrest.symm, by simp⟩
      rcases ih with ⟨body, rest, rfl, inside⟩ | inside
      · refine .inl ⟨c :: body, rest, rfl, fun found => ?_⟩
        rcases List.infix_cons_iff.1 found with front | later
        · exact close (front.trans ⟨_, rfl⟩)
        · exact inside later
      · refine .inr fun found => ?_
        rcases List.infix_cons_iff.1 found with front | later
        · exact close front
        · exact inside later

lemma length_dropWhile_le (p : Char → Bool) (cs : List Char) : (cs.dropWhile p).length ≤ cs.length :=
  (List.dropWhile_suffix p).length_le

/-- What is left behind the characters of a class begins with none of it. -/
lemma head_dropWhile (p : Char → Bool) (cs : List Char) : ∀ c ∈ (cs.dropWhile p).head?, p c = false := by
  intro c hc
  have h := List.head?_dropWhile_not p cs
  rw [Option.mem_def.1 hc] at h
  simpa using h

/-- Behind trivia a text ends, goes on with what opens no comment, or opens a comment that does not end. -/
lemma exists_trivia (cs : List Char) : ∃ w rest, cs = w ++ rest ∧ Trivia rest w ∧
    (rest = [] ∨ (∃ c more, rest = c :: more ∧ ' ' < c ∧ opensComment rest = false) ∨
      ∃ body, rest = '/' :: '*' :: body ∧ ¬ ['*', '/'] <:+: body) := by
  match cs with
  | [] => exact ⟨[], [], rfl, .nil, .inl rfl⟩
  | c :: cs =>
      by_cases blank : c ≤ ' '
      · obtain ⟨w, rest, rfl, trivia, settled⟩ := exists_trivia cs
        exact ⟨c :: w, rest, rfl, .blank blank trivia, settled⟩
      cases opens : opensComment (c :: cs) with
      | false => exact ⟨[], c :: cs, rfl, .nil, .inr (.inl ⟨c, cs, rfl, Char.not_le.1 blank, opens⟩)⟩
      | true =>
          obtain ⟨_, more, same, rfl | rfl⟩ := opensComment_iff.1 opens
          · cases same
            have less := length_dropWhile_le (fun c => !isLineBreak c) more
            obtain ⟨w, rest, hw, trivia, settled⟩ := exists_trivia (more.dropWhile fun c => !isLineBreak c)
            refine ⟨'/' :: '/' :: (more.takeWhile (fun c => !isLineBreak c) ++ w), rest, ?_, .line ?_ ?_ trivia,
              settled⟩
            · simp [← hw, List.takeWhile_append_dropWhile]
            · intro d hd
              simpa using List.mem_takeWhile_imp hd
            · intro d hd
              rw [← hw] at hd
              simpa using head_dropWhile _ _ d hd
          · cases same
            rcases exists_close more with ⟨body, more', rfl, inside⟩ | inside
            · obtain ⟨w, rest, rfl, trivia, settled⟩ := exists_trivia more'
              exact ⟨'/' :: '*' :: (body ++ '*' :: '/' :: w), rest, by simp, .block inside trivia, settled⟩
            · exact ⟨[], '/' :: '*' :: more, rfl, .nil, .inr (.inr ⟨more, rfl, inside⟩)⟩
termination_by cs.length
decreasing_by
  all_goals subst_vars; simp only [List.length_cons, List.length_append]; omega

/-- Behind a quotation mark a string ends at another one, or the line or the text ends inside it. -/
lemma exists_quoted (cs : List Char) : ∃ body s, QuotedRun body s ∧ ((∃ rest, cs = body ++ '"' :: rest) ∨
    ∃ slash rest, cs = body ++ (slash ++ rest) ∧ (slash = [] ∨ slash = ['\\']) ∧
      ∀ c ∈ rest.head?, isLineBreak c = true) := by
  match cs with
  | [] => exact ⟨[], [], .nil, .inr ⟨[], [], rfl, .inl rfl, nofun⟩⟩
  | c :: cs =>
      cases inLine : isLineBreak c with
      | true => exact ⟨[], [], .nil, .inr ⟨[], c :: cs, rfl, .inl rfl, by simpa using inLine⟩⟩
      | false =>
          by_cases mark : c = '"'
          · exact ⟨[], [], .nil, .inl ⟨cs, by rw [mark]; rfl⟩⟩
          by_cases slash : c = '\\'
          · subst slash
            match cs with
            | [] => exact ⟨[], [], .nil, .inr ⟨['\\'], [], rfl, .inr rfl, nofun⟩⟩
            | d :: cs =>
                cases inLine' : isLineBreak d with
                | true => exact ⟨[], [], .nil, .inr ⟨['\\'], d :: cs, rfl, .inr rfl, by simpa using inLine'⟩⟩
                | false =>
                    obtain ⟨body, s, run, ⟨rest, rfl⟩ | ⟨slash, rest, rfl, cut, ends⟩⟩ := exists_quoted cs
                    · exact ⟨_, _, .escape (escape_iff.2 rfl) inLine' run, .inl ⟨rest, rfl⟩⟩
                    · exact ⟨_, _, .escape (escape_iff.2 rfl) inLine' run, .inr ⟨slash, rest, rfl, cut, ends⟩⟩
          · obtain ⟨body, s, run, ⟨rest, rfl⟩ | ⟨slash, rest, rfl, cut, ends⟩⟩ := exists_quoted cs
            · exact ⟨_, _, .plain mark ‹_› inLine run, .inl ⟨rest, rfl⟩⟩
            · exact ⟨_, _, .plain mark ‹_› inLine run, .inr ⟨slash, rest, rfl, cut, ends⟩⟩
termination_by cs.length

/-- What opens a comment still does so with more text behind it. -/
lemma opensComment_append {x : List Char} (h : opensComment x = true) (rest : List Char) :
    opensComment (x ++ rest) = true := by
  obtain ⟨d, more, rfl, opens⟩ := opensComment_iff.1 h
  exact opensComment_iff.2 ⟨d, more ++ rest, rfl, opens⟩

/-- Where neither blanks nor a comment stand, there is a lexeme or an offence. -/
lemma exists_lexeme {c : Char} {more : List Char} (above : ' ' < c) (opens : opensComment (c :: more) = false) :
    (∃ x rest t, c :: more = x ++ rest ∧ Lexeme rest x t) ∨
      ∃ bad rest complaint, c :: more = bad ++ rest ∧ Offence bad rest complaint := by
  cases structural : Token.ofStructural? c with
  | some t => exact .inl ⟨[c], more, t, rfl, .structural structural⟩
  | none =>
      by_cases mark : c = '"'
      · subst mark
        obtain ⟨body, s, run, ⟨rest, rfl⟩ | ⟨slash, rest, rfl, cut, ends⟩⟩ := exists_quoted more
        · exact .inl ⟨'"' :: (body ++ ['"']), rest, _, by simp, .quoted run⟩
        · exact .inr ⟨'"' :: (body ++ slash), rest, _, by simp, .quote run cut ends⟩
      cases inWord : isWordChar c with
      | false => exact .inr ⟨[], c :: more, _, rfl, .character above structural mark inWord⟩
      | true =>
          have whole : c :: more = (c :: more).takeWhile isWordChar ++ (c :: more).dropWhile isWordChar :=
            List.takeWhile_append_dropWhile.symm
          refine .inl ⟨_, _, _, whole, .word ?_ (fun d hd => List.mem_takeWhile_imp hd) (head_dropWhile _ _) ?_⟩
          · simp [inWord]
          · by_contra word
            rw [whole, opensComment_append (by simpa using word)] at opens
            cases opens

/-- A text ends behind trivia, or goes on with a token or an offence. -/
lemma cases_next (cs : List Char) :
    Trivia [] cs ∨ (∃ t rest, Opens cs t rest) ∨ ∃ before rest complaint, Fails cs before rest complaint := by
  obtain ⟨w, rest, rfl, trivia, rfl | ⟨c, more, rfl, above, opens⟩ | ⟨body, rfl, inside⟩⟩ := exists_trivia cs
  · exact .inl (by simpa using trivia)
  · rcases exists_lexeme above opens with ⟨x, rest, t, whole, lexeme⟩ | ⟨bad, rest, complaint, whole, offence⟩
    · rw [whole] at trivia ⊢
      exact .inr (.inl ⟨t, rest, w, x, rfl, trivia, lexeme⟩)
    · rw [whole] at trivia ⊢
      exact .inr (.inr ⟨_, rest, complaint, w, bad, rfl, rfl, trivia, offence⟩)
  · exact .inr (.inr ⟨_, [], _, w, '/' :: '*' :: body, rfl, by simp, by simpa using trivia, .comment inside⟩)

/-- A token uses characters up. -/
lemma Opens.length_lt {cs rest : List Char} {t : Token} (h : Opens cs t rest) : rest.length < cs.length := by
  obtain ⟨w, x, rfl, -, lexeme⟩ := h
  have := List.length_pos_iff.2 lexeme.ne_nil
  simp only [List.length_append]
  omega

/-- No lexeme stands for the end of the input. -/
lemma Opens.ne_endOfInput {cs rest : List Char} {t : Token} (h : Opens cs t rest) : t ≠ .endOfInput := by
  rintro rfl
  obtain ⟨w, x, -, -, lexeme⟩ := h
  cases lexeme with
  | structural is => rcases structural_cases is with ⟨-, same⟩ | ⟨-, same⟩ | ⟨-, same⟩ <;> cases same

/-- What is left behind some lexemes is the rest of the text. -/
lemma Segments.exists_front {cs last : List Char} {ts : List Token} (h : Segments cs ts last) :
    ∃ front, cs = front ++ last := by
  induction h with
  | nil cs => exact ⟨[], rfl⟩
  | cons opens _ ih =>
      obtain ⟨w, x, rfl, -, -⟩ := opens
      obtain ⟨front, rfl⟩ := ih
      exact ⟨w ++ (x ++ front), by simp⟩

lemma segments_nil_iff {cs last : List Char} : Segments cs [] last ↔ cs = last := by
  constructor
  · rintro ⟨⟩
    rfl
  · rintro rfl
    exact .nil cs

lemma segments_cons_iff {cs last : List Char} {t : Token} {ts : List Token} :
    Segments cs (t :: ts) last ↔ ∃ rest, Opens cs t rest ∧ Segments rest ts last := by
  constructor
  · rintro (_ | ⟨opens, more⟩)
    exact ⟨_, opens, more⟩
  · rintro ⟨rest, opens, more⟩
    exact .cons opens more

lemma segments_append_iff {cs last : List Char} {ts us : List Token} :
    Segments cs (ts ++ us) last ↔ ∃ rest, Segments cs ts rest ∧ Segments rest us last := by
  induction ts generalizing cs with
  | nil => simp [segments_nil_iff]
  | cons t ts ih =>
      simp only [List.cons_append, segments_cons_iff, ih]
      constructor
      · rintro ⟨mid, opens, rest, first, second⟩
        exact ⟨rest, ⟨mid, opens, first⟩, second⟩
      · rintro ⟨rest, ⟨mid, opens, first⟩, second⟩
        exact ⟨mid, opens, rest, first, second⟩

/-- **A text is made of lexemes, or a first offence is met.** -/
theorem lexes_or_offends (cs : List Char) :
    (∃ ts, Lexes cs ts) ∨ ∃ ts before complaint, Offends cs ts before complaint := by
  rcases cases_next cs with behind | ⟨t, rest, opens⟩ | ⟨before, rest, complaint, fails⟩
  · exact .inl ⟨[], cs, .nil cs, behind⟩
  · have less := opens.length_lt
    rcases lexes_or_offends rest with ⟨ts, w, segments, behind⟩ | ⟨ts, before, complaint, offends⟩
    · exact .inl ⟨t :: ts, w, .cons opens segments, behind⟩
    · obtain ⟨front, last, back, rest', rfl, segments, fails, rfl⟩ := offends
      obtain ⟨w, x, rfl, trivia, lexeme⟩ := opens
      exact .inr ⟨t :: ts, w ++ (x ++ (front ++ back)), complaint, w ++ (x ++ front), last, back, rest', by simp,
        .cons ⟨w, x, rfl, trivia, lexeme⟩ segments, fails, by simp⟩
  · exact .inr ⟨[], before, complaint, [], cs, before, rest, rfl, .nil cs, fails, rfl⟩
termination_by cs.length

end CommandTree.Lexicon
