import CommandTree.Proofs.Gathering
import CommandTree.Proofs.Lexicon
/-!
What the scanners do with the parts of the lexical grammar.

* `Scanner.ofText` is a scanner in front of a text that is all at hand, `Lexer.ofText` a lexer;
* `Scanner.skipBlank_trivia`: trivia are passed over, and their line breaks are counted;
* `Scanner.readWord_append`, `Scanner.readQuoted_append`: the rest of a lexeme is taken;
* `Lexer.compute_lexeme`, `Lexer.compute_end`, `Lexer.compute_offence`: what a lexer finds behind trivia.
-/

namespace CommandTree

open Text Lexicon

namespace Scanner

/-- A scanner in front of a text. -/
def ofText (cs : List Char) (line : Nat) : Scanner := ⟨⟨cs, [], none⟩, line⟩

variable {c : Char} {cs ds body rest w x s slash : List Char} {line line' : Nat}

@[simp] lemma read_ofText_cons : (ofText (c :: cs) line).stream.read = .char c (ofText cs line).stream := rfl

@[simp] lemma read_ofText_nil : (ofText [] line).stream.read = .finished (ofText [] line).stream := rfl

@[simp] lemma unread_ofText : (ofText cs line).stream.unread c = (ofText (c :: cs) line).stream := rfl

@[simp] lemma withStream_ofText : (ofText cs line).withStream (ofText ds line').stream = ofText ds line := rfl

/-! ### Line breaks -/

/-- A line break is counted behind its last character, by a scanner that goes on with any others alike. -/
lemma lineBreak_andThen {α : Type} {next : Scanner → Scan α}
    (feed : ∀ cs line, next (ofText ('\n' :: cs) line) = next (ofText cs (line + 1))) (hc : isLineBreak c = true) :
    ((ofText cs line).lineBreak c).andThen (fun _ => next) =
      next (ofText cs (line + if endsLine c cs then 1 else 0)) := by
  simp only [isLineBreak, Bool.or_eq_true, beq_iff_eq] at hc
  rcases hc with rfl | rfl
  · cases cs with
    | nil => rfl
    | cons d cs =>
        by_cases hd : d = '\n'
        · subst hd
          exact (feed cs line).symm
        · have ends : endsLine '\r' (d :: cs) = true := by simp [endsLine, hd]
          simp only [ends, if_true]
          rw [lineBreak]
          simp only [ofText, CharStream.read, if_true, if_neg hd]
          rfl
  · rfl

/-! ### Comments -/

/-- A line comment is passed over up to the end of its line. -/
lemma skipLineComment_append (inLine : ∀ c ∈ body, isLineBreak c = false)
    (ends : ∀ c ∈ rest.head?, isLineBreak c = true) :
    (ofText (body ++ rest) line).skipLineComment = .ok () (ofText rest line) := by
  induction body with
  | nil =>
      rw [skipLineComment_eq]
      match rest with
      | [] => rfl
      | c :: rest =>
          have hc : isLineBreak c = true := ends c rfl
          simp only [List.nil_append, read_ofText_cons, hc, if_true, unread_ofText, withStream_ofText]
  | cons c body ih =>
      have hc : isLineBreak c = false := inLine c List.mem_cons_self
      rw [skipLineComment_eq]
      simp only [List.cons_append, read_ofText_cons, hc, Bool.false_eq_true, if_false, withStream_ofText]
      exact ih fun d hd => inLine d (List.mem_cons_of_mem _ hd)

/-- One character of a block comment that does not close it. -/
lemma skipBlockComment_cons {star : Bool} (open' : (star && c == '/') = false) :
    (ofText (c :: cs) line).skipBlockComment star =
      (ofText cs (line + if endsLine c cs then 1 else 0)).skipBlockComment (c == '*') := by
  have feed : ∀ cs line, (ofText ('\n' :: cs) line).skipBlockComment false =
      (ofText cs (line + 1)).skipBlockComment false := fun cs line => by
    rw [skipBlockComment_eq]
    rfl
  rw [skipBlockComment_eq]
  cases hc : isLineBreak c with
  | true =>
      have noStar : (c == '*') = false := by
        simp only [isLineBreak, Bool.or_eq_true, beq_iff_eq] at hc
        rcases hc with rfl | rfl <;> rfl
      simp only [read_ofText_cons, hc, if_true, withStream_ofText, noStar]
      exact lineBreak_andThen feed hc
  | false =>
      have inLine : endsLine c cs = false := by
        by_contra ends
        rw [isLineBreak_of_endsLine (by simpa using ends)] at hc
        cases hc
      simp only [read_ofText_cons, hc, open', inLine, Bool.false_eq_true, if_false, withStream_ofText, Nat.add_zero]

/-- What does not close a block comment is passed over. -/
lemma skipBlockComment_append (star : Bool) (line : Nat) (hs : star = true → body.head? ≠ some '/')
    (inside : ¬ ['*', '/'] <:+: body) (hr : rest.head? ≠ some '\n') :
    ∃ star', (ofText (body ++ rest) line).skipBlockComment star =
      (ofText rest (line + breaks body)).skipBlockComment star' := by
  induction body generalizing star line with
  | nil => exact ⟨star, rfl⟩
  | cons c body ih =>
      have open' : (star && c == '/') = false := by
        cases star with
        | false => rfl
        | true => simpa using hs rfl
      rw [List.cons_append, skipBlockComment_cons open', endsLine_append hr, breaks, ← Nat.add_assoc]
      refine ih _ _ (fun starred slashed => inside ?_) fun later => inside (List.infix_cons later)
      cases body with
      | nil => cases slashed
      | cons d body =>
          simp only [List.head?_cons, Option.some.injEq] at slashed
          rw [beq_iff_eq.1 starred, slashed]
          exact (List.prefix_append ['*', '/'] body).isInfix

/-- A block comment is passed over up to the first `*/`. -/
lemma skipBlockComment_closed (inside : ¬ ['*', '/'] <:+: body) :
    (ofText (body ++ '*' :: '/' :: rest) line).skipBlockComment false = .ok () (ofText rest (line + breaks body)) := by
  obtain ⟨star, passed⟩ := skipBlockComment_append false line nofun inside
    (show ('*' :: '/' :: rest).head? ≠ some '\n' by simp)
  rw [passed, skipBlockComment_cons (by simp), skipBlockComment_eq]
  rfl

/-- A block comment without `*/` is an error at the end of the text. -/
lemma skipBlockComment_unclosed (inside : ¬ ['*', '/'] <:+: body) :
    (ofText body line).skipBlockComment false =
      .error (.parse ⟨.unterminatedComment, line + breaks body, none⟩) (ofText [] (line + breaks body)) := by
  obtain ⟨star, passed⟩ := skipBlockComment_append false line nofun inside
    (show ([] : List Char).head? ≠ some '\n' by simp)
  rw [← List.append_nil body, passed, skipBlockComment_eq, List.append_nil]
  rfl

/-! ### Trivia -/

/-- A blank is passed over. -/
lemma skipBlank_blank (le : c ≤ ' ') :
    (ofText (c :: cs) line).skipBlank = (ofText cs (line + if endsLine c cs then 1 else 0)).skipBlank := by
  have feed : ∀ cs line, (ofText ('\n' :: cs) line).skipBlank = (ofText cs (line + 1)).skipBlank := fun cs line => by
    rw [skipBlank_eq]
    rfl
  rw [skipBlank_eq]
  cases hc : isLineBreak c with
  | true =>
      simp only [read_ofText_cons, hc, if_true, withStream_ofText]
      exact lineBreak_andThen feed hc
  | false =>
      have inLine : endsLine c cs = false := by
        by_contra ends
        rw [isLineBreak_of_endsLine (by simpa using ends)] at hc
        cases hc
      simp only [read_ofText_cons, hc, inLine, le, Bool.false_eq_true, if_false, if_true, withStream_ofText,
        Nat.add_zero]

/-- A line comment is skipped with what follows it. -/
lemma skipBlank_line : (ofText ('/' :: '/' :: cs) line).skipBlank =
    (ofText cs line).skipLineComment.andThen fun _ s => s.skipBlank := by
  rw [skipBlank_eq]
  rfl

/-- A block comment is skipped with what follows it. -/
lemma skipBlank_block : (ofText ('/' :: '*' :: cs) line).skipBlank =
    ((ofText cs line).skipBlockComment false).andThen fun _ s => s.skipBlank := by
  rw [skipBlank_eq]
  rfl

/-- Trivia are passed over, and their line breaks are counted. -/
lemma skipBlank_trivia (line : Nat) (trivia : Trivia rest w) (hr : rest.head? ≠ some '\n') :
    (ofText (w ++ rest) line).skipBlank = (ofText rest (line + breaks w)).skipBlank := by
  induction trivia generalizing line with
  | nil => rfl
  | blank le _ ih => rw [List.cons_append, skipBlank_blank le, endsLine_append hr, ih, breaks, Nat.add_assoc]
  | @line body w inLine ends _ ih =>
      have opening : ∀ c ∈ '/' :: '/' :: body, isLineBreak c = false := by simpa using ⟨rfl, inLine⟩
      have none : breaks ('/' :: '/' :: (body ++ w)) = breaks w := breaks_append_of_forall opening w
      simp only [List.cons_append, List.append_assoc]
      rw [skipBlank_line, skipLineComment_append inLine ends, none]
      exact ih line
  | @block body w inside _ ih =>
      have both : breaks ('/' :: '*' :: (body ++ '*' :: '/' :: w)) = breaks body + breaks w := by
        have inLine : isLineBreak '/' = false ∧ isLineBreak '*' = false := ⟨rfl, rfl⟩
        have opening : breaks (['/', '*'] ++ (body ++ '*' :: '/' :: w)) = breaks (body ++ '*' :: '/' :: w) :=
          breaks_append_of_forall (by simpa using inLine) _
        have closing : breaks (['*', '/'] ++ w) = breaks w := breaks_append_of_forall (by simpa using inLine.symm) w
        simp only [List.cons_append, List.nil_append] at opening closing
        rw [opening, breaks_append (by simp), closing]
      simp only [List.cons_append, List.append_assoc]
      rw [skipBlank_block, skipBlockComment_closed inside, both, ← Nat.add_assoc]
      exact ih _

/-- Behind trivia the end of the text is found. -/
lemma skipBlank_nil : (ofText [] line).skipBlank = .ok none (ofText [] line) := by
  rw [skipBlank_eq]
  rfl

/-- Behind trivia the first character of something else is taken. -/
lemma skipBlank_cons (above : ' ' < c) (opens : opensComment (c :: cs) = false) :
    (ofText (c :: cs) line).skipBlank = .ok (some c) (ofText cs line) := by
  rw [skipBlank_eq]
  simp only [read_ofText_cons, isLineBreak_of_lt above, Char.not_le.2 above, Bool.false_eq_true, if_false,
    withStream_ofText]
  by_cases slash : c = '/'
  · subst slash
    simp only [if_true]
    match cs with
    | [] => rfl
    | d :: cs =>
        have line : d ≠ '/' := by
          rintro rfl
          cases opens
        have block : d ≠ '*' := by
          rintro rfl
          cases opens
        simp only [read_ofText_cons, line, block, if_false, unread_ofText, withStream_ofText]
  · simp only [slash, if_false]

/-! ### Lexemes -/

/-- The rest of a word is taken. -/
lemma readWord_append (inside : ∀ c ∈ x, isWordChar c = true) (maximal : ∀ c ∈ rest.head?, isWordChar c = false) :
    (ofText (x ++ rest) line).readWord = .ok x (ofText rest line) := by
  induction x with
  | nil =>
      rw [readWord_eq]
      match rest with
      | [] => rfl
      | c :: rest =>
          have hc : isWordChar c = false := maximal c rfl
          simp only [List.nil_append, read_ofText_cons, hc, Bool.false_eq_true, if_false, unread_ofText,
            withStream_ofText]
  | cons c x ih =>
      have hc : isWordChar c = true := inside c List.mem_cons_self
      have rest' : (ofText (x ++ rest) line).readWord = .ok x (ofText rest line) :=
        ih fun d hd => inside d (List.mem_cons_of_mem _ hd)
      rw [readWord_eq]
      simp only [List.cons_append, read_ofText_cons, hc, if_true, withStream_ofText, rest', Scan.andThen]

/-- What stands between quotation marks is read up to whatever follows. -/
lemma readQuoted_append (run : QuotedRun body s) :
    (ofText (body ++ rest) line).readQuoted =
      (ofText rest line).readQuoted.andThen fun cs s' => .ok (s ++ cs) s' := by
  induction run with
  | nil =>
      cases h : (ofText rest line).readQuoted with
      | ok cs s => simp only [List.nil_append, h, Scan.andThen]
      | error e s => simp only [List.nil_append, h, Scan.andThen]
  | @plain c body s mark slash inLine _ ih =>
      rw [readQuoted_eq]
      simp only [List.cons_append, read_ofText_cons, inLine, mark, slash, Bool.false_eq_true, if_false,
        withStream_ofText, ih]
      cases (ofText rest line).readQuoted <;> rfl
  | @escape c _ body s stands inLine _ ih =>
      obtain rfl := escape_iff.1 stands
      have slash : isLineBreak '\\' = false := rfl
      rw [readQuoted_eq]
      simp only [List.cons_append, read_ofText_cons, slash, inLine, Bool.false_eq_true, if_false, if_true,
        (by decide : '\\' ≠ '"'), withStream_ofText, ih]
      cases (ofText rest line).readQuoted <;> rfl

/-- A quoted string ends with a quotation mark. -/
lemma readQuoted_closed (run : QuotedRun body s) :
    (ofText (body ++ '"' :: rest) line).readQuoted = .ok s (ofText rest line) := by
  have mark : isLineBreak '"' = false := rfl
  rw [readQuoted_append run, readQuoted_eq]
  simp only [read_ofText_cons, mark, Bool.false_eq_true, if_false, if_true, Scan.andThen, List.append_nil,
    withStream_ofText]

/-- A quoted string must not be cut short. -/
lemma readQuoted_cut (line : Nat) (run : QuotedRun body s) (cut : slash = [] ∨ slash = ['\\'])
    (ends : ∀ c ∈ rest.head?, isLineBreak c = true) :
    ∃ s', (ofText (body ++ (slash ++ rest)) line).readQuoted = .error (.parse ⟨.unterminatedQuote, line, none⟩) s' := by
  have stops : ∃ s', (ofText (slash ++ rest) line).readQuoted =
      .error (.parse ⟨.unterminatedQuote, line, none⟩) s' := by
    rw [readQuoted_eq]
    match rest with
    | [] => rcases cut with rfl | rfl <;> exact ⟨_, rfl⟩
    | c :: rest =>
        have hc : isLineBreak c = true := ends c rfl
        rcases cut with rfl | rfl
        · simp only [List.nil_append, read_ofText_cons, hc, if_true]
          exact ⟨_, rfl⟩
        · have hs : isLineBreak '\\' = false := rfl
          simp only [List.cons_append, List.nil_append, read_ofText_cons, hs, hc, Bool.false_eq_true, if_false, if_true,
            (by decide : '\\' ≠ '"')]
          exact ⟨_, rfl⟩
  obtain ⟨s', stopped⟩ := stops
  refine ⟨s', ?_⟩
  rw [readQuoted_append run, stopped]
  rfl

end Scanner

/-! ### Tokens -/

namespace Lexer

/-- A lexer in front of a text. -/
def ofText (cs : List Char) (line : Nat) : Lexer := ⟨.ofText cs line, false⟩

variable {w x rest bad : List Char} {t : Token} {line : Nat} {complaint : Complaint}

lemma head_ne_feed_of_lt {c : Char} {cs : List Char} (above : ' ' < c) : (c :: cs).head? ≠ some '\n' := by
  simp only [List.head?_cons, ne_eq, Option.some.injEq]
  rintro rfl
  exact absurd above (by decide)

/-- Behind trivia the first character of something else decides what token there is. -/
lemma compute_trivia {c : Char} {more : List Char} (trivia : Trivia (c :: more) w) (above : ' ' < c)
    (opens : opensComment (c :: more) = false) :
    (ofText (w ++ c :: more) line).compute = tokenFrom (some c) (.ofText more (line + breaks w)) :=
  compute_of_ok rfl ((Scanner.skipBlank_trivia line trivia (head_ne_feed_of_lt above)).trans
    (Scanner.skipBlank_cons above opens))

lemma tokenFrom_quote (s : Scanner) : tokenFrom (some '"') s = ofScan [] s.readQuoted := rfl

lemma tokenFrom_word {c : Char} (h : isWordChar c = true) (s : Scanner) :
    tokenFrom (some c) s = ofScan [c] s.readWord := by
  have plain : Token.ofStructural? c = none := by
    by_contra structural
    obtain ⟨t, is⟩ := Option.ne_none_iff_exists'.1 structural
    rcases structural_cases is with ⟨rfl, -⟩ | ⟨rfl, -⟩ | ⟨rfl, -⟩ <;> cases h
  have mark : c ≠ '"' := by
    rintro rfl
    cases h
  simp only [tokenFrom, plain, mark, if_false, h, if_true]

/-- **A lexeme behind trivia is the next token.** -/
theorem compute_lexeme (trivia : Trivia (x ++ rest) w) (lexeme : Lexeme rest x t) :
    (ofText (w ++ (x ++ rest)) line).compute = (ofText rest (line + breaks w), .item t) := by
  obtain ⟨c, x', rfl, above, opens⟩ := lexeme.begins
  rw [List.cons_append] at trivia opens ⊢
  rw [compute_trivia trivia above opens]
  cases lexeme with
  | structural is => simp only [tokenFrom, is, List.nil_append, ofText]
  | quoted run =>
      simp only [tokenFrom_quote, List.append_assoc, List.cons_append, List.nil_append,
        Scanner.readQuoted_closed run, ofScan, ofText]
  | word _ inside maximal =>
      rw [tokenFrom_word (inside c List.mem_cons_self),
        Scanner.readWord_append (fun d hd => inside d (List.mem_cons_of_mem _ hd)) maximal]
      rfl

/-- **Behind the last trivia the next token is the end of the input.** -/
theorem compute_end (trivia : Trivia [] w) :
    (ofText w line).compute = (⟨.ofText [] (line + breaks w), true⟩, .item .endOfInput) := by
  have passed := Scanner.skipBlank_trivia line trivia (by simp)
  rw [List.append_nil, Scanner.skipBlank_nil] at passed
  exact compute_of_ok (l := ofText w line) rfl passed

/-- **An offence behind trivia is complained of, at the line of the offending character.** -/
theorem compute_offence (line : Nat) (trivia : Trivia (bad ++ rest) w) (offence : Offence bad rest complaint) :
    ∃ l, (ofText (w ++ (bad ++ rest)) line).compute =
      (l, .failed (.parse ⟨complaint, line + breaks (w ++ bad), none⟩)) := by
  cases offence with
  | @character c more above notStructural notMark notWord =>
      have opens : opensComment (c :: more) = false := by
        by_contra opening
        obtain ⟨_, _, same, -⟩ := opensComment_iff.1 (by simpa using opening)
        cases same
        cases notWord
      refine ⟨ofText more (line + breaks w), ?_⟩
      rw [List.nil_append, compute_trivia trivia above opens]
      simp only [tokenFrom, notStructural, notMark, notWord, Bool.false_eq_true, if_false, List.append_nil]
      rfl
  | @quote body s slash _ run cut ends =>
      have none : breaks (w ++ '"' :: (body ++ slash)) = breaks w := by
        rw [breaks_append (head_ne_feed_of_lt (by decide)), breaks_eq_zero (run.inLine_cut cut), Nat.add_zero]
      obtain ⟨s', stopped⟩ := Scanner.readQuoted_cut (line + breaks w) run cut ends
      refine ⟨⟨s', false⟩, ?_⟩
      rw [none]
      simp only [List.cons_append, List.append_assoc] at trivia ⊢
      rw [compute_trivia trivia (by decide) rfl, tokenFrom_quote, stopped]
      rfl
  | @comment body inside =>
      have all : breaks (w ++ '/' :: '*' :: body) = breaks w + breaks body := by
        have opening : breaks (['/', '*'] ++ body) = breaks body :=
          breaks_append_of_forall (List.forall_mem_cons.2 ⟨rfl, List.forall_mem_singleton.2 rfl⟩) body
        simp only [List.cons_append, List.nil_append] at opening
        rw [breaks_append (head_ne_feed_of_lt (by decide)), opening]
      rw [List.append_nil] at trivia ⊢
      have passed := Scanner.skipBlank_trivia line trivia (head_ne_feed_of_lt (by decide))
      rw [Scanner.skipBlank_block, Scanner.skipBlockComment_unclosed inside] at passed
      rw [all, ← Nat.add_assoc]
      exact ⟨_, compute_of_error rfl passed⟩

end Lexer

end CommandTree
