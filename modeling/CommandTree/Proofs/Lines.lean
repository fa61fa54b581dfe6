import CommandTree.Proofs.Invariant
import CommandTree.Proofs.Lexicon.Recognition
import CommandTree.Proofs.Machine.Steps
/-!
The line numbers of tokens and of complaints.

A line ends behind a line feed, and behind a carriage return that no line feed follows. The line of a place in a text is
one more than the number of lines that end in front of it.

* `Lexicon.linesBefore` counts the lines that end in front of a place; `Lexicon.LastAt` is where the last of some tokens
  ends, at its last character;
* `Lexer.Reaches`: a lexer has computed some tokens; `Lexer.Reaches.line_eq`: it is then on the line of the last one;
* `Lexer.Stands.offends`: a lexical complaint names the line of the offending character;
* `TokenStream.lineKeeping`: a refusal names the line of the last token computed, and the parser keeps that up;
* `Parser.lines_exact` puts these together for all texts and all registries.
-/

namespace CommandTree

open Text

/-! ### Lines in front of a place -/

namespace Lexicon

/-- How many lines end in front of the place behind the first `n` characters of a text. -/
def linesBefore : List Char → Nat → Nat
  | c :: cs, n + 1 => (if endsLine c cs then 1 else 0) + linesBefore cs n
  | _, _ => 0

variable {cs rest front bad : List Char} {t : Token} {ts : List Token} {complaint : Complaint}

/-- The lines that end in front of a place are those that end in the text before it, unless it lies between a carriage
return and a line feed. -/
lemma linesBefore_append (h : rest.head? = some '\n' → front.getLast? ≠ some '\r') :
    linesBefore (front ++ rest) front.length = breaks front := by
  induction front with
  | nil => cases rest <;> rfl
  | cons c front ih =>
      have same : endsLine c (front ++ rest) = endsLine c front := by
        by_cases feed : rest.head? = some '\n'
        · cases front with
          | nil =>
              have other : (c == '\r') = false := by simpa using h feed
              simp [endsLine, other]
          | cons d front => rfl
        · exact endsLine_append feed
      have later : linesBefore (front ++ rest) front.length = breaks front := by
        refine ih fun feed last => h feed ?_
        rw [List.getLast?_cons, last]
        rfl
      simp only [List.cons_append, List.length_cons, linesBefore, breaks, same, later]

/-- All lines of a text end in front of its end. -/
lemma linesBefore_length (cs : List Char) : linesBefore cs cs.length = breaks cs := by
  have all := @linesBefore_append [] cs nofun
  rwa [List.append_nil] at all

/-- Where the last of some tokens ends that a text begins with: at the last character of its lexeme, in front of which
so many characters stand, or, for the end of the input, behind the text. -/
inductive LastAt (cs : List Char) : List Token → Nat → Prop
  | lexeme {ts : List Token} {t : Token} {front rest : List Char} {c : Char} (whole : cs = front ++ c :: rest)
      (segments : Segments cs (ts ++ [t]) rest) : LastAt cs (ts ++ [t]) front.length
  | endOfInput {ts : List Token} (lexes : Lexes cs ts) : LastAt cs (ts ++ [.endOfInput]) cs.length

/-- A lexeme has a last character, at which no line ends. -/
lemma Opens.exists_last (h : Opens (front ++ rest) t rest) :
    ∃ before c, front = before ++ [c] ∧ isLineBreak c = false := by
  obtain ⟨w, x, rfl, -, lexeme, -⟩ := h.front_eq
  obtain ⟨y, c, rfl⟩ := (List.eq_nil_or_concat x).resolve_left lexeme.ne_nil
  exact ⟨w ++ y, c, by simp, lexeme.inLine c (by simp)⟩

/-- An offence does not lie between a carriage return and a line feed. -/
lemma Offence.apart (h : Offence bad rest complaint) (feed : rest.head? = some '\n') (us : List Char) :
    (us ++ bad).getLast? ≠ some '\r' := by
  intro last
  cases h with
  | character above =>
      cases feed
      exact absurd above (by decide)
  | @quote body s slash _ run cut =>
      have inside : '\r' ∈ '"' :: (body ++ slash) := by
        rw [List.getLast?_append, List.getLast?_cons, Option.some_or, ← List.getLast?_cons] at last
        exact List.mem_of_getLast? last
      cases run.inLine_cut cut _ inside
  | comment => cases feed

end Lexicon

open Lexicon

/-! ### Lexers that have computed tokens -/

namespace Lexer

/-- A lexer computes tokens, one after the other, and is then another one. -/
inductive Reaches (l : Lexer) : List Token → Lexer → Prop
  | start : Reaches l [] l
  | step {ts : List Token} {t : Token} {m m' : Lexer} (before : Reaches l ts m) (computed : m.compute = (m', .item t)) :
      Reaches l (ts ++ [t]) m'

/-- Where a lexer stands in a text when it has computed some tokens: behind the lexeme of the last one, or at the end. -/
inductive Stands (cs : List Char) : List Token → Lexer → Prop
  | inside {ts : List Token} {front rest : List Char} {l : Lexer} (whole : cs = front ++ rest)
      (segments : Segments cs ts rest) (place : l.Before rest (1 + breaks front)) : Stands cs ts l
  | atEnd {ts : List Token} {l : Lexer} (lexes : Lexes cs ts) (ended : l.ended = true) (line : l.line = 1 + breaks cs) :
      Stands cs (ts ++ [.endOfInput]) l

variable {cs : List Char} {ts : List Token} {t : Token} {l l' : Lexer} {e : InputFailure}

/-- **One more token** leads on to its lexeme or to the end, and to the line of its last character. -/
lemma Stands.step (h : Stands cs ts l) (computed : l.compute = (l', .item t)) :
    Stands cs (ts ++ [t]) l' ∧ ∃ place, LastAt cs (ts ++ [t]) place ∧ l'.line = 1 + linesBefore cs place := by
  cases h with
  | atEnd _ ended => rw [compute_of_ended ended] at computed; cases computed
  | @inside _ front rest _ whole segments place =>
      subst whole
      rcases cases_next rest with trivia | ⟨u, last, opens⟩ | ⟨before, last, complaint, fails⟩
      · obtain ⟨m, computed', ended, line⟩ := place.ends trivia
        rw [computed] at computed'
        cases computed'
        have lexes : Lexes (front ++ rest) ts := ⟨rest, segments, trivia⟩
        rw [Nat.add_assoc, ← segments.breaks_append] at line
        exact ⟨.atEnd lexes ended line, _, .endOfInput lexes, by rw [linesBefore_length, line]⟩
      · obtain ⟨used, rfl⟩ := (Segments.cons opens (.nil last)).exists_front
        obtain ⟨m, computed', place'⟩ := place.opens opens
        rw [computed] at computed'
        cases computed'
        rw [Nat.add_assoc, ← segments.breaks_append] at place'
        have more : Segments (front ++ (used ++ last)) (ts ++ [t]) last :=
          segments_append_iff.2 ⟨_, segments, .cons opens (.nil last)⟩
        refine ⟨.inside (List.append_assoc front used last).symm more place', ?_⟩
        obtain ⟨before, c, rfl, plain⟩ := opens.exists_last
        have count : linesBefore (front ++ (before ++ [c] ++ last)) (front ++ before).length =
            breaks (front ++ (before ++ [c])) := by
          have apart : ([c] : List Char).head? ≠ some '\n' := by rintro ⟨⟩; cases plain
          have same := @linesBefore_append (c :: last) (front ++ before) (by rintro ⟨⟩; cases plain)
          rw [← List.append_assoc front before, breaks_append apart,
            breaks_eq_zero (List.forall_mem_singleton.2 plain), Nat.add_zero, ← same]
          simp
        have whole : front ++ (before ++ [c] ++ last) = (front ++ before) ++ c :: last := by simp
        exact ⟨_, .lexeme whole more, by rw [place'.line_eq, count]⟩
      · obtain ⟨m, computed'⟩ := place.fails fails
        rw [computed] at computed'
        cases computed'

/-- **A failure is a complaint about an offence**, at the line of the offending character. -/
lemma Stands.offends (h : Stands cs ts l) (computed : l.compute = (l', .failed e)) :
    ∃ before complaint, Offends cs ts before complaint ∧
      e = .parse ⟨complaint, 1 + linesBefore cs before.length, none⟩ := by
  cases h with
  | atEnd _ ended => rw [compute_of_ended ended] at computed; cases computed
  | @inside _ front rest _ whole segments place =>
      subst whole
      rcases cases_next rest with trivia | ⟨u, last, opens⟩ | ⟨before, last, complaint, fails⟩
      · obtain ⟨m, computed', -⟩ := place.ends trivia
        rw [computed] at computed'
        cases computed'
      · obtain ⟨used, rfl⟩ := (Segments.cons opens (.nil last)).exists_front
        obtain ⟨m, computed', -⟩ := place.opens opens
        rw [computed] at computed'
        cases computed'
      · obtain ⟨m, computed'⟩ := place.fails fails
        rw [computed] at computed'
        cases computed'
        refine ⟨front ++ before, complaint, ⟨front, rest, before, last, rfl, segments, fails, rfl⟩, ?_⟩
        obtain ⟨w, bad, rfl, rfl, -, offence⟩ := fails
        have count := @linesBefore_append last (front ++ w ++ bad) fun feed => offence.apart feed _
        simp only [List.append_assoc] at count ⊢
        rw [count, segments.breaks_append, Nat.add_assoc]

lemma stands_ofChars (cs : List Char) : Stands cs [] (ofStream (.ofChars cs none)) :=
  .inside (List.nil_append cs).symm (.nil cs) (before_ofChars cs)

/-- A lexer that has computed tokens of a text stands behind them, by induction on their number. -/
lemma Stands.reaches (h : Stands cs [] l) (reached : l.Reaches ts l') : Stands cs ts l' := by
  induction reached with
  | start => exact h
  | step _ computed ih => exact (ih.step computed).1

lemma Reaches.stands (h : (ofStream (.ofChars cs none)).Reaches ts l) : Stands cs ts l := (stands_ofChars cs).reaches h

/-- **Behind a token a lexer is on the line of its last character.** -/
theorem Reaches.line_eq (h : (ofStream (.ofChars cs none)).Reaches (ts ++ [t]) l) :
    ∃ place, LastAt cs (ts ++ [t]) place ∧ l.line = 1 + linesBefore cs place := by
  generalize hus : ts ++ [t] = us at h
  cases h with
  | start => simp at hus
  | step before computed => exact (before.stands.step computed).2

end Lexer

/-! ### Token streams that have computed tokens -/

/-- A token has been computed, and no computation has failed. -/
def TokenStream.Started (l : Lexer) (q : TokenStream) : Prop :=
  q.phase ≠ .failed ∧ ∃ ts t, l.Reaches (ts ++ [t]) q.source

/-- Where an error comes from that is raised when the tokens behind the lexer `l` have become `q`: from a computation that
failed behind some tokens, from a refusal behind at least one token, at the line of the last one, or from a resolver that
is not prompt. -/
inductive ParseError.Blames (registry : Registry) (l : Lexer) (error : ParseError) (q : TokenStream) : Prop
  | failure {ts : List Token} {last : Lexer} (reached : l.Reaches ts last)
      (failed : last.compute = (q.source, .failed (.parse error)))
  | refusal {ts : List Token} {t : Token} (reached : l.Reaches (ts ++ [t]) q.source) (line : error.line = q.source.line)
  | resolver {space name : String} {r : Resolver} {before : TokenStream} (started : before.Started l)
      (claims : registry.claimant? space name = some r) (late : ¬ r.IsPrompt)
      (raised : r.resolve space name before = .error (.failed (.parse error)) q)

namespace TokenStream

variable {registry : Registry} {l : Lexer} {q : TokenStream}

/-- It is known where an error comes from. -/
def Traces (registry : Registry) (l : Lexer) (e : TokenError) (q : TokenStream) : Prop :=
  ∀ error, e = .failed (.parse error) → error.Blames registry l q

/-- What a token stream comes to that looks for a next token. -/
lemma peek?_cases (h : q = .ofSource l ∨ Started l q) :
    (∃ t q', Lookahead.peek? Lexer.producer q = .ok (some t) q' ∧ Started l q') ∨
      (∃ q', Lookahead.peek? Lexer.producer q = .ok none q' ∧ (Started l q → Started l q')) ∨
        ∃ e q', Lookahead.peek? Lexer.producer q = .error e q' ∧ Traces registry l e q' := by
  obtain ⟨ts, reached⟩ : ∃ ts, l.Reaches ts q.source := by
    rcases h with rfl | ⟨-, ts, t, reached⟩
    · exact ⟨[], .start⟩
    · exact ⟨_, reached⟩
  have started : q.phase ≠ .idle → Started l q := fun busy => h.resolve_left (by rintro rfl; exact busy rfl)
  obtain ⟨m, phase⟩ := q
  cases phase with
  | ready t => exact .inl ⟨t, _, rfl, started (by simp)⟩
  | done => exact .inr (.inl ⟨_, rfl, id⟩)
  | failed => exact absurd rfl (started (by simp)).1
  | idle =>
      simp only [Lookahead.peek?, Lexer.producer]
      cases computed : m.compute with | mk m' found
      cases found with
      | item t => exact .inl ⟨t, _, rfl, by simp, ts, t, .step reached computed⟩
      | finished =>
          obtain rfl := Lexer.eq_of_compute_finished computed
          exact .inr (.inl ⟨_, rfl, fun h => ⟨by simp, h.2⟩⟩)
      | failed e =>
          refine .inr (.inr ⟨_, _, rfl, ?_⟩)
          rintro error ⟨⟩
          exact .failure reached computed

/-- Running out of tokens is no complaint. -/
lemma traces_exhausted : Traces registry l .exhausted q := by
  intro error h
  cases h

/-- A token is taken, and then one has been computed. -/
lemma leaves_next (h : q = .ofSource l ∨ Started l q) : Leaves (Started l) (Traces registry l) (next q) := by
  rcases peek?_cases h with ⟨t, q', seen, started⟩ | ⟨q', seen, -⟩ | ⟨e, q', seen, traces⟩
  · have taken : Lookahead.next? Lexer.producer q = .ok (some t) ⟨q'.source, .idle⟩ := by
      simp only [Lookahead.next?, seen]
    rw [next, Lookahead.next, bind_of_ok taken]
    exact .ok ⟨by simp, started.2⟩
  · have taken : Lookahead.next? Lexer.producer q = .ok none q' := by simp only [Lookahead.next?, seen]
    rw [next, Lookahead.next, bind_of_ok taken]
    exact .error traces_exhausted
  · have failed : Lookahead.next? Lexer.producer q = .error e q' := by simp only [Lookahead.next?, seen]
    rw [next, Lookahead.next, bind_of_error failed]
    exact .error traces

/-- A token is looked at. -/
lemma leaves_peek (h : Started l q) : Leaves (Started l) (Traces registry l) (peek q) := by
  rcases peek?_cases (.inr h) with ⟨t, q', seen, started⟩ | ⟨q', seen, -⟩ | ⟨e, q', seen, traces⟩
  · rw [peek, Lookahead.peek, bind_of_ok seen]
    exact .ok started
  · rw [peek, Lookahead.peek, bind_of_ok seen]
    exact .error traces_exhausted
  · rw [peek, Lookahead.peek, bind_of_error seen]
    exact .error traces

/-- A caller asks whether there is a token. -/
lemma leaves_hasNext (h : Started l q) : Leaves (Started l) (Traces registry l) (hasNext q) := by
  rcases peek?_cases (.inr h) with ⟨t, q', seen, started⟩ | ⟨q', seen, started⟩ | ⟨e, q', seen, traces⟩
  · rw [hasNext, Lookahead.hasNext, bind_of_ok seen]
    exact .ok started
  · rw [hasNext, Lookahead.hasNext, bind_of_ok seen]
    exact .ok (started h)
  · rw [hasNext, Lookahead.hasNext, bind_of_error seen]
    exact .error traces

/-- **The queries keep up that a refusal names the line of the last token computed.** -/
def lineKeeping (registry : Registry) (l : Lexer) : Invariant registry where
  begins q := q = .ofSource l
  holds := Started l
  known := Traces registry l
  first h := leaves_next (.inl h)
  next h := leaves_next (.inr h)
  peek := leaves_peek
  hasNext := leaves_hasNext
  refuse h complaint cause := by
    obtain ⟨-, ts, t, reached⟩ := h
    rintro error ⟨⟩
    exact .refusal reached rfl
  resolve h claims late raised := by
    rintro error ⟨⟩
    exact .resolver h claims late raised

end TokenStream

/-! ### Texts -/

/-- The error that a parse ends with, if it does. -/
def Parser.complaint? {α : Type} : EStateM.Result TokenError ParseState α → Option ParseError
  | .error (.failed (.parse error)) _ => some error
  | _ => none

lemma Parser.eq_of_complaint? {α : Type} {r : EStateM.Result TokenError ParseState α} {error : ParseError}
    (h : complaint? r = some error) : ∃ s, r = .error (.failed (.parse error)) s := by
  unfold complaint? at h
  split at h <;> cases h
  exact ⟨_, rfl⟩

/-- **Lines are exact.** When a lexer has computed tokens of a text, it is on the line of the last character of the last
one, or of the end of the text if this is the end of the input. If it fails, it complains at the line of the offending
character, or of the end of the text. And an error of the parser is such a complaint, or it names the line of the last token
that the lexer has computed by then, whatever the registry is; unless a resolver has raised it that does not raise errors as
soon as it has had them made: it may have kept the error of an earlier line, or made up one of its own. The resolver of the
primitive types does not. -/
theorem Parser.lines_exact (text : String) :
    (∀ ts t l, (Lexer.ofStream (.ofChars text.toList none)).Reaches (ts ++ [t]) l →
      ∃ place, LastAt text.toList (ts ++ [t]) place ∧ l.line = 1 + linesBefore text.toList place) ∧
    (∀ ts l l' e, (Lexer.ofStream (.ofChars text.toList none)).Reaches ts l → l.compute = (l', .failed e) →
      ∃ before complaint, Offends text.toList ts before complaint ∧
        e = .parse ⟨complaint, 1 + linesBefore text.toList before.length, none⟩) ∧
    (∀ registry error s,
      parse registry (.ofStream (.ofChars text.toList none)) = .error (.failed (.parse error)) s →
      (∃ ts l, (Lexer.ofStream (.ofChars text.toList none)).Reaches ts l ∧
        l.compute = (s.tokens.source, .failed (.parse error))) ∨
      (∃ ts t place, (Lexer.ofStream (.ofChars text.toList none)).Reaches (ts ++ [t]) s.tokens.source ∧
        LastAt text.toList (ts ++ [t]) place ∧ error.line = 1 + linesBefore text.toList place) ∨
      ∃ space name r before ts t, registry.claimant? space name = some r ∧ ¬ r.IsPrompt ∧
        (Lexer.ofStream (.ofChars text.toList none)).Reaches (ts ++ [t]) before.source ∧
        r.resolve space name before = .error (.failed (.parse error)) s.tokens) ∧
    ∀ own, (Resolver.primitive own).IsPrompt := by
  refine ⟨fun ts t l reached => reached.line_eq, fun ts l l' e reached failed => reached.stands.offends failed,
    fun registry error s refused => ?_, Resolver.isPrompt_primitive⟩
  have leaves := (TokenStream.lineKeeping registry (.ofStream (.ofChars text.toList none))).parse
    (s := .ofStream (.ofChars text.toList none)) rfl
  rw [refused] at leaves
  cases leaves.of_error error rfl with
  | failure reached failed => exact .inl ⟨_, _, reached, failed⟩
  | refusal reached line =>
      obtain ⟨place, last, same⟩ := reached.line_eq
      exact .inr (.inl ⟨_, _, place, reached, last, line.trans same⟩)
  | resolver started claims late raised =>
      obtain ⟨-, ts, t, reached⟩ := started
      exact .inr (.inr ⟨_, _, _, _, ts, t, claims, late, reached, raised⟩)

/-- In a text of two lines, the second of which holds a brace and a quotation mark that nothing closes, the lexer is on the
first line behind the name and on the second one behind the brace, where it then fails. The parser complains of the brace
while the quotation mark is still ahead. -/
theorem Parser.lines_exact_twoLines :
    let text := "a\r\n\x7d\""
    let l := Lexer.ofStream (.ofChars text.toList none)
    (∃ m, l.Reaches ([] ++ [Token.string "a"]) m ∧ m.line = 1 ∧
      ∃ place, LastAt text.toList ([] ++ [Token.string "a"]) place ∧ m.line = 1 + linesBefore text.toList place) ∧
    (∃ m m' e, l.Reaches ([Token.string "a"] ++ [Token.closeBlock]) m ∧ m.line = 2 ∧ m.compute = (m', .failed e) ∧
      ∃ before complaint, Offends text.toList ([Token.string "a"] ++ [Token.closeBlock]) before complaint ∧
        e = .parse ⟨complaint, 1 + linesBefore text.toList before.length, none⟩) ∧
    ∃ error s, parse .standard (.ofStream (.ofChars text.toList none)) = .error (.failed (.parse error)) s ∧
      error.complaint = .statementEndExpected .closeBlock ∧ error.line = 2 ∧
      ((∃ ts last, l.Reaches ts last ∧ last.compute = (s.tokens.source, .failed (.parse error))) ∨
        ∃ ts t place, l.Reaches (ts ++ [t]) s.tokens.source ∧ LastAt text.toList (ts ++ [t]) place ∧
          error.line = 1 + linesBefore text.toList place) := by
  intro text l
  have name : Opens (['a'] ++ ['\r', '\n', '\x7d', '"']) (.string "a") ['\r', '\n', '\x7d', '"'] :=
    ⟨[], ['a'], rfl, .nil, .word (List.cons_ne_nil _ _) (List.forall_mem_singleton.2 (by decide))
      (fun c next => by cases next; decide) (by decide)⟩
  have brace : Opens (['\r', '\n', '\x7d'] ++ ['"']) .closeBlock ['"'] :=
    ⟨['\r', '\n'], ['\x7d'], rfl, .blank (by decide) (.blank (by decide) .nil), .structural (by decide)⟩
  have mark : Fails ['"'] ['"'] [] .unterminatedQuote :=
    ⟨[], ['"'], rfl, rfl, .nil, @Offence.quote [] [] [] [] .nil (.inl rfl) (by simp)⟩
  have spelled : text.toList = ['a'] ++ ['\r', '\n', '\x7d', '"'] := by decide
  have start : l.Before (['a'] ++ ['\r', '\n', '\x7d', '"']) 1 := by
    rw [← spelled]
    exact Lexer.before_ofChars text.toList
  obtain ⟨m₁, computed₁, place₁⟩ := start.opens name
  obtain ⟨m₂, computed₂, place₂⟩ := place₁.opens brace
  obtain ⟨m₃, failed⟩ := place₂.fails mark
  have behindName := Lexer.Reaches.step .start computed₁
  have behindBrace := Lexer.Reaches.step behindName computed₂
  have complained : complaint? (parse .standard (.ofStream (.ofChars text.toList none))) =
      some ⟨.statementEndExpected .closeBlock, 2, none⟩ := by decide +kernel
  obtain ⟨s, refused⟩ := eq_of_complaint? complained
  obtain ⟨tokens, failures, errors, -⟩ := lines_exact text
  have known := (errors _ _ _ refused).imp_right fun other =>
    other.resolve_right fun ⟨_, _, _, _, _, _, claims, late, _⟩ => late (Registry.isPrompt_standard.claimant claims)
  exact ⟨⟨m₁, behindName, place₁.line_eq, tokens _ _ _ behindName⟩,
    ⟨m₂, m₃, _, behindBrace, place₂.line_eq, failed, failures _ _ _ _ behindBrace failed⟩,
    _, s, refused, rfl, rfl, known⟩

end CommandTree
