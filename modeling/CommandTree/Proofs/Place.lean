import CommandTree.Parser
import CommandTree.Proofs.Lexicon.Recognition
/-!
Token streams and parsers in front of a text.

A token stream stands in front of a text whether or not its next token has been computed, so looking at a token does not
move it. What a query answers depends on how the text goes on: with a lexeme, with the end, or with an offence.

* `TokenStream.Before` is the place of a token stream, `ParseState.Before` that of a parser;
* `Parser.peek_of_opens`, `Parser.next_of_opens` and their likes for the end and for offences answer the queries;
* `IsComplaint` are the errors that a text can give rise to;
* `Comes`: a computation succeeds at a place behind, with what was promised, or complains. `Comes.bind` goes on from it.
-/

namespace CommandTree

open Text Lexicon

variable {cs rest before : List Char} {t : Token} {complaint : Complaint}

/-! ### Complaints -/

/-- A complaint about the text: an error with a line, and behind it no failure of a file or stream. -/
def IsComplaint (e : TokenError) : Prop :=
  ∃ error : ParseError, e = .failed (.parse error) ∧ ∀ io, error.cause ≠ some (.io io)

lemma isComplaint_of_line (complaint : Complaint) (line : Nat) :
    IsComplaint (.failed (.parse ⟨complaint, line, none⟩)) :=
  ⟨⟨complaint, line, none⟩, rfl, fun _ same => nomatch same⟩

/-! ### Outcomes -/

/-- A computation comes to a success at a place in the text, where the promise holds, or to a complaint. -/
inductive Comes {σ α : Type} (place : σ → List Char → Prop) (promise : α → List Char → Prop) :
    EStateM.Result TokenError σ α → Prop
  | ok {a : α} {s : σ} {rest : List Char} (stands : place s rest) (holds : promise a rest) :
      Comes place promise (.ok a s)
  | error {e : TokenError} {s : σ} (complains : IsComplaint e) : Comes place promise (.error e s)

namespace Comes

variable {σ α β : Type} {place : σ → List Char → Prop} {promise promise' : α → List Char → Prop}

/-- A sequence comes to what its second part comes to behind its first. -/
lemma bind {goal : β → List Char → Prop} {m : EStateM TokenError σ α} {k : α → EStateM TokenError σ β} {s : σ}
    (first : Comes place promise (m s))
    (second : ∀ a s' rest, place s' rest → promise a rest → Comes place goal (k a s')) :
    Comes place goal ((m >>= k) s) := by
  simp only [Bind.bind, EStateM.bind]
  cases hm : m s with
  | ok a s' =>
      rw [hm] at first
      cases first with
      | ok stands holds => exact second a s' _ stands holds
  | error e s' =>
      rw [hm] at first
      cases first with
      | error complains => exact .error complains

/-- A promise may be weakened. -/
lemma mono {r : EStateM.Result TokenError σ α} (h : Comes place promise r)
    (weaker : ∀ a rest, promise a rest → promise' a rest) : Comes place promise' r := by
  cases h with
  | ok stands holds => exact .ok stands (weaker _ _ holds)
  | error complains => exact .error complains

lemma of_ok {a : α} {s : σ} (h : Comes place promise (.ok a s)) : ∃ rest, place s rest ∧ promise a rest := by
  cases h with
  | ok stands holds => exact ⟨_, stands, holds⟩

lemma of_error {e : TokenError} {s : σ} (h : Comes place promise (.error e s : EStateM.Result TokenError σ α)) :
    IsComplaint e := by
  cases h with
  | error complains => exact complains

end Comes

/-! ### Token streams -/

namespace TokenStream

/-- A token stream stands in front of a text; its next token may be at hand already. -/
def Before (q : TokenStream) (cs : List Char) : Prop :=
  ∃ l line, Lexer.Before l cs line ∧ (q = .ofSource l ∨ ∃ t l', l.compute = (l', .item t) ∧ q = ⟨l', .ready t⟩)

lemma before_ofChars (cs : List Char) : (ofStream (.ofChars cs none)).Before cs :=
  ⟨_, 1, Lexer.before_ofChars cs, .inl rfl⟩

variable {q : TokenStream}

/-- An item that a lexer computes is looked at and taken. -/
lemma queries_of_item {l l' : Lexer} (h : l.compute = (l', .item t))
    (hq : q = .ofSource l ∨ ∃ t l', l.compute = (l', .item t) ∧ q = ⟨l', .ready t⟩) :
    peek q = .ok t ⟨l', .ready t⟩ ∧ next q = .ok t (.ofSource l') := by
  have produced : Lexer.producer.produce l = (l', .item t) := h
  rcases hq with rfl | ⟨t', l'', h', rfl⟩
  · constructor
    · simp only [peek, Lookahead.peek, bind, EStateM.bind, Lookahead.peek?, Lookahead.ofSource, produced]
      rfl
    · simp only [next, Lookahead.next, bind, EStateM.bind, Lookahead.next?, Lookahead.peek?, Lookahead.ofSource,
        produced]
      rfl
  · rw [h] at h'
    cases h'
    exact ⟨rfl, rfl⟩

/-- A lexeme is looked at, and taken. -/
lemma queries_of_opens (h : q.Before cs) (o : Opens cs t rest) :
    (∃ q', peek q = .ok t q' ∧ q'.Before cs) ∧
      ∃ l line, next q = .ok t (.ofSource l) ∧ Lexer.Before l rest line := by
  obtain ⟨l, line, place, hq⟩ := h
  obtain ⟨w, x, rfl, trivia, lexeme⟩ := o
  rw [← List.append_assoc] at place
  obtain ⟨l', computed, place'⟩ := place.opens ⟨w, x, by simp, trivia, lexeme⟩
  rw [List.append_assoc] at place
  obtain ⟨peeked, taken⟩ := queries_of_item computed hq
  exact ⟨⟨_, peeked, l, line, place, .inr ⟨t, l', computed, rfl⟩⟩, l', _, taken, place'⟩

/-- The end of the input is looked at, and taken. -/
lemma queries_of_ends (h : q.Before cs) (trivia : Trivia [] cs) :
    (∃ q', peek q = .ok .endOfInput q' ∧ q'.Before cs) ∧ ∃ q', next q = .ok .endOfInput q' := by
  obtain ⟨l, line, place, hq⟩ := h
  obtain ⟨l', computed, -⟩ := place.ends trivia
  obtain ⟨peeked, taken⟩ := queries_of_item computed hq
  exact ⟨⟨_, peeked, l, line, place, .inr ⟨_, l', computed, rfl⟩⟩, _, taken⟩

/-- An offence is complained of. -/
lemma queries_of_fails (h : q.Before cs) (f : Fails cs before rest complaint) :
    (∃ e q', peek q = .error e q' ∧ IsComplaint e) ∧ ∃ e q', next q = .error e q' ∧ IsComplaint e := by
  obtain ⟨l, line, place, hq⟩ := h
  obtain ⟨l', computed⟩ := place.fails f
  have produced : Lexer.producer.produce l = (l', .failed (.parse ⟨complaint, line + breaks before, none⟩)) := computed
  rcases hq with rfl | ⟨t', l'', h', rfl⟩
  · constructor
    · refine ⟨_, ⟨l', .failed⟩, ?_, isComplaint_of_line complaint (line + breaks before)⟩
      simp only [peek, Lookahead.peek, bind, EStateM.bind, Lookahead.peek?, Lookahead.ofSource, produced]
    · refine ⟨_, ⟨l', .failed⟩, ?_, isComplaint_of_line complaint (line + breaks before)⟩
      simp only [next, Lookahead.next, bind, EStateM.bind, Lookahead.next?, Lookahead.peek?, Lookahead.ofSource,
        produced]
  · rw [computed] at h'
    cases h'

/-- The given tokens are taken one after the other. -/
inductive Takes : TokenStream → List Token → TokenStream → Prop
  | nil (q : TokenStream) : Takes q [] q
  | cons {q q' q'' : TokenStream} {t : Token} {ts : List Token} (took : next q = .ok t q') (more : Takes q' ts q'') :
      Takes q (t :: ts) q''

/-- The tokens of lexemes are taken. -/
lemma exists_takes {ts : List Token} (h : q.Before cs) (segments : Segments cs ts rest) :
    ∃ q', q.Takes ts q' ∧ q'.Before rest := by
  induction segments generalizing q with
  | nil => exact ⟨q, .nil q, h⟩
  | cons opens _ ih =>
      obtain ⟨-, l, line, took, place⟩ := queries_of_opens h opens
      obtain ⟨q', more, last⟩ := ih ⟨l, line, place, .inl rfl⟩
      exact ⟨q', .cons took more, last⟩

/-- A token that may be taken may be looked at first. -/
lemma exists_peek_of_next {q' : TokenStream} (h : next q = .ok t q') :
    ∃ m, peek q = .ok t m ∧ next m = .ok t q' := by
  obtain ⟨o, m, taken, done⟩ := bind_eq_ok h
  unfold Lookahead.next? at taken
  cases seen : Lookahead.peek? Lexer.producer q with
  | error e n =>
      rw [seen] at taken
      cases taken
  | ok found n =>
      rw [seen] at taken
      cases found with
      | none =>
          cases taken
          cases done
      | some u =>
          cases taken
          cases done
          have ready := Lookahead.phase_of_peek? seen
          have again : Lookahead.next? Lexer.producer n = .ok (some t) ⟨n.source, .idle⟩ := by
            simp only [Lookahead.next?, Lookahead.peek?, ready]
          exact ⟨n, bind_of_ok seen, bind_of_ok again⟩

/-- Looking at a token keeps the place, and tells how the text goes on. -/
lemma comes_peek (h : q.Before cs) : Comes TokenStream.Before
    (fun t rest => rest = cs ∧ ((t = .endOfInput ∧ Trivia [] cs) ∨ ∃ rest, Opens cs t rest)) (peek q) := by
  rcases cases_next cs with trivia | ⟨t, rest, opens⟩ | ⟨before, rest, complaint, fails⟩
  · obtain ⟨⟨q', peeked, place⟩, -⟩ := queries_of_ends h trivia
    rw [peeked]
    exact .ok place ⟨rfl, .inl ⟨rfl, trivia⟩⟩
  · obtain ⟨⟨q', peeked, place⟩, -⟩ := queries_of_opens h opens
    rw [peeked]
    exact .ok place ⟨rfl, .inr ⟨rest, opens⟩⟩
  · obtain ⟨⟨e, q', failed, complains⟩, -⟩ := queries_of_fails h fails
    rw [failed]
    exact .error complains

/-- Taking a token comes to that of the first lexeme, to the end of the input, or to a complaint. -/
lemma next_cases (h : q.Before cs) :
    (∃ t rest q', Opens cs t rest ∧ next q = .ok t q' ∧ q'.Before rest) ∨
      (∃ q', next q = .ok .endOfInput q') ∨ ∃ e q', next q = .error e q' ∧ IsComplaint e := by
  rcases cases_next cs with trivia | ⟨t, rest, opens⟩ | ⟨before, rest, complaint, fails⟩
  · exact .inr (.inl (queries_of_ends h trivia).2)
  · obtain ⟨-, l, line, taken, place⟩ := queries_of_opens h opens
    exact .inl ⟨t, rest, _, opens, taken, l, line, place, .inl rfl⟩
  · exact .inr (.inr (queries_of_fails h fails).2)

/-- A computation goes on from a token taken, if it also copes with the end of the input. -/
lemma comes_next_bind {α : Type} {k : Token → TokenM α} {promise : α → List Char → Prop} (h : q.Before cs)
    (token : ∀ t rest q', Opens cs t rest → q'.Before rest → Comes TokenStream.Before promise (k t q'))
    (ends : ∀ q', Comes TokenStream.Before promise (k .endOfInput q')) :
    Comes TokenStream.Before promise ((next >>= k) q) := by
  rcases next_cases h with ⟨t, rest, q', opens, taken, place⟩ | ⟨q', taken⟩ | ⟨e, q', failed, complains⟩
  · rw [bind_of_ok taken]
    exact token t rest q' opens place
  · rw [bind_of_ok taken]
    exact ends q'
  · simp only [bind, EStateM.bind, failed]
    exact .error complains

lemma isComplaint_refuse (q : TokenStream) (complaint : Complaint) {cause : Option Cause}
    (plain : ∀ io, cause ≠ some (.io io)) :
    IsComplaint (.failed (.parse (q.errorAt complaint cause))) :=
  ⟨_, rfl, plain⟩

end TokenStream

/-! ### Parsers -/

/-- A parser stands in front of a text. -/
def ParseState.Before (s : ParseState) (cs : List Char) : Prop := s.tokens.Before cs

namespace Parser

variable {s : ParseState}

/-- A parser comes to what its computation on the tokens comes to. -/
lemma comes_onTokens {α : Type} {m : TokenM α} {promise : α → List Char → Prop}
    (h : Comes TokenStream.Before promise (m s.tokens)) : Comes ParseState.Before promise (onTokens m s) := by
  rw [onTokens]
  cases hm : m s.tokens with
  | ok a q =>
      rw [hm] at h
      cases h with
      | ok stands holds => exact .ok stands holds
  | error e q =>
      rw [hm] at h
      exact .error h.of_error

/-- A refusal is a complaint. -/
lemma comes_refuse {α : Type} (s : ParseState) (complaint : Complaint) {promise : α → List Char → Prop} :
    Comes ParseState.Before promise (refuse complaint s) :=
  .error (TokenStream.isComplaint_refuse s.tokens complaint fun _ same => nomatch same)

/-- A lexeme is looked at. -/
lemma peek_of_opens (h : s.Before cs) (o : Opens cs t rest) : ∃ s', peek s = .ok t s' ∧ s'.Before cs := by
  obtain ⟨⟨q, peeked, place⟩, -⟩ := TokenStream.queries_of_opens h o
  exact ⟨{ s with tokens := q }, by simp only [peek, onTokens, peeked], place⟩

/-- A lexeme is taken, and no more is computed. -/
lemma next_of_opens (h : s.Before cs) (o : Opens cs t rest) :
    ∃ l line, next s = .ok t { s with tokens := .ofSource l } ∧ Lexer.Before l rest line := by
  obtain ⟨-, l, line, taken, place⟩ := TokenStream.queries_of_opens h o
  exact ⟨l, line, by simp only [next, onTokens, taken], place⟩

/-- The end of the input is looked at. -/
lemma peek_of_ends (h : s.Before cs) (trivia : Trivia [] cs) : ∃ s', peek s = .ok .endOfInput s' ∧ s'.Before cs := by
  obtain ⟨⟨q, peeked, place⟩, -⟩ := TokenStream.queries_of_ends h trivia
  exact ⟨{ s with tokens := q }, by simp only [peek, onTokens, peeked], place⟩

/-- Looking at a token keeps the place, and tells how the text goes on. -/
lemma comes_peek (h : s.Before cs) : Comes ParseState.Before
    (fun t rest => rest = cs ∧ ((t = .endOfInput ∧ Trivia [] cs) ∨ ∃ rest, Opens cs t rest)) (peek s) :=
  comes_onTokens (TokenStream.comes_peek h)

/-- A parser goes on from a token taken, if it also copes with the end of the input. -/
lemma comes_next_bind {α : Type} {k : Token → ParseM α} {promise : α → List Char → Prop} (h : s.Before cs)
    (token : ∀ t rest s', Opens cs t rest → s'.Before rest → Comes ParseState.Before promise (k t s'))
    (ends : ∀ s', Comes ParseState.Before promise (k .endOfInput s')) :
    Comes ParseState.Before promise ((next >>= k) s) := by
  simp only [bind, EStateM.bind, next, onTokens]
  rcases TokenStream.next_cases h with ⟨t, rest, q, opens, taken, place⟩ | ⟨q, taken⟩ | ⟨e, q, failed, complains⟩
  · simp only [taken]
    exact token t rest _ opens place
  · simp only [taken]
    exact ends _
  · simp only [failed]
    exact .error complains

end Parser

end CommandTree
