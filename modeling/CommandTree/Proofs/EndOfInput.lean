import CommandTree.Proofs.Cursor
import CommandTree.Proofs.Machine.Steps
/-!
The end of the input.

A lexer takes an end of its stream for the last one, also where the stream is at an end only for the moment and would go on.
So a caller meets the end of the input once, whatever the chunks of the stream are and whatever is asked. In front of it
each token has used a character of the stream.

* `Lookahead.taken` are the items that a query takes, and `Lookahead.handed` those that a list of queries takes;
* `TokenStream.Stage` are the stages that a token stream goes through, with the tokens that it has handed out and the
  characters used; `Stage.ask` is the step that a query is, and `Stage.interview` a run;
* `TokenStream.AtEnd.interview_eq`: behind the end of the input every query is told that there is nothing;
* `TokenStream.one_end`: **there is one end of the input, and the computation of each token ends**.
-/

namespace CommandTree

/-! ### Items taken -/

namespace Lookahead

variable {σ ε α : Type}

/-- The items that a query takes out of a sequence. A query for all items may take some before it is refused. -/
def taken (p : Producer σ ε α) (l : Lookahead σ α) : Query → List α
  | .hasNext | .peek => []
  | .next | .iterate =>
    match next? p l with
    | .ok (some a) _ => [a]
    | .ok none _ | .error _ _ => []
  | .drain => (run p l).items.map Prod.fst

/-- The items that queries take, put one after the other. -/
def handed (p : Producer σ ε α) (l : Lookahead σ α) (queries : List Query) : List α :=
  (interview (fun l q => (taken p l q, (l.ask p q).2)) l queries).1.flatten

lemma handed_cons (p : Producer σ ε α) (l : Lookahead σ α) (q : Query) (queries : List Query) :
    l.handed p (q :: queries) = l.taken p q ++ (l.ask p q).2.handed p queries := rfl

end Lookahead

/-! ### Stages -/

namespace TokenStream

/-- The stages of the token stream of a stream of characters, with the tokens handed out so far. -/
inductive Stage (s : CharStream) : List Token → TokenStream → Prop
  -- nothing is known of the next token
  | idle {used : List Char} {ts : List Token} {l : Lexer} (uses : s.Uses used l.scanner.stream) (going : l.ended = false)
      (ordinary : .endOfInput ∉ ts) (paid : ts.length ≤ used.length) : Stage s ts ⟨l, .idle⟩
  | ready {used : List Char} {ts : List Token} {t : Token} {l : Lexer} (uses : s.Uses used l.scanner.stream)
      (going : l.ended = false) (ordinary : .endOfInput ∉ ts ++ [t]) (paid : (ts ++ [t]).length ≤ used.length) :
      Stage s ts ⟨l, .ready t⟩
  -- the end of the input waits
  | seen {used : List Char} {ts : List Token} {l : Lexer} (uses : s.Uses used l.scanner.stream) (ended : l.ended = true)
      (ordinary : .endOfInput ∉ ts) (paid : ts.length ≤ used.length) : Stage s ts ⟨l, .ready .endOfInput⟩
  -- the end of the input has been handed out
  | behind {used : List Char} {ts : List Token} {l : Lexer} {phase : Phase Token} (uses : s.Uses used l.scanner.stream)
      (ended : l.ended = true) (ordinary : .endOfInput ∉ ts) (paid : ts.length ≤ used.length)
      (none : phase = .idle ∨ phase = .done) : Stage s (ts ++ [.endOfInput]) ⟨l, phase⟩
  | failed {used : List Char} {ts : List Token} {l : Lexer} (uses : s.Uses used l.scanner.stream)
      (ordinary : .endOfInput ∉ ts) (paid : ts.length ≤ used.length) : Stage s ts ⟨l, .failed⟩

namespace Stage

variable {s : CharStream} {ts : List Token} {q : TokenStream}

/-- A stream of characters before its first query. -/
lemma start (s : CharStream) : Stage s [] (.ofStream s) := .idle (.refl s) rfl nofun (Nat.le_refl 0)

/-- The end of the input is at most the last of the tokens. -/
lemma not_mem_dropLast (h : Stage s ts q) : .endOfInput ∉ ts.dropLast := by
  cases h with
  | idle _ _ ordinary => exact fun last => ordinary ((List.dropLast_sublist _).subset last)
  | ready _ _ ordinary =>
      exact fun last => ordinary (List.mem_append_left _ ((List.dropLast_sublist _).subset last))
  | seen _ _ ordinary => exact fun last => ordinary ((List.dropLast_sublist _).subset last)
  | behind _ _ ordinary => rwa [List.dropLast_concat]
  | failed _ ordinary => exact fun last => ordinary ((List.dropLast_sublist _).subset last)

/-- Each token but the end of the input has used a character. -/
lemma length_le (h : Stage s ts q) :
    ∃ used, s.Uses used q.source.scanner.stream ∧ ts.length ≤ used.length + 1 := by
  cases h with
  | idle uses _ _ paid => exact ⟨_, uses, Nat.le_succ_of_le paid⟩
  | ready uses _ _ paid =>
      rw [List.length_append] at paid
      exact ⟨_, uses, by omega⟩
  | seen uses _ _ paid => exact ⟨_, uses, Nat.le_succ_of_le paid⟩
  | behind uses _ _ paid =>
      rw [List.length_append]
      exact ⟨_, uses, Nat.add_le_add_right paid 1⟩
  | failed uses _ paid => exact ⟨_, uses, Nat.le_succ_of_le paid⟩

/-! ### One query -/

/-- What looking at the next token or taking it comes to, with the tokens handed out `after` it. There is none only where
the end of the input has been handed out. -/
inductive Finds (s : CharStream) (ts : List Token) (after : Option Token → List Token) :
    EStateM.Result TokenError TokenStream (Option Token) → Prop
  | token {t : Token} {q : TokenStream} (stage : Stage s (after t) q) : Finds s ts after (.ok (some t) q)
  | none {q : TokenStream} (stage : Stage s ts q) (last : .endOfInput ∈ ts) : Finds s ts after (.ok none q)
  | refused {e : TokenError} {q : TokenStream} (stage : Stage s ts q) : Finds s ts after (.error e q)

/-- Looking at the next token hands nothing out. -/
lemma peek? (h : Stage s ts q) : Finds s ts (fun _ => ts) (Lookahead.peek? Lexer.producer q) := by
  cases h with
  | ready uses going ordinary paid => exact .token (.ready uses going ordinary paid)
  | seen uses ended ordinary paid => exact .token (.seen uses ended ordinary paid)
  | failed uses ordinary paid => exact .refused (.failed uses ordinary paid)
  | @behind used ts l phase uses ended ordinary paid none =>
      have last : Token.endOfInput ∈ ts ++ [.endOfInput] := List.mem_concat_self
      rcases none with rfl | rfl
      · have computed : Lexer.producer.produce l = (l, .finished) := Lexer.compute_of_ended ended
        simp only [Lookahead.peek?, computed]
        exact .none (.behind uses ended ordinary paid (.inr rfl)) last
      · exact .none (.behind uses ended ordinary paid (.inr rfl)) last
  | @idle used ts l uses going ordinary paid =>
      have computes : l.Computes (Lexer.producer.produce l) := l.computes
      have enough : ∀ more : List Char, ts.length ≤ (used ++ more).length := fun more => by
        rw [List.length_append]
        exact Nat.le_add_right_of_le paid
      simp only [Lookahead.peek?]
      generalize Lexer.producer.produce l = r at computes
      cases computes with
      | finished ended => cases going.symm.trans ended
      | endOfInput _ more => exact .token (.seen (uses.trans more) rfl ordinary (enough _))
      | failed _ more => exact .refused (.failed (uses.trans more) ordinary (enough _))
      | token _ plain some more =>
          refine .token (.ready (uses.trans more) rfl ?_ ?_)
          · rw [List.mem_append, List.mem_singleton, not_or]
            exact ⟨ordinary, fun same => plain same.symm⟩
          · rw [List.length_append, List.length_append]
            exact Nat.add_le_add paid (List.length_pos_iff.2 some)

/-- A token that waits is handed out when it is taken. -/
lemma take {t : Token} (h : Stage s ts q) (ready : q.phase = .ready t) : Stage s (ts ++ [t]) ⟨q.source, .idle⟩ := by
  cases h with
  | idle => cases ready
  | failed => cases ready
  | ready uses going ordinary paid =>
      cases ready
      exact .idle uses going ordinary paid
  | seen uses ended ordinary paid =>
      cases ready
      exact .behind uses ended ordinary paid (.inl rfl)
  | behind _ _ _ _ none =>
      obtain rfl : _ = Phase.ready t := ready
      rcases none with none | none <;> cases none

/-- Taking the next token hands it out. -/
lemma next? (h : Stage s ts q) :
    Finds s ts (fun o => ts ++ o.toList) (Lookahead.next? Lexer.producer q) := by
  have finds := h.peek?
  rw [Lookahead.next?]
  cases seen : Lookahead.peek? Lexer.producer q with
  | error e q' =>
      rw [seen] at finds
      cases finds with
      | refused stage => exact .refused stage
  | ok o q' =>
      rw [seen] at finds
      cases finds with
      | none stage last => exact .none stage last
      | token stage => exact .token (stage.take (Lookahead.phase_of_peek? seen))

/-- Taking all tokens hands them out, also if the computation of one fails. -/
lemma run (h : Stage s ts q) :
    Stage s (ts ++ (Lookahead.run Lexer.producer q).items.map Prod.fst) (Lookahead.run Lexer.producer q).last := by
  induction q using Lookahead.run.induct Lexer.producer generalizing ts with
  | case1 q q' taken =>
      have finds := h.next?
      rw [taken] at finds
      rw [Lookahead.run_eq, taken]
      cases finds with
      | none stage => simpa using stage
  | case2 q e q' taken =>
      have finds := h.next?
      rw [taken] at finds
      rw [Lookahead.run_eq, taken]
      cases finds with
      | refused stage => simpa using stage
  | case3 q t q' taken ih =>
      have finds := h.next?
      rw [taken] at finds
      rw [Lookahead.run_eq, taken]
      cases finds with
      | token stage => simpa using ih stage

/-- A query that looks hands nothing out. -/
lemma tell_peek? (h : Stage s ts q) (query : Query) :
    Stage s ts (Lookahead.tell query (Lookahead.peek? Lexer.producer q)).2 := by
  have finds := h.peek?
  generalize Lookahead.peek? Lexer.producer q = r at finds
  cases finds with
  | token stage => exact stage
  | none stage => exact stage
  | refused stage => exact stage

/-- A query that takes a token hands it out. -/
lemma tell_next? (h : Stage s ts q) (query : Query) :
    Stage s (ts ++ q.taken Lexer.producer .next) (Lookahead.tell query (Lookahead.next? Lexer.producer q)).2 := by
  have finds := h.next?
  rw [Lookahead.taken]
  generalize Lookahead.next? Lexer.producer q = r at finds
  cases finds with
  | token stage => exact stage
  | none stage =>
      rw [List.append_nil]
      exact stage
  | refused stage =>
      rw [List.append_nil]
      exact stage

/-- **One query** hands out what it takes. -/
lemma ask (h : Stage s ts q) (query : Query) :
    Stage s (ts ++ q.taken Lexer.producer query) (q.ask Lexer.producer query).2 := by
  cases query with
  | hasNext =>
      rw [Lookahead.ask_hasNext, Lookahead.taken, List.append_nil]
      exact h.tell_peek? .hasNext
  | peek =>
      rw [Lookahead.ask_peek, Lookahead.taken, List.append_nil]
      exact h.tell_peek? .peek
  | next =>
      rw [Lookahead.ask_next]
      exact h.tell_next? .next
  | iterate =>
      rw [Lookahead.ask_iterate]
      exact h.tell_next? .iterate
  | drain =>
      have all := h.run
      rw [Lookahead.ask_drain]
      cases (Lookahead.run Lexer.producer q).error <;> exact all

/-- There is no next token only where the end of the input has been handed out. -/
lemma mem_of_hasNext (h : Stage s ts q) (none : (q.ask Lexer.producer .hasNext).1 = .ok (.flag false)) :
    .endOfInput ∈ ts := by
  have finds := h.peek?
  rw [Lookahead.ask_hasNext] at none
  generalize Lookahead.peek? Lexer.producer q = r at finds none
  cases finds with
  | token => cases none
  | none _ last => exact last
  | refused => cases none

/-- **Any list of queries** does. -/
lemma interview (h : Stage s ts q) (queries : List Query) :
    Stage s (ts ++ q.handed Lexer.producer queries) (interview (Lookahead.ask Lexer.producer) q queries).2 := by
  induction queries generalizing ts q with
  | nil => rwa [Lookahead.handed, CommandTree.interview, List.flatten_nil, List.append_nil]
  | cons query queries ih =>
      rw [Lookahead.handed_cons, ← List.append_assoc]
      exact ih (h.ask query)

end Stage

/-! ### Behind the end of the input -/

/-- Nothing is left, and nothing is looked for. -/
structure AtEnd (q : TokenStream) : Prop where
  ended : q.source.ended = true
  phase : q.phase = .idle ∨ q.phase = .done

/-- Nothing is left where the end of the input has been handed out. -/
lemma Stage.atEnd {s : CharStream} {ts : List Token} {q : TokenStream} (h : Stage s ts q) (last : .endOfInput ∈ ts) :
    q.AtEnd := by
  cases h with
  | idle _ _ ordinary => exact absurd last ordinary
  | ready _ _ ordinary => exact absurd (List.mem_append_left _ last) ordinary
  | seen _ _ ordinary => exact absurd last ordinary
  | failed _ ordinary => exact absurd last ordinary
  | behind _ ended _ _ none => exact ⟨ended, none⟩

namespace AtEnd

variable {q : TokenStream}

lemma peek?_eq (h : q.AtEnd) : Lookahead.peek? Lexer.producer q = .ok none ⟨q.source, .done⟩ := by
  obtain ⟨l, phase⟩ := q
  obtain ⟨ended, none⟩ := h
  have computed : Lexer.producer.produce l = (l, .finished) := Lexer.compute_of_ended ended
  rcases none with none | none
  · obtain rfl : phase = .idle := none
    simp only [Lookahead.peek?, computed]
  · obtain rfl : phase = .done := none
    rfl

lemma next?_eq (h : q.AtEnd) : Lookahead.next? Lexer.producer q = .ok none ⟨q.source, .done⟩ := by
  simp only [Lookahead.next?, h.peek?_eq]

lemma run_eq (h : q.AtEnd) : Lookahead.run Lexer.producer q = ⟨[], none, ⟨q.source, .done⟩⟩ := by
  rw [Lookahead.run_eq, h.next?_eq]

/-- Every query is told that there is nothing, and leaves the stream of characters alone. -/
lemma ask_eq (h : q.AtEnd) (query : Query) : q.ask Lexer.producer query = (query.told none, ⟨q.source, .done⟩) := by
  cases query with
  | hasNext => rw [Lookahead.ask_hasNext, h.peek?_eq, Lookahead.tell]
  | peek => rw [Lookahead.ask_peek, h.peek?_eq, Lookahead.tell]
  | next => rw [Lookahead.ask_next, h.next?_eq, Lookahead.tell]
  | iterate => rw [Lookahead.ask_iterate, h.next?_eq, Lookahead.tell]
  | drain =>
      rw [Lookahead.ask_drain, h.run_eq]
      rfl

lemma taken_eq (h : q.AtEnd) (query : Query) : q.taken Lexer.producer query = [] := by
  cases query with
  | hasNext => rfl
  | peek => rfl
  | next => rw [Lookahead.taken, h.next?_eq]
  | iterate => rw [Lookahead.taken, h.next?_eq]
  | drain => rw [Lookahead.taken, h.run_eq, List.map_nil]

/-- So does any list of queries. -/
lemma interview_eq (h : q.AtEnd) (queries : List Query) :
    (interview (Lookahead.ask Lexer.producer) q queries).1 = queries.map (·.told none) ∧
      q.handed Lexer.producer queries = [] ∧
      (interview (Lookahead.ask Lexer.producer) q queries).2.source = q.source := by
  induction queries generalizing q with
  | nil => exact ⟨rfl, rfl, rfl⟩
  | cons query queries ih =>
      have atEnd : AtEnd ⟨q.source, .done⟩ := ⟨h.ended, .inr rfl⟩
      obtain ⟨answers, handed, source⟩ := ih atEnd
      rw [Lookahead.handed_cons, h.taken_eq, interview, h.ask_eq, answers, handed, source]
      exact ⟨rfl, rfl, rfl⟩

end AtEnd

/-- **There is one end of the input.** Over every stream, whatever its chunks are and whether or not it fails behind them,
and for every list of queries:

* the end of the input is handed out at most once, and nothing behind it;
* once it has been, every query is told that there is nothing, and the stream is left alone, whatever it would deliver;
* as long as it has not been, no one is told that there is nothing;
* at most one token more is handed out than characters have been delivered.

And in any state of a lexer the computation of a token ends, within three accesses to the stream for each character and
chunk that are left, and two more. -/
theorem one_end (chunks : List (List Char)) (failure : Option Cause) (queries : List Query) :
    let q : TokenStream := .ofStream (.ofChunks chunks failure)
    let handed := q.handed Lexer.producer queries
    let behind := (interview (Lookahead.ask Lexer.producer) q queries).2
    .endOfInput ∉ handed.dropLast ∧
      (.endOfInput ∈ handed → ∀ later,
        (interview (Lookahead.ask Lexer.producer) behind later).1 = later.map (·.told none) ∧
          behind.handed Lexer.producer later = [] ∧
          (interview (Lookahead.ask Lexer.producer) behind later).2.source = behind.source) ∧
      ((behind.ask Lexer.producer .hasNext).1 = .ok (.flag false) → .endOfInput ∈ handed) ∧
      (∃ delivered, chunks = delivered ++ behind.source.scanner.stream.chunks ∧
        handed.length ≤ delivered.flatten.length + 1) ∧
      ∀ l : Lexer, ∃ n ≤ 3 * l.scanner.size + 2, Machine.step^[n] (.ofLexer l) = .ofComputed l.compute := by
  intro q handed behind
  have stage : Stage (.ofChunks chunks failure) handed behind := (Stage.start _).interview queries
  refine ⟨stage.not_mem_dropLast, fun last => (stage.atEnd last).interview_eq, stage.mem_of_hasNext, ?_,
    Lexer.compute_halts⟩
  obtain ⟨used, uses, paid⟩ := stage.length_le
  obtain ⟨delivered, left⟩ := uses.chunks
  have spent : used.length ≤ 0 + delivered.flatten.length := uses.length_le left
  exact ⟨delivered, left, by omega⟩

/-- A stream that is at an end for the moment, twice, and then goes on. The first time ends a word and the second time the
input, so that the rest is not read. -/
theorem one_end_momentary :
    let q : TokenStream := .ofStream (.ofChunks [['a'], [], [], ['b']] none)
    let behind := (interview (Lookahead.ask Lexer.producer) q [.next, .iterate]).2
    .endOfInput ∈ q.handed Lexer.producer [.next, .iterate] ∧ behind.source.scanner.stream.chunks = [['b']] ∧
      (interview (Lookahead.ask Lexer.producer) behind [.hasNext, .next, .peek, .iterate, .drain]).1 =
        [.ok (.flag false), .error .exhausted, .error .exhausted, .ok .stopped, .ok (.items [])] := by
  intro q behind
  have last : .endOfInput ∈ q.handed Lexer.producer [.next, .iterate] := by decide +kernel
  have left : behind.source.scanner.stream.chunks = [['b']] := by decide +kernel
  exact ⟨last, left, ((one_end [['a'], [], [], ['b']] none [.next, .iterate]).2.1 last _).1⟩

end TokenStream

end CommandTree
