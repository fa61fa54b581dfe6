import CommandTree.Lookahead.Listed
import CommandTree.Proofs.Unfolding
/-!
One item of lookahead is a cursor.

A caller of a `Lookahead` cannot see that items are computed ahead of their use. The answers to its queries are those
of a `Cursor`, which is nothing but a place in the list of all items: looking leaves it where it is, taking moves it by
one item, and a failure behind the items is reported once. Only the number of computations tells the two apart, and it
is at most one more than the number of items handed out.

* `Query`, `Answer`, `Lookahead.ask`: what a caller may ask, in any order, also after it has been refused;
* `Cursor.ask`: the answers of a cursor;
* `Cursor.Follows`: what a lookahead holds while a cursor stands at its place, with the computations made so far;
* `Cursor.Meets`: what looking at the next item and taking it come to, from which all queries follow;
* `Lookahead.interview_eq_cursor`: **a lookahead answers as a cursor does**.
-/

namespace CommandTree

/-! ### Queries -/

/-- What a caller asks of a sequence of items. -/
inductive Query where
  | hasNext
  | next
  | peek
  | iterate
  | drain
  deriving DecidableEq, Repr

/-- What a query that is not refused is answered. -/
inductive Answer (α : Type) where
  | flag (b : Bool)
  | item (a : α)
  | stopped
  | items (as : List α)
  deriving DecidableEq, Repr

/-- Puts queries one after the other, each to what the query before it has left. -/
def interview {σ Q A : Type} (ask : σ → Q → A × σ) : σ → List Q → List A × σ
  | s, [] => ([], s)
  | s, q :: qs => ((ask s q).1 :: (interview ask (ask s q).2 qs).1, (interview ask (ask s q).2 qs).2)

/-- What a query for one item is answered where there is an item, and where there is none. -/
def Query.told {ε α : Type} : Query → Option α → Except (QueryError ε) (Answer α)
  | hasNext, o => .ok (.flag o.isSome)
  | next, some a | peek, some a | iterate, some a => .ok (.item a)
  | next, none | peek, none => .error .exhausted
  | iterate, none => .ok .stopped
  | drain, o => .ok (.items o.toList)

/-- Carries a query out. -/
def Query.answer {σ ε α : Type} (p : Producer σ ε α) : Query → EStateM (QueryError ε) (Lookahead σ α) (Answer α)
  | hasNext => return .flag (← Lookahead.hasNext p)
  | next => return .item (← Lookahead.next p)
  | peek => return .item (← Lookahead.peek p)
  | iterate => do
    match ← Lookahead.next? p with
    | some a => return .item a
    | none => return .stopped
  | drain => return .items (← Lookahead.drain p)

/-- How many items have been computed that no caller has taken, the end and a failure counted as one. -/
def Phase.computed {α : Type} : Phase α → Nat
  | idle => 0
  | ready _ | done | failed => 1

namespace Lookahead

variable {σ ε α : Type} {p : Producer σ ε α} {l : Lookahead σ α}

/-- What a query is answered, and the sequence behind it, also where the query is refused. -/
def ask (p : Producer σ ε α) (l : Lookahead σ α) (q : Query) : Except (QueryError ε) (Answer α) × Lookahead σ α :=
  match q.answer p l with
  | .ok a l' => (.ok a, l')
  | .error e l' => (.error e, l')

/-- What a query for one item is answered, given what there is. -/
def tell (q : Query) : EStateM.Result (QueryError ε) (Lookahead σ α) (Option α) →
    Except (QueryError ε) (Answer α) × Lookahead σ α
  | .ok o l => (q.told o, l)
  | .error e l => (.error e, l)

lemma ask_hasNext : l.ask p .hasNext = tell .hasNext (peek? p l) := by
  simp only [ask, Query.answer, hasNext, bind, EStateM.bind, pure, EStateM.pure]
  cases peek? p l <;> rfl

lemma ask_peek : l.ask p .peek = tell .peek (peek? p l) := by
  simp only [ask, Query.answer, peek, bind, EStateM.bind, pure, EStateM.pure]
  rcases peek? p l with ⟨_ | _, _⟩ | _ <;> rfl

lemma ask_next : l.ask p .next = tell .next (next? p l) := by
  simp only [ask, Query.answer, next, bind, EStateM.bind, pure, EStateM.pure]
  rcases next? p l with ⟨_ | _, _⟩ | _ <;> rfl

lemma ask_iterate : l.ask p .iterate = tell .iterate (next? p l) := by
  simp only [ask, Query.answer, bind, EStateM.bind]
  rcases next? p l with ⟨_ | _, _⟩ | _ <;> rfl

lemma ask_drain : l.ask p .drain = match (run p l).error with
    | none => (.ok (.items ((run p l).items.map Prod.fst)), (run p l).last)
    | some e => (.error e, (run p l).last) := by
  simp only [ask, Query.answer, drain, bind, EStateM.bind, pure, EStateM.pure]
  cases (run p l).error <;> rfl

end Lookahead

/-! ### Cursors -/

/-- A place in a list of items that may have a failure behind it. -/
structure Cursor where
  position : Nat
  failed : Bool
  deriving DecidableEq, Repr

namespace Cursor

variable {φ ε α : Type}

/-- The cursor before the first item. -/
def start : Cursor := ⟨0, false⟩

/-- What a cursor answers, and where it stands then. -/
def ask (items : List α) (failure : Option ε) (c : Cursor) (q : Query) :
    Except (QueryError ε) (Answer α) × Cursor :=
  if c.failed then (.error .poisoned, c)
  else match q, items[c.position]?, failure with
    | .hasNext, some _, _ => (.ok (.flag true), c)
    | .peek, some a, _ => (.ok (.item a), c)
    | .next, some a, _ | .iterate, some a, _ => (.ok (.item a), ⟨c.position + 1, false⟩)
    | .hasNext, none, none => (.ok (.flag false), c)
    | .peek, none, none | .next, none, none => (.error .exhausted, c)
    | .iterate, none, none => (.ok .stopped, c)
    | .drain, _, none => (.ok (.items (items.drop c.position)), ⟨items.length, false⟩)
    | _, _, some e => (.error (.failed e), ⟨items.length, true⟩)

section Ask

variable {items : List α} {failure : Option ε} {c : Cursor} {q : Query}

/-- Behind the failure every query is refused. -/
lemma ask_of_failed (broken : c.failed = true) : c.ask items failure q = (.error .poisoned, c) := by
  simp [ask, broken]

/-- Where the failure comes next, every query reports it. -/
lemma ask_of_fails {e : ε} :
    ask items (some e) ⟨items.length, false⟩ q = (.error (.failed e), ⟨items.length, true⟩) := by
  cases q <;> simp [ask]

/-- At the end the cursor stays. -/
lemma ask_of_finished (single : q ≠ .drain) :
    ask items (none : Option ε) ⟨items.length, false⟩ q = (q.told none, ⟨items.length, false⟩) := by
  cases q <;> simp [ask, Query.told] at single ⊢

end Ask

/-! ### What a lookahead holds while a cursor stands at its place -/

/-- A lookahead over a list has handed out what lies before the cursor, and has made one computation for each item
handed out, and one more if it knows what comes next. -/
inductive Follows (items : List α) (failure : Option φ) : Cursor → Lookahead (Listed φ α) α → Prop
  | idle {n : Nat} (within : n ≤ items.length) :
    Follows items failure ⟨n, false⟩ ⟨⟨items.drop n, failure, n⟩, .idle⟩
  | ready {n : Nat} {a : α} (here : items[n]? = some a) :
    Follows items failure ⟨n, false⟩ ⟨⟨items.drop (n + 1), failure, n + 1⟩, .ready a⟩
  | done (ends : failure = none) :
    Follows items failure ⟨items.length, false⟩ ⟨⟨[], failure, items.length + 1⟩, .done⟩
  | failed (fails : failure.isSome) :
    Follows items failure ⟨items.length, true⟩ ⟨⟨[], failure, items.length + 1⟩, .failed⟩

section Follows

variable {items : List α} {failure : Option φ} {c : Cursor} {l : Lookahead (Listed φ α) α} {wrap : φ → ε}

/-- A list before its first query is followed from the start. -/
lemma follows_start (items : List α) (failure : Option φ) :
    Follows items failure start (.ofSource ⟨items, failure, 0⟩) :=
  .idle (Nat.zero_le _)

/-- The number of computations. -/
lemma Follows.calls_eq (h : Follows items failure c l) : l.source.calls = c.position + l.phase.computed := by
  cases h <;> rfl

/-- What looking at the next item or taking it comes to, where the cursor stands as given `after` an item. -/
inductive Meets (items : List α) (failure : Option φ) (wrap : φ → ε) (c after : Cursor) :
    EStateM.Result (QueryError ε) (Lookahead (Listed φ α) α) (Option α) → Prop
  | item {a : α} {l : Lookahead (Listed φ α) α} (sound : c.failed = false) (here : items[c.position]? = some a)
    (follows : Follows items failure after l) : Meets items failure wrap c after (.ok (some a) l)
  | finished {l : Lookahead (Listed φ α) α} (at_end : c = ⟨items.length, false⟩) (ends : failure = none)
    (follows : Follows items failure c l) : Meets items failure wrap c after (.ok none l)
  | failed {e : φ} {l : Lookahead (Listed φ α) α} (at_end : c = ⟨items.length, false⟩) (fails : failure = some e)
    (follows : Follows items failure ⟨items.length, true⟩ l) :
    Meets items failure wrap c after (.error (.failed (wrap e)) l)
  | poisoned {l : Lookahead (Listed φ α) α} (broken : c.failed = true) (follows : Follows items failure c l) :
    Meets items failure wrap c after (.error .poisoned l)

/-- Looking at the next item computes it where it is not known, and leaves the cursor where it is. -/
lemma Follows.peek? (h : Follows items failure c l) :
    Meets items failure wrap c c (Lookahead.peek? (Listed.producer wrap) l) := by
  cases h with
  | ready here => exact .item rfl here (.ready here)
  | done ends => exact .finished rfl ends (.done ends)
  | failed fails => exact .poisoned rfl (.failed fails)
  | @idle n within =>
      by_cases left : n < items.length
      · have more : items.drop n = items[n] :: items.drop (n + 1) := List.drop_eq_getElem_cons left
        have here : items[n]? = some items[n] := List.getElem?_eq_getElem left
        rw [more]
        exact .item rfl here (.ready here)
      · obtain rfl : n = items.length := by omega
        rw [List.drop_length]
        cases failure with
        | none => exact .finished rfl rfl (.done rfl)
        | some e => exact .failed rfl rfl (.failed rfl)

/-- An item that waits and is taken leaves nothing known of the one behind it. -/
lemma Follows.take {a : α} (h : Follows items failure c l) (ready : l.phase = .ready a) :
    Follows items failure ⟨c.position + 1, false⟩ ⟨l.source, .idle⟩ := by
  cases h <;> cases ready
  rename_i here
  exact .idle (List.getElem?_eq_some_iff.mp here).1

/-- Taking the next item moves the cursor behind it. -/
lemma Follows.next? (h : Follows items failure c l) :
    Meets items failure wrap c ⟨c.position + 1, false⟩ (Lookahead.next? (Listed.producer wrap) l) := by
  have meets : Meets items failure wrap c c _ := h.peek?
  rw [Lookahead.next?]
  split
  · rename_i seen
    rw [seen] at meets
    cases meets with
    | item sound here follows => exact .item sound here (follows.take (Lookahead.phase_of_peek? seen))
  · rename_i seen
    rw [seen] at meets
    cases meets with
    | finished at_end ends follows => exact .finished at_end ends follows
  · rename_i seen
    rw [seen] at meets
    cases meets with
    | failed at_end fails follows => exact .failed at_end fails follows
    | poisoned broken follows => exact .poisoned broken follows

/-! ### Taking all -/

/-- Where the failure has been reported, no items are left to take. -/
lemma Follows.run_of_failed (h : Follows items failure c l) (broken : c.failed = true) :
    Lookahead.run (Listed.producer wrap) l = ⟨[], some .poisoned, l⟩ := by
  cases h <;> cases broken
  rw [Lookahead.run]
  rfl

/-- Otherwise all items behind the cursor are taken, and the end or the failure is seen. -/
lemma Follows.run (wrap : φ → ε) (h : Follows items failure c l) (sound : c.failed = false) :
    (Lookahead.run (Listed.producer wrap) l).items.map Prod.fst = items.drop c.position ∧
      (Lookahead.run (Listed.producer wrap) l).error = failure.map (QueryError.failed ∘ wrap) ∧
      Follows items failure ⟨items.length, failure.isSome⟩ (Lookahead.run (Listed.producer wrap) l).last := by
  -- the recursion takes an item, with which the cursor moves on
  induction l using Lookahead.run.induct (Listed.producer wrap) generalizing c with
  | case1 l l' taken =>
      have meets : Meets items failure wrap c _ _ := h.next?
      rw [taken] at meets
      cases meets with
      | finished at_end ends follows =>
          subst at_end ends
          rw [Lookahead.run, taken]
          exact ⟨(List.drop_length).symm, rfl, follows⟩
  | case2 l e l' taken =>
      have meets : Meets items failure wrap c _ _ := h.next?
      rw [taken] at meets
      cases meets with
      | failed at_end fails follows =>
          subst at_end fails
          rw [Lookahead.run, taken]
          exact ⟨(List.drop_length).symm, rfl, follows⟩
      | poisoned broken follows => exact absurd broken (by simp [sound])
  | case3 l a l' taken ih =>
      have meets : Meets items failure wrap c _ _ := h.next?
      rw [taken] at meets
      cases meets with
      | item sound here follows =>
          obtain ⟨handed, stopped, behind⟩ := ih follows rfl
          obtain ⟨left, rfl⟩ := List.getElem?_eq_some_iff.mp here
          rw [Lookahead.run, taken]
          refine ⟨?_, stopped, behind⟩
          rw [List.drop_eq_getElem_cons left]
          exact congrArg (items[c.position] :: ·) handed

/-! ### All queries -/

/-- A query for one item is answered as by the cursor, if that moves as given behind an item. -/
lemma Meets.tell {after : Cursor} {r : EStateM.Result (QueryError ε) (Lookahead (Listed φ α) α) (Option α)} {q : Query}
    (h : Meets items failure wrap c after r) (single : q ≠ .drain)
    (moves : ∀ a, c.failed = false → items[c.position]? = some a →
      c.ask items (failure.map wrap) q = (q.told (some a), after)) :
    (Lookahead.tell q r).1 = (c.ask items (failure.map wrap) q).1 ∧
      Follows items failure (c.ask items (failure.map wrap) q).2 (Lookahead.tell q r).2 := by
  cases h with
  | item sound here follows =>
      rw [moves _ sound here]
      exact ⟨rfl, follows⟩
  | finished at_end ends follows =>
      subst at_end ends
      rw [Option.map_none, ask_of_finished single]
      exact ⟨rfl, follows⟩
  | failed at_end fails follows =>
      subst at_end fails
      rw [Option.map_some, ask_of_fails]
      exact ⟨rfl, follows⟩
  | poisoned broken follows =>
      rw [ask_of_failed broken]
      exact ⟨rfl, follows⟩

/-- **One query** is answered as by the cursor, and the lookahead goes on following it. -/
lemma Follows.ask (wrap : φ → ε) (h : Follows items failure c l) (q : Query) :
    (l.ask (Listed.producer wrap) q).1 = (c.ask items (failure.map wrap) q).1 ∧
      Follows items failure (c.ask items (failure.map wrap) q).2 (l.ask (Listed.producer wrap) q).2 := by
  cases q with
  | hasNext =>
      rw [Lookahead.ask_hasNext]
      exact h.peek?.tell nofun fun a sound here => by simp [Cursor.ask, sound, here, Query.told]
  | peek =>
      rw [Lookahead.ask_peek]
      exact h.peek?.tell nofun fun a sound here => by simp [Cursor.ask, sound, here, Query.told]
  | next =>
      rw [Lookahead.ask_next]
      exact h.next?.tell nofun fun a sound here => by simp [Cursor.ask, sound, here, Query.told]
  | iterate =>
      rw [Lookahead.ask_iterate]
      exact h.next?.tell nofun fun a sound here => by simp [Cursor.ask, sound, here, Query.told]
  | drain =>
      rw [Lookahead.ask_drain]
      cases broken : c.failed with
      | true =>
          rw [h.run_of_failed broken, ask_of_failed broken]
          exact ⟨rfl, h⟩
      | false =>
          obtain ⟨handed, stopped, behind⟩ := h.run wrap broken
          rw [stopped, handed]
          cases failure with
          | none => simpa [Cursor.ask, broken] using behind
          | some e => simpa [Cursor.ask, broken] using behind

/-- **Any list of queries** is. -/
lemma Follows.interview (wrap : φ → ε) (h : Follows items failure c l) (queries : List Query) :
    (interview (Lookahead.ask (Listed.producer wrap)) l queries).1 =
        (interview (Cursor.ask items (failure.map wrap)) c queries).1 ∧
      Follows items failure (interview (Cursor.ask items (failure.map wrap)) c queries).2
        (interview (Lookahead.ask (Listed.producer wrap)) l queries).2 := by
  induction queries generalizing c l with
  | nil => exact ⟨rfl, h⟩
  | cons q queries ih =>
      obtain ⟨same, follows⟩ := h.ask wrap q
      obtain ⟨rest, behind⟩ := ih follows
      exact ⟨congrArg₂ List.cons same rest, behind⟩

end Follows

end Cursor

/-- **A lookahead answers as a cursor does.** Over every list of items, with or without a failure behind them, and for
every list of queries, the answers are those of a cursor that starts before the first item. The computations made are
those of the items handed out, and one more if an item waits, the end has been seen or the computation has failed. -/
theorem Lookahead.interview_eq_cursor {φ ε α : Type} (wrap : φ → ε) (items : List α) (failure : Option φ)
    (queries : List Query) :
    let (answers, l) := interview (Lookahead.ask (Listed.producer wrap)) (.ofSource ⟨items, failure, 0⟩) queries
    let (told, cursor) := interview (Cursor.ask items (failure.map wrap)) .start queries
    answers = told ∧ l.source.calls = cursor.position + l.phase.computed := by
  obtain ⟨same, follows⟩ := (Cursor.follows_start items failure).interview wrap queries
  exact ⟨same, follows.calls_eq⟩

end CommandTree
