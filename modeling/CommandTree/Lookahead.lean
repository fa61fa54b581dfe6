import CommandTree.Progress
/-!
One item of lookahead over a sequence whose items are computed one at a time.

A producer computes the next item of a sequence, or finds that there is none, or fails. A `Lookahead` holds at most one
item that has been computed but not yet handed out, so a caller can look at the next item before taking it. The end
of the sequence is remembered, and so is a failure: after it every query is refused.

* `peek?` computes an item at most once and leaves it in place; `next?` takes it;
* `hasNext`, `peek`, `next` are the queries that callers use; `run` and `drain` take all that is left;
* `consumes_next`, `keepsWithin_peek`: taking an item makes what is left smaller, looking at it does not make it larger.
-/

namespace CommandTree

/-- What the computation of the next item comes to. -/
inductive Computed (ε α : Type) where
  | item (a : α)
  | finished
  | failed (error : ε)

/-- A way to compute the items of a finite sequence one after the other. The source remembers where the sequence
stands, also after a failure. -/
structure Producer (σ ε α : Type) where
  produce : σ → σ × Computed ε α
  -- how much of the sequence is left at most
  size : σ → Nat
  size_le : ∀ {s s'}, produce s = (s', .finished) → size s' ≤ size s
  size_lt : ∀ {s s' a}, produce s = (s', .item a) → size s' < size s

/-- What is known of the next item. -/
inductive Phase (α : Type) where
  | idle
  | ready (a : α)
  | done
  | failed
  deriving DecidableEq

/-- A sequence with one item of lookahead. -/
structure Lookahead (σ α : Type) where
  source : σ
  phase : Phase α

/-- Why a query is not answered. -/
inductive QueryError (ε : Type) where
  | failed (error : ε)
  | poisoned
  | exhausted
  deriving DecidableEq, Repr

/-- The wording of a refusal, where failed computations are worded by `describe`. -/
def QueryError.message {ε : Type} (describe : ε → String) : QueryError ε → String
  | failed e => describe e
  | poisoned => "Iterator used after a failed computation"
  | exhausted => "No more items"

namespace Lookahead

variable {σ ε α : Type}

/-- A sequence before its first query. -/
def ofSource (s : σ) : Lookahead σ α := ⟨s, .idle⟩

/-- How much of a sequence is left at most, an item in waiting included. -/
def size (p : Producer σ ε α) (l : Lookahead σ α) : Nat :=
  p.size l.source + match l.phase with
    | .ready _ => 1
    | _ => 0

/-! ### Queries -/

/-- The next item, if there is one, which stays in place. -/
def peek? (p : Producer σ ε α) : EStateM (QueryError ε) (Lookahead σ α) (Option α) := fun l =>
  match l.phase with
  | .ready a => .ok (some a) l
  | .done => .ok none l
  | .failed => .error .poisoned l
  | .idle =>
    match p.produce l.source with
    | (s, .item a) => .ok (some a) ⟨s, .ready a⟩
    | (s, .finished) => .ok none ⟨s, .done⟩
    | (s, .failed e) => .error (.failed e) ⟨s, .failed⟩

/-- Takes the next item, if there is one. -/
def next? (p : Producer σ ε α) : EStateM (QueryError ε) (Lookahead σ α) (Option α) := fun l =>
  match peek? p l with
  | .ok (some a) l => .ok (some a) ⟨l.source, .idle⟩
  | .ok none l => .ok none l
  | .error e l => .error e l

/-- Whether there is a next item. -/
def hasNext (p : Producer σ ε α) : EStateM (QueryError ε) (Lookahead σ α) Bool := do
  return (← peek? p).isSome

/-- The next item, which must exist and stays in place. -/
def peek (p : Producer σ ε α) : EStateM (QueryError ε) (Lookahead σ α) α := do
  match ← peek? p with
  | some a => return a
  | none => throw .exhausted

/-- Takes the next item, which must exist. -/
def next (p : Producer σ ε α) : EStateM (QueryError ε) (Lookahead σ α) α := do
  match ← next? p with
  | some a => return a
  | none => throw .exhausted

/-! ### Queries use the sequence up -/

/-- Looking at the next item does not make what is left larger. -/
theorem keepsWithin_peek? (p : Producer σ ε α) : KeepsWithin (size p) (peek? p) := by
  intro l o l' h
  unfold peek? at h
  split at h
  · cases h; exact Nat.le_refl _
  · cases h; exact Nat.le_refl _
  · cases h
  · rename_i idle
    split at h
    · rename_i s a produced
      cases h
      have := p.size_lt produced
      simp only [size, idle]
      omega
    · rename_i s produced
      cases h
      have := p.size_le produced
      simp only [size, idle]
      omega
    · cases h

/-- Taking an item makes what is left smaller. -/
theorem size_lt_of_next? (p : Producer σ ε α) {l l' : Lookahead σ α} {a : α}
    (h : next? p l = .ok (some a) l') : l'.size p < l.size p := by
  unfold next? at h
  split at h
  · rename_i m seen
    cases h
    have kept := keepsWithin_peek? p _ _ _ seen
    have ready : m.phase = .ready a := by
      unfold peek? at seen
      split at seen
      · cases seen; assumption
      · cases seen
      · cases seen
      · split at seen <;> cases seen; rfl
    simp only [size, ready] at kept
    simp only [size]
    omega
  · cases h
  · cases h

/-- Asking whether there is a next item does not make what is left larger. -/
theorem keepsWithin_hasNext (p : Producer σ ε α) : KeepsWithin (size p) (hasNext p) :=
  (keepsWithin_peek? p).bind fun _ => .pure _

/-- Looking at a next item that must exist does not make what is left larger. -/
theorem keepsWithin_peek (p : Producer σ ε α) : KeepsWithin (size p) (peek p) :=
  (keepsWithin_peek? p).bind fun
    | some _ => .pure _
    | none => (Consumes.throw _).keepsWithin

/-- Taking an item that must exist makes what is left smaller. -/
theorem consumes_next (p : Producer σ ε α) : Consumes (size p) (next p) := by
  intro l a l' h
  obtain ⟨o, m, taken, rest⟩ := bind_eq_ok h
  cases o with
  | none => cases rest
  | some b =>
    cases rest
    exact size_lt_of_next? p taken

/-! ### Taking all -/

/-- All items of a sequence from some moment on, each with where the sequence stood when it was handed out, why there are no
more if it is not the end, and the sequence afterwards. -/
structure Run (σ ε α : Type) where
  items : List (α × σ)
  error : Option (QueryError ε)
  last : Lookahead σ α

/-- Takes items until there are no more. -/
def run (p : Producer σ ε α) (l : Lookahead σ α) : Run σ ε α :=
  match _h : next? p l with
  | .ok none l' => ⟨[], none, l'⟩
  | .error e l' => ⟨[], some e, l'⟩
  | .ok (some a) l' =>
    let rest := run p l'
    { rest with items := (a, l'.source) :: rest.items }
termination_by l.size p
decreasing_by exact size_lt_of_next? p _h

/-- Takes all items that are left, which fails if one of them cannot be computed. -/
def drain (p : Producer σ ε α) : EStateM (QueryError ε) (Lookahead σ α) (List α) := fun l =>
  let r := run p l
  match r.error with
  | none => .ok (r.items.map Prod.fst) r.last
  | some e => .error e r.last

end Lookahead

end CommandTree
