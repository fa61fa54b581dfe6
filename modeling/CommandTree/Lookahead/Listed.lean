import CommandTree.Lookahead
/-!
A sequence that is given as a list, with a count of the computations made of it.

The list may be followed by a failure in place of the end.
-/

namespace CommandTree

/-- A list of items still to come, perhaps with a failure behind them. -/
structure Listed (φ α : Type) where
  items : List α
  failure : Option φ
  calls : Nat

namespace Listed

variable {φ ε α : Type}

/-- The items of a list, where the computation of the item of the given index fails. -/
def failingAt (items : List α) (index : Nat) (failure : φ) : Listed φ α :=
  if index ≤ items.length then ⟨items.take index, some failure, 0⟩ else ⟨items, none, 0⟩

/-- The items of a list. -/
def ofList (items : List α) : Listed φ α := ⟨items, none, 0⟩

/-- Computes the next item of a list; a failure is reported as `wrap` says. -/
def compute (wrap : φ → ε) (l : Listed φ α) : Listed φ α × Computed ε α :=
  match l.items, l.failure with
  | a :: rest, _ => (⟨rest, l.failure, l.calls + 1⟩, .item a)
  | [], some e => ({ l with calls := l.calls + 1 }, .failed (wrap e))
  | [], none => ({ l with calls := l.calls + 1 }, .finished)

/-- The items of a list, one after the other. -/
def producer (wrap : φ → ε) : Producer (Listed φ α) ε α where
  produce := compute wrap
  size l := l.items.length
  size_le {l l'} h := by
    unfold compute at h
    split at h <;> cases h
    simp_all
  size_lt {l l' a} h := by
    unfold compute at h
    split at h <;> cases h
    simp_all

end Listed

end CommandTree
