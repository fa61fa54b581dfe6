/-!
Computations that use up their state.

A computation with state and errors *keeps within* a measure of the state if no successful run makes the state
larger, and it *consumes* if every successful run makes the state smaller. Both pass to compositions, which is how
the loops of this library are seen to end.

* `KeepsWithin.bind`: keeping passes to sequences;
* `Consumes.bind_left`, `Consumes.bind_right`: one consuming part makes a sequence of keeping parts consume.
-/

namespace CommandTree

variable {ε σ α β : Type} {size : σ → Nat}

/-- No successful run makes the state larger. -/
def KeepsWithin (size : σ → Nat) (m : EStateM ε σ α) : Prop :=
  ∀ s a s', m s = .ok a s' → size s' ≤ size s

/-- Every successful run makes the state smaller. -/
def Consumes (size : σ → Nat) (m : EStateM ε σ α) : Prop :=
  ∀ s a s', m s = .ok a s' → size s' < size s

/-- A successful sequence consists of two successful runs. -/
theorem bind_eq_ok {m : EStateM ε σ α} {k : α → EStateM ε σ β} {s s' : σ} {b : β}
    (h : (m >>= k) s = .ok b s') : ∃ a t, m s = .ok a t ∧ k a t = .ok b s' := by
  simp only [bind, EStateM.bind] at h
  split at h
  · exact ⟨_, _, by assumption, h⟩
  · exact absurd h (by simp)

/-- What consumes also keeps. -/
theorem Consumes.keepsWithin {m : EStateM ε σ α} (hm : Consumes size m) : KeepsWithin size m :=
  fun s a s' h => Nat.le_of_lt (hm s a s' h)

/-- A computation that only returns a value keeps. -/
theorem KeepsWithin.pure (a : α) : KeepsWithin size (Pure.pure a : EStateM ε σ α) := by
  intro s b s' h
  simp only [Pure.pure, EStateM.pure, EStateM.Result.ok.injEq] at h
  simp [h.2]

/-- A computation that fails keeps, and consumes, for want of successful runs. -/
theorem Consumes.throw (e : ε) : Consumes size (throw e : EStateM ε σ α) := by
  intro s a s' h
  cases h

/-- A sequence of keeping computations keeps. -/
theorem KeepsWithin.bind {m : EStateM ε σ α} {k : α → EStateM ε σ β} (hm : KeepsWithin size m)
    (hk : ∀ a, KeepsWithin size (k a)) : KeepsWithin size (m >>= k) := by
  intro s b s' h
  obtain ⟨a, t, h1, h2⟩ := bind_eq_ok h
  exact Nat.le_trans (hk a _ _ _ h2) (hm _ _ _ h1)

/-- A sequence consumes if its first part does and the rest keeps. -/
theorem Consumes.bind_left {m : EStateM ε σ α} {k : α → EStateM ε σ β} (hm : Consumes size m)
    (hk : ∀ a, KeepsWithin size (k a)) : Consumes size (m >>= k) := by
  intro s b s' h
  obtain ⟨a, t, h1, h2⟩ := bind_eq_ok h
  exact Nat.lt_of_le_of_lt (hk a _ _ _ h2) (hm _ _ _ h1)

/-- A sequence consumes if its first part keeps and the rest consumes. -/
theorem Consumes.bind_right {m : EStateM ε σ α} {k : α → EStateM ε σ β} (hm : KeepsWithin size m)
    (hk : ∀ a, Consumes size (k a)) : Consumes size (m >>= k) := by
  intro s b s' h
  obtain ⟨a, t, h1, h2⟩ := bind_eq_ok h
  exact Nat.lt_of_lt_of_le (hk a _ _ _ h2) (hm _ _ _ h1)

end CommandTree
