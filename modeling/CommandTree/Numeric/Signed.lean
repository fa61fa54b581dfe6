/-!
Signed integers of a fixed number of bits.

* `Signed.ofInt?` accepts exactly the integers in the range of the type.
-/

namespace CommandTree.Numeric

-- Powers are taken with the core instance, also where a module beside this one brings another.
attribute [local instance (high)] instPowNat

/-- The integers from `-2 ^ (bits - 1)` up to but not including `2 ^ (bits - 1)`. -/
structure Signed (bits : Nat) where
  val : Int
  lower : -2 ^ (bits - 1) ≤ val
  upper : val < 2 ^ (bits - 1)
  deriving DecidableEq

namespace Signed

variable {bits : Nat}

/-- The least integer of the range. -/
def lowest : Signed bits where
  val := -2 ^ (bits - 1)
  lower := Int.le_refl _
  upper := by have : (0 : Int) < 2 ^ (bits - 1) := Int.pow_pos (by decide); omega

/-- The greatest integer of the range. -/
def highest : Signed bits where
  val := 2 ^ (bits - 1) - 1
  lower := by have : (0 : Int) < 2 ^ (bits - 1) := Int.pow_pos (by decide); omega
  upper := by omega

/-- An integer, if it is in the range. -/
def ofInt? (n : Int) : Option (Signed bits) :=
  if h : -2 ^ (bits - 1) ≤ n ∧ n < 2 ^ (bits - 1) then some ⟨n, h.1, h.2⟩ else none

/-- The integers in the range are accepted, and no others. -/
theorem ofInt?_eq_some_iff {n : Int} {s : Signed bits} : ofInt? n = some s ↔ s.val = n := by
  constructor
  · intro h
    unfold ofInt? at h
    split at h
    · cases h; rfl
    · cases h
  · intro h
    subst h
    simp [ofInt?, s.lower, s.upper]

end Signed

end CommandTree.Numeric
