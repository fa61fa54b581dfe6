/-!
Binary floating-point numbers, exactly.

The nonnegative finite numbers of a binary format, in increasing order, are numbered by their *rank*: `0` is zero, `1`
the smallest positive number, and so on. All of them are multiples of one unit, the smallest positive number, so
their arithmetic is that of natural numbers: the first `block` ranks are as many units, and each further block of
ranks covers twice the distance of the one before.

* `rankOfRatio` is the rank of the number nearest to a quotient, a tie going to the even rank;
* `units_lt`: a bound on the size of a number by its block;
* `rankOfRatio_le`: a quotient below `2 ^ k` units has a rank below the end of its block;
* `Floating.widen`: every single-precision number is a double-precision number.
-/

namespace CommandTree.Numeric

-- Powers are taken with the core instance, also where a module beside this one brings another.
attribute [local instance (high)] instPowNat

/-! ### Formats -/

/-- A binary floating-point format. -/
structure BinaryFormat where
  -- how many bits a significand has
  precision : Nat
  -- the unit, and smallest positive number, is `2 ^ (-scale)`
  scale : Nat
  -- how many nonnegative finite numbers there are
  count : Nat
  count_pos : 0 < count

/-- The double-precision format. -/
def binary64 : BinaryFormat := ⟨53, 1074, 2047 * 2 ^ (52 : Nat), by decide⟩

/-- The single-precision format. -/
def binary32 : BinaryFormat := ⟨24, 149, 255 * 2 ^ (23 : Nat), by decide⟩

namespace BinaryFormat

variable (f : BinaryFormat)

/-- How many numbers lie between a power of two and the next. -/
def block : Nat := 2 ^ (f.precision - 1)

/-- The number of the given rank, counted in units. -/
def units (rank : Nat) : Nat :=
  if rank < f.block then rank
  else (f.block + rank % f.block) * 2 ^ (rank / f.block - 1)

/-- The size of a number is bounded by the block of its rank. -/
theorem units_lt (rank : Nat) : f.units rank < 2 ^ (f.precision + rank / f.block) := by
  have pos : 0 < f.block := Nat.two_pow_pos _
  have split : f.block ≤ 2 ^ f.precision := Nat.pow_le_pow_right (by decide) (Nat.sub_le ..)
  have twice : f.block + f.block ≤ 2 ^ (f.precision + 1) := by rw [Nat.pow_succ]; omega
  unfold units
  by_cases h : rank < f.block
  · simp only [h, if_true, Nat.div_eq_of_lt h, Nat.add_zero]
    omega
  · simp only [h, if_false]
    have quotient : 1 ≤ rank / f.block := (Nat.le_div_iff_mul_le pos).2 (by omega)
    have rest : rank % f.block < f.block := Nat.mod_lt _ pos
    calc (f.block + rank % f.block) * 2 ^ (rank / f.block - 1)
        < 2 ^ (f.precision + 1) * 2 ^ (rank / f.block - 1) :=
          Nat.mul_lt_mul_of_pos_right (by omega) (Nat.two_pow_pos _)
      _ = 2 ^ (f.precision + rank / f.block) := by
          rw [← Nat.pow_add]; congr 1; omega

end BinaryFormat

/-! ### Rounding -/

/-- The integer nearest to a quotient, the even one of two equally near. -/
def roundHalfEven (num den : Nat) : Nat :=
  let quotient := num / den
  let rest := num % den
  if 2 * rest < den ∨ (2 * rest = den ∧ quotient % 2 = 0) then quotient else quotient + 1

/-- Rounding moves a quotient up by less than one. -/
theorem roundHalfEven_le (num den : Nat) : roundHalfEven num den ≤ num / den + 1 := by
  simp only [roundHalfEven]
  split <;> omega

/-- A quotient without rest is its own rounding. -/
theorem roundHalfEven_mul {den : Nat} (pos : 0 < den) (n : Nat) : roundHalfEven (n * den) den = n := by
  simp [roundHalfEven, Nat.mul_div_cancel n pos, pos]

namespace BinaryFormat

variable (f : BinaryFormat)

/-- The rank of the number nearest to `num / den`, as if there were no greatest number. -/
def rankOfRatio (num den : Nat) : Nat :=
  let scaled := num * 2 ^ f.scale
  let shift := (scaled / den).log2 + 1 - f.precision
  shift * f.block + roundHalfEven scaled (den * 2 ^ shift)

/-- A quotient below `2 ^ k` units has a rank below the end of the block that it belongs to. -/
theorem rankOfRatio_le {num den k : Nat} (small : num * 2 ^ f.scale / den < 2 ^ k) (one : 1 ≤ k) :
    f.rankOfRatio num den ≤ (k - f.precision) * f.block + 2 ^ f.precision := by
  simp only [rankOfRatio]
  generalize num * 2 ^ f.scale = scaled at small ⊢
  have hlog : (scaled / den).log2 + 1 ≤ k := by
    by_cases h : scaled / den = 0
    · simpa [h, Nat.log2_zero] using one
    · have := (Nat.log2_lt h).2 small
      omega
  have hself : scaled / den < 2 ^ ((scaled / den).log2 + 1) := Nat.lt_log2_self
  generalize (scaled / den).log2 = l at hlog hself
  have hfit : scaled / (den * 2 ^ (l + 1 - f.precision)) < 2 ^ f.precision := by
    rw [← Nat.div_div_eq_div_mul]
    apply Nat.div_lt_of_lt_mul
    refine Nat.lt_of_lt_of_le hself ?_
    rw [← Nat.pow_add]
    exact Nat.pow_le_pow_right (by decide) (by omega)
  have hround := roundHalfEven_le scaled (den * 2 ^ (l + 1 - f.precision))
  have hshift : (l + 1 - f.precision) * f.block ≤ (k - f.precision) * f.block :=
    Nat.mul_le_mul_right _ (by omega)
  omega

end BinaryFormat

/-! ### Numbers -/

/-- A finite number of a binary format: its sign, which zero has too, and the rank of its magnitude. -/
structure Floating (f : BinaryFormat) where
  negative : Bool
  rank : Nat
  rank_lt : rank < f.count
  deriving DecidableEq

namespace Floating

variable {f : BinaryFormat}

/-- The greatest finite number. -/
def highest : Floating f := ⟨false, f.count - 1, Nat.sub_lt f.count_pos Nat.one_pos⟩

/-- The least finite number. -/
def lowest : Floating f := ⟨true, f.count - 1, Nat.sub_lt f.count_pos Nat.one_pos⟩

/-- The magnitude in units of the format. -/
def magnitude (v : Floating f) : Nat := f.units v.rank

/-- The value in units of the format; both zeros have the value `0`. -/
def signedUnits (v : Floating f) : Int :=
  if v.negative then -(v.magnitude : Int) else v.magnitude

/-- The number nearest to a quotient, unless that is beyond the finite numbers. -/
def ofRatio? (negative : Bool) (num den : Nat) : Option (Floating f) :=
  let rank := f.rankOfRatio num den
  if h : rank < f.count then some ⟨negative, rank, h⟩ else none

/-- The nearest number of another format, unless it is beyond the finite ones. -/
def convert? {g : BinaryFormat} (v : Floating f) : Option (Floating g) :=
  ofRatio? v.negative v.magnitude (2 ^ f.scale)

/-- Scaling by powers of two adds and subtracts their exponents. -/
theorem mul_two_pow_div_lt {m a s t k : Nat} (small : m < 2 ^ a) (exponents : a + s = t + k) :
    m * 2 ^ s / 2 ^ t < 2 ^ k := by
  apply Nat.div_lt_of_lt_mul
  rw [← Nat.pow_add, ← exponents, Nat.pow_add]
  exact Nat.mul_lt_mul_of_pos_right small (Nat.two_pow_pos s)

/-- A single-precision number as a number of double precision. -/
def widen (v : Floating binary32) : Floating binary64 where
  negative := v.negative
  rank := binary64.rankOfRatio v.magnitude (2 ^ binary32.scale)
  rank_lt := by
    have block : v.rank / binary32.block ≤ 254 := by
      have bound : v.rank < 255 * 2 ^ 23 := v.rank_lt
      have size : binary32.block = 2 ^ 23 := rfl
      rw [size]
      omega
    have small : v.magnitude < 2 ^ (binary32.precision + 254) :=
      Nat.lt_of_lt_of_le (binary32.units_lt v.rank) (Nat.pow_le_pow_right (by decide) (by omega))
    have exponents : binary32.precision + 254 + binary64.scale = binary32.scale + 1203 := rfl
    refine Nat.lt_of_le_of_lt (binary64.rankOfRatio_le (mul_two_pow_div_lt small exponents) (by decide)) ?_
    decide

end Floating

end CommandTree.Numeric
