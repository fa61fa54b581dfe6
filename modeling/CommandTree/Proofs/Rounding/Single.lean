import CommandTree.Proofs.Bounds.Agreement
import CommandTree.Proofs.Rounding.Twice

/-!
Rounding to single precision.

The numbers of single precision are significands of 24 bits times powers of two, from `2 ^ -149` to `2 ^ 104`. A number of
double precision becomes the nearest of them, which is a number of double precision again: of two that are as near it becomes
the one with the even significand, and it keeps its sign, also where it becomes zero. From the middle behind the greatest of
them on it is refused.

* `IsSingle`: a rational is the number of single precision with a significand and an exponent;
* `Floating.RoundsToSingle`: what a number is rounded to, said by significands and distances alone;
* `Floating.RoundsToSingle.unique` and `Floating.RoundsToSingle.value_le`: there is one such number, and the order is kept;
* `Double.toSingle_rounds`: **rounding to single precision is correct**, and the bounds of that precision are rounded.
-/

namespace CommandTree

namespace Numeric

/-! ### The numbers of single precision -/

/-- A rational is the number of single precision with a significand and an exponent. -/
structure IsSingle (x : ℚ) (m e : ℤ) : Prop where
  value : x = m * 2 ^ e
  short : |m| < 2 ^ 24
  -- it has fewer of them only with the least exponent, where the numbers around zero are
  full : e = -149 ∨ 2 ^ 23 ≤ |m|
  least : -149 ≤ e
  greatest : e ≤ 104

lemma isSingle_zero : IsSingle 0 0 (-149) :=
  ⟨by simp, by norm_num, .inl rfl, le_refl _, by norm_num⟩

variable {x : ℚ} {m e : ℤ}

/-- The number of a rank, by its significand and its exponent. -/
lemma point_binary32 {s n : ℕ} (full : s = 0 ∨ 2 ^ 23 ≤ n) (short : n < 2 ^ 24) :
    binary32.point (s * 2 ^ 23 + n) = n * 2 ^ (s - 149 : ℤ) := by
  have scale : (2 : ℚ) ^ binary32.scale = 2 ^ (149 : ℤ) := rfl
  have point : binary32.point (s * 2 ^ 23 + n) = n * 2 ^ s / 2 ^ binary32.scale := binary32.point_add full short.le
  rw [point, scale, zpow_sub₀ two_ne_zero, zpow_natCast, mul_div_assoc]

/-- A number of single precision has a rank, which is even where the significand is. -/
lemma IsSingle.exists_rank (single : IsSingle x m e) :
    ∃ r < binary32.count, binary32.point r = |x| ∧ r % 2 = m.natAbs % 2 := by
  obtain ⟨rfl, short, full, least, greatest⟩ := single
  obtain ⟨s, rfl⟩ : ∃ s : ℕ, e = s - 149 := ⟨(e + 149).toNat, by omega⟩
  have count : binary32.count = 255 * 2 ^ 23 := rfl
  have power : (0 : ℚ) < 2 ^ (s - 149 : ℤ) := zpow_pos two_pos _
  rw [Int.abs_eq_natAbs] at short full
  refine ⟨s * 2 ^ 23 + m.natAbs, by omega, ?_, by omega⟩
  calc binary32.point (s * 2 ^ 23 + m.natAbs)
      = m.natAbs * 2 ^ (s - 149 : ℤ) := point_binary32 (by omega) (by omega)
    _ = |(m : ℚ)| * |(2 : ℚ) ^ (s - 149 : ℤ)| := by rw [Nat.cast_natAbs, Int.cast_abs, abs_of_pos power]
    _ = |(m : ℚ) * 2 ^ (s - 149 : ℤ)| := (abs_mul _ _).symm

namespace Floating

/-- The numbers of the format have significands and exponents. -/
lemma exists_isSingle (w : Floating binary32) : ∃ m e, IsSingle w.value m e := by
  obtain ⟨s, n, place, full, short⟩ := binary32.exists_rank_eq w.rank
  have block : binary32.block = 2 ^ 23 := rfl
  have count : binary32.count = 255 * 2 ^ 23 := rfl
  have inside := w.rank_lt
  rw [block] at place full short
  have size : |if w.negative then -(n : ℤ) else n| = n := by
    cases w.negative <;> simp
  refine ⟨if w.negative then -n else n, s - 149, ?_, ?_, ?_, by omega, by omega⟩
  · rw [value_eq, place, point_binary32 full (by omega), signed]
    cases w.negative <;> simp
  · rw [size]
    omega
  · rw [size]
    omega

/-- A number is known by its sign and its value. -/
lemma eq_of_value_eq {f : BinaryFormat} {v w : Floating f} (sign : v.negative = w.negative) (same : v.value = w.value) :
    v = w := by
  rw [value_eq, value_eq, sign] at same
  obtain ⟨s, r, hr⟩ := v
  obtain ⟨t, q, hq⟩ := w
  obtain rfl : s = t := sign
  obtain rfl : r = q := f.point_strictMono.injective (signed_injective same)
  rfl

variable {u : Floating binary64}

/-- Numbers of double precision that are of single precision are the widened ones. -/
lemma exists_widen_eq_iff : (∃ w : Floating binary32, w.widen = u) ↔ ∃ m e, IsSingle u.value m e := by
  constructor
  · rintro ⟨w, rfl⟩
    rw [value_widen]
    exact w.exists_isSingle
  · rintro ⟨m, e, single⟩
    obtain ⟨r, inside, point, -⟩ := single.exists_rank
    refine ⟨⟨u.negative, r, inside⟩, eq_of_value_eq (negative_widen _) ?_⟩
    rw [value_widen, value_mk, point, abs_value, ← value_eq]

end Floating

/-- What has a significand and an exponent is a number of the format. -/
lemma IsSingle.exists_value_eq (single : IsSingle x m e) : ∃ w : Floating binary32, w.value = x := by
  obtain ⟨r, inside, point, -⟩ := single.exists_rank
  refine ⟨⟨decide (x < 0), r, inside⟩, ?_⟩
  rw [Floating.value_mk, point, signed]
  rcases lt_or_ge x 0 with less | nonneg
  · simp [less, abs_of_neg less]
  · simp [not_lt.2 nonneg, abs_of_nonneg nonneg]

/-- Significands are even where ranks are. -/
lemma IsSingle.even_iff {w : Floating binary32} (single : IsSingle w.value m e) : Even m ↔ w.rank % 2 = 0 := by
  obtain ⟨r, -, point, parity⟩ := single.exists_rank
  rw [Floating.abs_value] at point
  obtain rfl := binary32.point_strictMono.injective point
  rw [Int.even_iff]
  omega

/-! ### What a number is rounded to -/

namespace Floating

/-- What a number of double precision is rounded to: the nearest number of single precision, ties to the even significand. -/
structure RoundsToSingle (v u : Floating binary64) : Prop where
  sign : u.negative = v.negative
  single : ∃ m e, IsSingle u.value m e
  nearest {y : ℚ} {m e : ℤ} (other : IsSingle y m e) : |v.value - u.value| ≤ |v.value - y|
  even {y : ℚ} {m e k l : ℤ} (other : IsSingle y m e) (tie : |v.value - y| = |v.value - u.value|) (apart : y ≠ u.value)
    (own : IsSingle u.value k l) : Even k

variable {u u' v w : Floating binary64}

/-- That is the nearest number of the format, widened. -/
lemma roundsToSingle_iff : v.RoundsToSingle u ↔
    ∃ b : Floating binary32, b.widen = u ∧ b.negative = v.negative ∧ b.IsNearest v.value := by
  constructor
  · rintro ⟨sign, single, nearest, even⟩
    obtain ⟨b, rfl⟩ := exists_widen_eq_iff.2 single
    rw [value_widen] at nearest even
    refine ⟨b, rfl, sign, fun c => ?_, fun c tie apart => ?_⟩
    · obtain ⟨m, e, other⟩ := c.exists_isSingle
      exact nearest other
    · obtain ⟨m, e, other⟩ := c.exists_isSingle
      obtain ⟨k, l, own⟩ := b.exists_isSingle
      exact own.even_iff.1 (even other tie apart own)
  · rintro ⟨b, rfl, sign, nearest⟩
    refine ⟨sign, exists_widen_eq_iff.1 ⟨b, rfl⟩, fun other => ?_, fun other tie apart own => ?_⟩
    · obtain ⟨c, rfl⟩ := other.exists_value_eq
      rw [value_widen]
      exact nearest.nearest c
    · obtain ⟨c, rfl⟩ := other.exists_value_eq
      rw [value_widen] at tie apart own
      exact own.even_iff.2 (nearest.even c tie apart)

/-- **A number is rounded to one number at most.** -/
theorem RoundsToSingle.unique (first : v.RoundsToSingle u) (second : v.RoundsToSingle u') : u = u' := by
  obtain ⟨b, rfl, sign, nearest⟩ := roundsToSingle_iff.1 first
  obtain ⟨c, rfl, sign', nearest'⟩ := roundsToSingle_iff.1 second
  rw [value_eq] at nearest nearest'
  rw [nearest.unique nearest' sign sign']

/-- What is zero is rounded to zero. -/
lemma RoundsToSingle.value_eq_zero (rounds : v.RoundsToSingle u) (zero : v.value = 0) : u.value = 0 := by
  have none := rounds.nearest isSingle_zero
  rwa [zero, zero_sub, sub_zero, abs_neg, abs_zero, abs_nonpos_iff] at none

/-- Numbers with the same value differ only in the sign of zero. -/
lemma eq_or_value_eq_zero {f : BinaryFormat} {v w : Floating f} (same : v.value = w.value) : v = w ∨ v.value = 0 := by
  rcases Bool.eq_or_eq_not w.negative v.negative with sign | sign
  · exact .inl (eq_of_value_eq sign.symm same)
  · have sum : |v.value - w.value| = f.point v.rank + f.point w.rank := by
      rw [value_eq v, value_eq w, sign]
      exact abs_signed_sub_not (f.point_nonneg _) (f.point_nonneg _)
    rw [same, sub_self, abs_zero] at sum
    have first := f.point_nonneg v.rank
    have second := f.point_nonneg w.rank
    rw [← abs_eq_zero, abs_value]
    exact .inr (by linarith)

/-- **Rounding keeps the order.** -/
theorem RoundsToSingle.value_le (first : v.RoundsToSingle u) (second : w.RoundsToSingle u') (le : v.value ≤ w.value) :
    u.value ≤ u'.value := by
  rcases eq_or_lt_of_le le with same | less
  · rcases eq_or_value_eq_zero same with rfl | zero
    · rw [first.unique second]
    · rw [first.value_eq_zero zero, second.value_eq_zero (same ▸ zero)]
  · by_contra reversed
    rw [not_le] at reversed
    obtain ⟨m, e, single⟩ := first.single
    obtain ⟨k, l, single'⟩ := second.single
    -- Each of the two numbers lies on the side of the middle between the results that the other one should be on.
    have order : w.value ≤ v.value := by
      calc w.value ≤ (u'.value + u.value) / 2 := (abs_sub_le_abs_sub_iff reversed).1 (second.nearest single)
        _ ≤ v.value := (abs_sub_le_abs_sub_iff_above reversed).1 (first.nearest single')
    exact absurd order (not_le.2 less)

lemma widen_injective : Function.Injective widen := by
  intro b c same
  have back : b.widen.convert? = some c := by rw [same, convert?_widen]
  rw [convert?_widen] at back
  exact Option.some.inj back

end Floating

/-! ### Rounded values -/

namespace Double

variable {u v : Floating binary64} {b : Floating binary32} {x y : Double} {cause : Cause}

/-- What is rounded is converted to the narrower format, and widened. -/
lemma toSingle_finite_eq_ok_iff :
    (finite v).toSingle = .ok x ↔ ∃ b : Floating binary32, v.convert? = some b ∧ finite b.widen = x := by
  rw [toSingle]
  -- What the conversion gives does not matter here, and must not be computed.
  generalize (v.convert? : Option (Floating binary32)) = converted
  cases converted <;> simp [ofSingle?]

lemma toSingle_finite_eq_ok_widen_iff : (finite v).toSingle = .ok (finite b.widen) ↔ v.convert? = some b := by
  rw [toSingle_finite_eq_ok_iff]
  constructor
  · rintro ⟨c, converted, same⟩
    rw [converted, Floating.widen_injective (finite.inj same)]
  · intro converted
    exact ⟨b, converted, rfl⟩

/-- A number of single precision is rounded to itself. -/
lemma toSingle_widen (b : Floating binary32) : (finite b.widen).toSingle = .ok (finite b.widen) :=
  toSingle_finite_eq_ok_widen_iff.2 b.convert?_widen

/-- Only a number from the middle behind the greatest one on is refused. -/
lemma toSingle_finite_eq_error_iff :
    (finite v).toSingle = .error cause ↔ cause = .beyondSingle ∧ 2 ^ 128 - 2 ^ 103 ≤ |v.value| := by
  rw [← Floating.convert?_eq_none_iff_le_abs, toSingle]
  generalize (v.convert? : Option (Floating binary32)) = converted
  cases converted <;> simp [ofSingle?, eq_comm]

/-- A number below that middle becomes what it is rounded to. -/
lemma toSingle_finite_eq_ok_finite_iff :
    (finite v).toSingle = .ok (finite u) ↔ |v.value| < 2 ^ 128 - 2 ^ 103 ∧ v.RoundsToSingle u := by
  rw [toSingle_finite_eq_ok_iff, Floating.roundsToSingle_iff]
  constructor
  · rintro ⟨b, converted, ⟨⟩⟩
    obtain ⟨below, sign, nearest⟩ := Floating.convert?_eq_some_iff.1 converted
    exact ⟨below, b, rfl, sign, nearest⟩
  · rintro ⟨below, b, rfl, sign, nearest⟩
    exact ⟨b, Floating.convert?_eq_some_iff.2 ⟨below, sign, nearest⟩, rfl⟩

lemma exists_toSingle_eq (below : |v.value| < 2 ^ 128 - 2 ^ 103) : ∃ u, (finite v).toSingle = .ok (finite u) := by
  cases rounded : (finite v).toSingle with
  | ok x =>
      obtain ⟨b, -, rfl⟩ := toSingle_finite_eq_ok_iff.1 rounded
      exact ⟨b.widen, rfl⟩
  | error cause => exact absurd (toSingle_finite_eq_error_iff.1 rounded).2 (not_le.2 below)

/-- **Rounding twice is rounding once.** -/
theorem toSingle_of_toSingle (rounded : x.toSingle = .ok y) : y.toSingle = .ok y := by
  cases x with
  | nan =>
      cases rounded
      rfl
  | infinite negative =>
      cases rounded
      rfl
  | finite v =>
      obtain ⟨b, -, rfl⟩ := toSingle_finite_eq_ok_iff.1 rounded
      exact toSingle_widen b

/-- **The numbers that rounding leaves alone are those of single precision.** -/
theorem toSingle_eq_self_iff : (finite v).toSingle = .ok (finite v) ↔ ∃ m e, IsSingle v.value m e := by
  rw [← Floating.exists_widen_eq_iff]
  constructor
  · intro fixed
    obtain ⟨b, -, same⟩ := toSingle_finite_eq_ok_iff.1 fixed
    exact ⟨b, finite.inj same⟩
  · rintro ⟨b, rfl⟩
    exact toSingle_widen b

end Double

end Numeric

/-! ### Bounds -/

namespace NumericType

open Numeric

variable {n : Number} {v : Floating binary64} {b : Floating binary32} {text : String}

/-- Of the doubles, the finite ones pass the check. -/
lemma doubleBound?_eq_ok_iff : doubleBound? n = .ok v ↔ n.double? = .ok (.finite v) := by
  rw [doubleBound?]
  cases n.double? with
  | error reason => simp
  | ok x =>
      cases x with
      | nan => simp
      | infinite negative => cases negative <;> simp
      | finite w => simp

/-- A bound that is made from a number is this number as a double, rounded. -/
lemma toSingle_of_bound? (made : float.bound? n = .ok b) : ∃ x, n.double? = .ok x ∧ x.toSingle = .ok (.finite b.widen) := by
  change singleBound? n = .ok b at made
  cases double : doubleBound? n with
  | error reason =>
      rw [singleBound?, double] at made
      cases made
  | ok v =>
      have same : singleBound? n = singleBound? (.real (.finite v)) := by
        rw [singleBound?, double]
        rfl
      rw [same, singleBound?_finite] at made
      split at made
      · have converted := roundedBound?_eq_ok_iff.1 made
        exact ⟨_, doubleBound?_eq_ok_iff.1 double, Double.toSingle_finite_eq_ok_widen_iff.2 converted⟩
      · cases made

/-- A bound that is read is the number that is read, rounded. -/
lemma readBound_eq_ok_iff_toSingle (read : readDouble text = .ok v) :
    float.readBound text = .ok b ↔ (Double.finite v).toSingle = .ok (.finite b.widen) := by
  have single : readSingle text = narrow v := by
    rw [readSingle, read]
  rw [readBound_of_ne_words .float (ne_words_of_readDouble read), Double.toSingle_finite_eq_ok_widen_iff, ← narrow_eq_ok_iff,
    ← single]
  exact Iff.rfl

end NumericType

/-! ### Correct rounding -/

namespace Numeric.Double

open NumericType (readDouble)

/-- **Rounding to single precision is correct.** The numbers of double precision that are refused, as too large, are those from
the middle behind the greatest number of single precision on. Every other one becomes the number that it is rounded to, which
is the only one. The numbers that are left alone are those of single precision; so what was rounded is not changed again, and
rounding keeps the order. The bounds of types of single precision are left alone, and they come from rounding, both where they
are made from numbers and where they are read. -/
theorem toSingle_rounds :
    (∀ v : Floating binary64,
      (∀ cause, (finite v).toSingle = .error cause ↔ cause = .beyondSingle ∧ 2 ^ 128 - 2 ^ 103 ≤ |v.value|) ∧
      (|v.value| < 2 ^ 128 - 2 ^ 103 →
        ∃ u, (finite v).toSingle = .ok (finite u) ∧ ∀ u', v.RoundsToSingle u' ↔ u' = u) ∧
      ((finite v).toSingle = .ok (finite v) ↔ ∃ m e, IsSingle v.value m e)) ∧
    (∀ x y : Double, x.toSingle = .ok y → y.toSingle = .ok y) ∧
    (∀ v w u u' : Floating binary64, v.value ≤ w.value → (finite v).toSingle = .ok (finite u) →
      (finite w).toSingle = .ok (finite u') → u.value ≤ u'.value) ∧
    ∀ b : NumericType.float.Bound, ∃ u, NumericType.float.number b = .real (finite u) ∧
      (finite u).toSingle = .ok (finite u) ∧
      (∀ n, NumericType.float.bound? n = .ok b → ∃ x, n.double? = .ok x ∧ x.toSingle = .ok (finite u)) ∧
      ∀ text v, readDouble text = .ok v →
        (NumericType.float.readBound text = .ok b ↔ (finite v).toSingle = .ok (finite u)) := by
  refine ⟨fun v => ⟨fun cause => toSingle_finite_eq_error_iff, fun below => ?_, toSingle_eq_self_iff⟩,
    fun x y => toSingle_of_toSingle, fun v w u u' le first second => ?_, fun b => ?_⟩
  · obtain ⟨u, rounded⟩ := exists_toSingle_eq below
    have rounds := (toSingle_finite_eq_ok_finite_iff.1 rounded).2
    refine ⟨u, rounded, fun u' => ⟨fun other => other.unique rounds, ?_⟩⟩
    rintro rfl
    exact rounds
  · have rounds := (toSingle_finite_eq_ok_finite_iff.1 first).2
    have rounds' := (toSingle_finite_eq_ok_finite_iff.1 second).2
    exact rounds.value_le rounds' le
  · exact ⟨Floating.widen b, rfl, toSingle_widen b, fun n => NumericType.toSingle_of_bound?,
      fun text v => NumericType.readBound_eq_ok_iff_toSingle⟩

/-- Three halves of the least positive number of single precision, with a minus. -/
def threeHalves : Floating binary64 := ⟨true, 873 * binary64.block + 3 * 2 ^ 51, by decide⟩

lemma value_threeHalves : threeHalves.value = -(3 / 2 ^ 150) := by
  have scale : (2 : ℚ) ^ binary64.scale = 2 ^ 201 * 2 ^ 873 := by
    rw [← pow_add]
    rfl
  have unit : (0 : ℚ) < 2 ^ 873 := by positivity
  rw [threeHalves, Floating.value_mk, binary64.point_add (.inr (by decide)) (by decide), scale,
    mul_div_mul_right _ _ unit.ne']
  norm_num [signed]

/-- Three halves of the least positive number lie in the middle between it and its double, and become the double, whose
significand is even. The middle behind the greatest number is refused. -/
theorem toSingle_rounds_threeHalves : |threeHalves.value| < 2 ^ 128 - 2 ^ 103 ∧
    IsSingle (-(1 / 2 ^ 149)) (-1) (-149) ∧ |threeHalves.value - -(1 / 2 ^ 149)| = |threeHalves.value - -(2 / 2 ^ 149)| ∧
    (∃ u, (finite threeHalves).toSingle = .ok (finite u) ∧ u.value = -(2 / 2 ^ 149) ∧
      ∀ m e, IsSingle u.value m e → Even m) ∧
    2 ^ 128 - 2 ^ 103 ≤ |Floating.singleMiddle.value| ∧ (finite Floating.singleMiddle).toSingle = .error .beyondSingle := by
  have below : |threeHalves.value| < 2 ^ 128 - 2 ^ 103 := by
    rw [value_threeHalves]
    norm_num [abs_of_pos]
  have least : IsSingle (-(1 / 2 ^ 149)) (-1) (-149) := by
    refine ⟨?_, by norm_num, .inl rfl, le_refl _, by norm_num⟩
    norm_num [zpow_neg]
  have tie : |threeHalves.value - -(1 / 2 ^ 149)| = |threeHalves.value - -(2 / 2 ^ 149)| := by
    rw [value_threeHalves]
    norm_num [abs_of_pos, abs_of_neg]
  have beyond : 2 ^ 128 - 2 ^ 103 ≤ |Floating.singleMiddle.value| :=
    Floating.convert?_eq_none_iff_le_abs.1 (by decide +kernel)
  have converted : threeHalves.convert? = some (⟨true, 2, by decide⟩ : Floating binary32) := by decide +kernel
  obtain ⟨each, -⟩ := toSingle_rounds
  obtain ⟨u, rounded, only⟩ := (each threeHalves).2.1 below
  have value : u.value = -(2 / 2 ^ 149) := by
    have same := Except.ok.inj (rounded.symm.trans (toSingle_finite_eq_ok_widen_iff.2 converted))
    have point : binary32.point 2 = 2 / 2 ^ 149 := rfl
    rw [finite.inj same, Floating.value_widen, Floating.value_mk, point]
    rfl
  have even (m e : ℤ) (own : IsSingle u.value m e) : Even m := by
    refine ((only u).2 rfl).even least ?_ ?_ own
    · rw [value]
      exact tie
    · rw [value]
      norm_num
  exact ⟨below, least, tie, ⟨u, rounded, value, even⟩, beyond, ((each _).1 _).2 ⟨rfl, beyond⟩⟩

end Numeric.Double

end CommandTree
