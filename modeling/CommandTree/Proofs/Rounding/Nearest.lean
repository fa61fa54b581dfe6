import CommandTree.Proofs.Bounds
import Mathlib.Algebra.Order.Field.Rat
import Mathlib.Tactic.Linarith
import Mathlib.Tactic.FieldSimp
import Mathlib.Tactic.NormNum

/-!
The nearest number of a binary format.

Numbers have exact values, and so have the quotients that are rounded. Up to the middle behind the greatest number of a
format a quotient becomes a number to which no other one is nearer, and an even one if another is as near; there is only one
such number with the sign of the quotient.

* `BinaryFormat.point` is the number of a rank on the line, and `BinaryFormat.ceiling` is that middle;
* `Floating.value` is the exact value of a number; `Floating.exists_value_eq_iff`: which values there are;
* `Floating.IsNearest`: a number is the nearest one to a rational, with ties to even;
* `Floating.ofRatio?_eq_some_iff`: **a quotient becomes the nearest number, or none if it is too large.**
-/

namespace CommandTree.Numeric

/-! ### Signs and distances -/

/-- A magnitude with a sign. -/
def signed (negative : Bool) (a : ℚ) : ℚ := if negative then -a else a

section Signs

variable {negative : Bool} {a b : ℚ}

lemma abs_signed (nonneg : 0 ≤ a) : |signed negative a| = a := by
  cases negative with
  | false => exact abs_of_nonneg nonneg
  | true => exact (abs_neg a).trans (abs_of_nonneg nonneg)

lemma signed_sub_signed : signed negative a - signed negative b = signed negative (a - b) := by
  cases negative with
  | false => rfl
  | true => simp only [signed, if_true]; ring

lemma abs_signed_sub_signed : |signed negative a - signed negative b| = |a - b| := by
  rw [signed_sub_signed]
  cases negative with
  | false => rfl
  | true => exact abs_neg _

lemma signed_injective : Function.Injective (signed negative) := by
  intro a b same
  cases negative with
  | false => exact same
  | true => exact neg_injective same

/-- A number that is equally far from two others is in the middle between them. -/
lemma eq_middle_of_tie {x : ℚ} (tie : |x - a| = |x - b|) (apart : a ≠ b) : x = (a + b) / 2 := by
  rcases abs_eq_abs.1 tie with same | opposite
  · exact absurd (by linarith) apart
  · linarith

/-- Another sign takes numbers apart by the sum of their magnitudes. -/
lemma abs_signed_sub_not (ha : 0 ≤ a) (hb : 0 ≤ b) : |signed negative a - signed (!negative) b| = a + b := by
  have sum : signed negative a - signed (!negative) b = signed negative (a + b) := by
    cases negative <;> simp [signed]
    ring
  rw [sum, abs_signed (by linarith)]

end Signs

/-! ### Numbers on the line -/

namespace BinaryFormat

variable (f : BinaryFormat)

/-- The number of a rank, exactly. -/
def point (rank : ℕ) : ℚ := f.units rank / 2 ^ f.scale

/-- The middle between the greatest finite number and the one that would come next. -/
def ceiling : ℚ := (f.point (f.count - 1) + f.point f.count) / 2

lemma scale_pos : (0 : ℚ) < 2 ^ f.scale := by positivity

lemma point_strictMono : StrictMono f.point := fun _ _ less =>
  div_lt_div_of_pos_right (Nat.cast_lt.2 (f.units_strictMono less)) f.scale_pos

lemma point_zero : f.point 0 = 0 := by simp [point, units_zero]

lemma point_nonneg (r : ℕ) : 0 ≤ f.point r := div_nonneg (Nat.cast_nonneg _) f.scale_pos.le

lemma point_add {s n : ℕ} (full : s = 0 ∨ f.block ≤ n) (short : n ≤ 2 * f.block) :
    f.point (s * f.block + n) = n * 2 ^ s / 2 ^ f.scale := by
  rw [point, f.units_add full short]
  push_cast
  rfl

/-- The middle behind the greatest finite number has one more digit than a significand. -/
lemma ceiling_eq {k : ℕ} (count : f.count = (f.scale + k + 3) * f.block) : f.ceiling = (4 * f.block - 1) * 2 ^ k := by
  have pos := f.block_pos
  have last : f.count - 1 = (f.scale + k + 1) * f.block + (2 * f.block - 1) := by
    have split : (f.scale + k + 3) * f.block = (f.scale + k + 1) * f.block + 2 * f.block := by ring
    omega
  have next : f.count = (f.scale + k + 1) * f.block + 2 * f.block := by
    rw [count]
    ring
  have unit := f.scale_pos
  rw [ceiling, last, next, f.point_add (.inr (by omega)) (by omega), f.point_add (.inr (by omega)) le_rfl,
    Nat.cast_sub (by omega)]
  push_cast
  field_simp
  ring

variable {num den : ℕ}

/-- Middles between numbers are compared with a quotient as they are in units. -/
lemma middle_le_iff (pos : 0 < den) (q r : ℕ) :
    (f.point q + f.point r) / 2 ≤ num / den ↔ (f.units q + f.units r) * den ≤ 2 * (num * 2 ^ f.scale) := by
  have unit := f.scale_pos
  have den' : (0 : ℚ) < den := Nat.cast_pos.2 pos
  rw [point, point, ← add_div, div_div, div_le_div_iff₀ (by positivity) den', ← Nat.cast_le (α := ℚ)]
  push_cast
  constructor <;> intro h <;> linarith

lemma le_middle_iff (pos : 0 < den) (q r : ℕ) :
    num / den ≤ (f.point q + f.point r) / 2 ↔ 2 * (num * 2 ^ f.scale) ≤ (f.units q + f.units r) * den := by
  have unit := f.scale_pos
  have den' : (0 : ℚ) < den := Nat.cast_pos.2 pos
  rw [point, point, ← add_div, div_div, div_le_div_iff₀ den' (by positivity), ← Nat.cast_le (α := ℚ)]
  push_cast
  constructor <;> intro h <;> linarith

/-- **The computed rank is that of a nearest number**, as if there were no greatest one. -/
theorem abs_sub_point_le (pos : 0 < den) (wide : 2 ≤ f.precision) (q : ℕ) :
    |(num / den : ℚ) - f.point (f.rankOfRatio num den)| ≤ |(num / den : ℚ) - f.point q| := by
  obtain ⟨low, high, -⟩ := f.roundsTo_iff.1 (f.roundsTo_rankOfRatio num pos wide)
  rw [← f.middle_le_iff pos] at low
  rw [← f.le_middle_iff pos] at high
  generalize f.rankOfRatio num den = r at low high
  generalize (num / den : ℚ) = a at low high ⊢
  have mono := f.point_strictMono.monotone
  rcases lt_trichotomy q r with below | rfl | above
  · have first : f.point q ≤ f.point (r - 1) := mono (by omega)
    have second : f.point q ≤ f.point r := mono below.le
    calc |a - f.point r| ≤ a - f.point q := abs_le.2 ⟨by linarith, by linarith⟩
      _ ≤ |a - f.point q| := le_abs_self _
  · exact le_refl _
  · have first : f.point (r + 1) ≤ f.point q := mono (by omega)
    have second : f.point r ≤ f.point q := mono above.le
    calc |a - f.point r| ≤ f.point q - a := abs_le.2 ⟨by linarith, by linarith⟩
      _ ≤ |a - f.point q| := by rw [abs_sub_comm]; exact le_abs_self _

/-- If another number is as near, the computed rank is even. -/
lemma rankOfRatio_mod_two_of_tie (pos : 0 < den) (wide : 2 ≤ f.precision) {q : ℕ} (apart : q ≠ f.rankOfRatio num den)
    (tie : |(num / den : ℚ) - f.point q| = |(num / den : ℚ) - f.point (f.rankOfRatio num den)|) :
    f.rankOfRatio num den % 2 = 0 := by
  obtain ⟨-, -, odd⟩ := f.roundsTo_iff.1 (f.roundsTo_rankOfRatio num pos wide)
  by_contra uneven
  obtain ⟨low, high⟩ := odd (by omega)
  rw [← not_le, ← f.le_middle_iff pos, not_le] at low
  rw [← not_le, ← f.middle_le_iff pos, not_le] at high
  generalize f.rankOfRatio num den = r at low high apart tie
  generalize (num / den : ℚ) = a at low high tie
  have mono := f.point_strictMono.monotone
  have differ : f.point q ≠ f.point r := fun same => apart (f.point_strictMono.injective same)
  have middle : a = (f.point q + f.point r) / 2 := eq_middle_of_tie tie differ
  rcases Nat.lt_or_gt_of_ne apart with below | above
  · have : f.point q ≤ f.point (r - 1) := mono (by omega)
    linarith
  · have : f.point (r + 1) ≤ f.point q := mono (by omega)
    linarith

end BinaryFormat

/-! ### The nearest number of a format -/

namespace Floating

variable {f : BinaryFormat} {v w : Floating f} {x : ℚ}

/-- The exact value of a number. -/
def value (v : Floating f) : ℚ := v.signedUnits / 2 ^ f.scale

lemma value_eq (v : Floating f) : v.value = signed v.negative (f.point v.rank) := by
  rw [value, signedUnits, magnitude, signed, BinaryFormat.point]
  cases v.negative with
  | false => simp
  | true => simp [neg_div]

lemma abs_value (v : Floating f) : |v.value| = f.point v.rank := by
  rw [value_eq, abs_signed (f.point_nonneg _)]

lemma value_mk {negative : Bool} {r : ℕ} (lt : r < f.count) :
    (⟨negative, r, lt⟩ : Floating f).value = signed negative (f.point r) := value_eq _

/-- A number of a format is the nearest one to a rational, and the even one if another is as near: ranks are even where
significands are. -/
structure IsNearest (x : ℚ) (v : Floating f) : Prop where
  nearest (w : Floating f) : |x - v.value| ≤ |x - w.value|
  even (w : Floating f) (tie : |x - w.value| = |x - v.value|) (apart : w.value ≠ v.value) : v.rank % 2 = 0

/-- **The numbers of a format are the significands of its length times powers of two**, as far as they are less than the
power of two behind the greatest one. -/
theorem exists_value_eq_iff : (∃ v : Floating f, v.value = x) ↔
    ∃ (m : ℤ) (k : ℕ), |m| < 2 * f.block ∧ x = m * 2 ^ k / 2 ^ f.scale ∧ |x| < f.point f.count := by
  have magnitude {negative : Bool} (r : ℕ) : |signed negative (f.point r)| = f.point r := abs_signed (f.point_nonneg r)
  constructor
  · rintro ⟨v, rfl⟩
    obtain ⟨s, n, place, full, short⟩ := f.exists_rank_eq v.rank
    refine ⟨if v.negative then -n else n, s, ?_, ?_, ?_⟩
    · cases v.negative <;> simp <;> exact_mod_cast short
    · rw [value_eq, place, f.point_add full short.le]
      cases v.negative <;> simp [signed, neg_div]
    · rw [value_eq, magnitude]
      exact f.point_strictMono v.rank_lt
  · rintro ⟨m, k, fits, rfl, below⟩
    rw [Int.abs_eq_natAbs] at fits
    obtain ⟨r, rank⟩ := f.exists_units_eq (n := m.natAbs) (by omega) k
    have exact' : (m * 2 ^ k / 2 ^ f.scale : ℚ) = signed (decide (m < 0)) (f.point r) := by
      rw [BinaryFormat.point, rank, Nat.cast_mul, Nat.cast_natAbs, Nat.cast_pow, Nat.cast_ofNat, signed]
      rcases lt_or_ge m 0 with less | nonneg
      · simp [less, abs_of_neg less, neg_div]
      · simp [not_lt.2 nonneg, abs_of_nonneg nonneg]
    rw [exact', magnitude] at below
    exact ⟨⟨decide (m < 0), r, f.point_strictMono.lt_iff_lt.1 below⟩, (value_mk _).trans exact'.symm⟩

variable {num den : ℕ} {negative : Bool}

/-- The number of the computed rank, with the sign of a quotient, is nearest to it. -/
lemma isNearest_of_rank (pos : 0 < den) (wide : 2 ≤ f.precision) (rank : f.rankOfRatio num den = v.rank)
    (sign : v.negative = negative) : v.IsNearest (signed negative (num / den)) := by
  have quotient : (0 : ℚ) ≤ num / den := div_nonneg (Nat.cast_nonneg _) (Nat.cast_nonneg _)
  have same (q : ℕ) : |signed negative (num / den) - signed negative (f.point q)| = |(num / den : ℚ) - f.point q| :=
    abs_signed_sub_signed
  have other (q : ℕ) : |signed negative (num / den) - signed (!negative) (f.point q)| = num / den + f.point q :=
    abs_signed_sub_not quotient (f.point_nonneg q)
  have nearest (q : ℕ) : |(num / den : ℚ) - f.point (f.rankOfRatio num den)| ≤ |(num / den : ℚ) - f.point q| :=
    f.abs_sub_point_le pos wide q
  -- With the other sign no number is nearer than zero.
  have zero := nearest 0
  rw [f.point_zero, sub_zero, abs_of_nonneg quotient] at zero
  rw [rank] at nearest zero
  constructor
  · intro w
    rw [value_eq v, value_eq w, sign, same]
    rcases Bool.eq_or_eq_not w.negative negative with h | h
    · rw [h, same]
      exact nearest w.rank
    · rw [h, other]
      have := f.point_nonneg w.rank
      linarith
  · intro w tie apart
    rw [value_eq v, value_eq w, sign] at tie apart
    rw [same] at tie
    rw [← rank]
    rcases Bool.eq_or_eq_not w.negative negative with h | h
    · rw [h, same, ← rank] at tie
      refine f.rankOfRatio_mod_two_of_tie pos wide (fun equal => apart ?_) tie
      rw [h, equal, rank]
    · rw [h, other] at tie
      have least : f.point w.rank = 0 := le_antisymm (by linarith) (f.point_nonneg _)
      have none : w.rank = 0 := f.point_strictMono.injective (least.trans f.point_zero.symm)
      refine f.rankOfRatio_mod_two_of_tie pos wide (q := 0) (fun equal => apart ?_) ?_
      · rw [none, ← rank, ← equal, f.point_zero]
        simp [signed]
      · rw [f.point_zero, sub_zero, abs_of_nonneg quotient, rank]
        linarith

/-- **At most one number with the sign of a magnitude is nearest to it.** -/
theorem IsNearest.unique {a : ℚ} (first : v.IsNearest (signed negative a)) (second : w.IsNearest (signed negative a))
    (signV : v.negative = negative) (signW : w.negative = negative) : v = w := by
  wlog less : v.rank ≤ w.rank generalizing v w
  · exact (this second first signW signV (Nat.le_of_not_le less)).symm
  have tie : |signed negative a - v.value| = |signed negative a - w.value| :=
    le_antisymm (first.nearest w) (second.nearest v)
  have ranks : v.rank = w.rank := by
    by_contra differ
    have apart : w.value ≠ v.value := by
      rw [value_eq, value_eq, signV, signW]
      exact fun same => differ (f.point_strictMono.injective (signed_injective same)).symm
    -- Both are even, so there is a number between them, and that one is nearer.
    have evenV := first.even w tie.symm apart
    have evenW := second.even v tie apart.symm
    have inside : v.rank + 1 < f.count := Nat.lt_of_le_of_lt (by omega) w.rank_lt
    have between := first.nearest ⟨negative, v.rank + 1, inside⟩
    have below : f.point v.rank < f.point (v.rank + 1) := f.point_strictMono (Nat.lt_succ_self _)
    have above : f.point (v.rank + 1) < f.point w.rank := f.point_strictMono (by omega)
    rw [value_eq, value_eq, signV, signW, abs_signed_sub_signed, abs_signed_sub_signed] at tie
    rw [value_eq, value_mk, signV, abs_signed_sub_signed, abs_signed_sub_signed] at between
    have middle := eq_middle_of_tie tie (by linarith)
    have nearer : |a - f.point (v.rank + 1)| < a - f.point v.rank := abs_lt.2 ⟨by linarith, by linarith⟩
    exact absurd (between.trans_lt nearer) (not_lt.2 (le_abs_self _))
  obtain ⟨s, r, hr⟩ := v
  obtain ⟨t, q, hq⟩ := w
  obtain rfl : s = t := signV.trans signW.symm
  obtain rfl : r = q := ranks
  rfl

/-- A quotient is beyond the finite numbers from the middle behind the greatest of them on. -/
lemma ofRatio?_eq_none_iff (pos : 0 < den) (wide : 2 ≤ f.precision) (even : f.count % 2 = 0) :
    ofRatio? (f := f) negative num den = none ↔ f.ceiling ≤ num / den := by
  have beyond : f.count ≤ f.rankOfRatio num den ↔ _ := f.le_rankOfRatio_iff pos wide f.count_pos
  rw [BinaryFormat.ceiling, f.middle_le_iff pos, ofRatio?]
  simp only [dite_eq_right_iff, reduceCtorEq, imp_false, Nat.not_lt, beyond]
  exact and_iff_left fun odd => absurd odd (by omega)

/-- **A quotient below that middle becomes the nearest number**, with its sign. -/
theorem ofRatio?_eq_some_iff (pos : 0 < den) (wide : 2 ≤ f.precision) (even : f.count % 2 = 0) :
    ofRatio? negative num den = some v ↔
      (num / den : ℚ) < f.ceiling ∧ v.negative = negative ∧ v.IsNearest (signed negative (num / den)) := by
  have found {w : Floating f} (h : ofRatio? negative num den = some w) :
      w.negative = negative ∧ w.IsNearest (signed negative (num / den)) := by
    rw [ofRatio?] at h
    split at h
    · cases h
      exact ⟨rfl, isNearest_of_rank pos wide rfl rfl⟩
    · cases h
  have beyond : (ofRatio? negative num den : Option (Floating f)) = none ↔ _ := ofRatio?_eq_none_iff pos wide even
  constructor
  · intro h
    refine ⟨?_, found h⟩
    rw [← not_le, ← beyond, h]
    exact Option.some_ne_none v
  · rintro ⟨below, sign, nearest⟩
    rw [← not_le, ← beyond] at below
    obtain ⟨w, h⟩ := Option.ne_none_iff_exists'.1 below
    obtain ⟨sign', nearest'⟩ := found h
    rw [h, nearest.unique nearest' sign sign']

end Floating

lemma ceiling_binary64 : binary64.ceiling = 2 ^ 1024 - 2 ^ 970 := by
  rw [binary64.ceiling_eq (k := 970) rfl]
  have block : (binary64.block : ℚ) = 2 ^ 52 := by norm_num [BinaryFormat.block, binary64]
  have power : (2 : ℚ) ^ 1024 = 2 ^ 54 * 2 ^ 970 := by rw [← pow_add]
  rw [block, power]
  generalize (2 : ℚ) ^ 970 = unit
  ring

lemma ceiling_binary32 : binary32.ceiling = 2 ^ 128 - 2 ^ 103 := by
  rw [binary32.ceiling_eq (k := 103) rfl]
  have block : (binary32.block : ℚ) = 2 ^ 23 := by norm_num [BinaryFormat.block, binary32]
  rw [block]
  ring

end CommandTree.Numeric
