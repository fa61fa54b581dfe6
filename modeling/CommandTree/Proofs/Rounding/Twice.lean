import CommandTree.Proofs.Rounding.Nearest
import Mathlib.Algebra.Order.Ring.Abs

/-!
Rounding to double and then to single precision.

A rational that is rounded to double precision first and to single precision then does not always become the nearest number
of single precision. The first rounding may take it to the middle between two of these, and the second one does not know any
more on which side of the middle it was. Nothing else goes wrong, because the middles are numbers of double precision.

* `Floating.exists_point_eq_middle`: they are;
* `Floating.convert?_eq_some_iff`: a number of double precision becomes the nearest one of single precision;
* `Floating.nearest_iff_of_isNearest`: **rounding twice finds a nearest number if and only if the first rounding does not hit
  the middle in front of a nearer one.**
-/

namespace CommandTree.Numeric

/-! ### Middles -/

section Middles

variable {a d u v w : ℚ}

lemma sq_sub_sq_eq_middle : (a - v) ^ 2 - (a - w) ^ 2 = 2 * (w - v) * (a - (v + w) / 2) := by ring

/-- Which of two numbers is nearer depends on the middle between them. -/
lemma abs_sub_lt_abs_sub_iff (less : v < w) : |a - w| < |a - v| ↔ (v + w) / 2 < a := by
  have pos : 0 < 2 * (w - v) := by linarith
  rw [← sq_lt_sq, ← sub_pos, sq_sub_sq_eq_middle, mul_pos_iff_of_pos_left pos, sub_pos]

lemma abs_sub_le_abs_sub_iff (less : v < w) : |a - v| ≤ |a - w| ↔ a ≤ (v + w) / 2 := by
  rw [← not_lt, abs_sub_lt_abs_sub_iff less, not_lt]

lemma abs_sub_le_abs_sub_iff_above (less : v < w) : |a - w| ≤ |a - v| ↔ (v + w) / 2 ≤ a := by
  have pos : 0 < 2 * (w - v) := by linarith
  rw [← sq_le_sq, ← sub_nonneg, sq_sub_sq_eq_middle, mul_nonneg_iff_of_pos_left pos, sub_nonneg]

/-- What was rounded to `v` by way of `d`, and has a nearer number `w` above it, was rounded to the middle in front of the
number `u` behind `v`, which is nearer, too. -/
lemma eq_middle_of_nearer (next : v < u) (within : u ≤ w) (nearer : |a - w| < |a - v|) (first : |a - d| ≤ |a - (v + u) / 2|)
    (second : |d - v| ≤ |d - u|) : d = (v + u) / 2 ∧ |a - u| < |a - v| := by
  rw [abs_sub_lt_abs_sub_iff (next.trans_le within)] at nearer
  rw [abs_sub_le_abs_sub_iff next] at second
  have above : (v + u) / 2 < a := by linarith
  refine ⟨?_, (abs_sub_lt_abs_sub_iff next).2 above⟩
  rw [abs_of_pos (sub_pos.2 above), abs_of_nonneg (by linarith)] at first
  linarith

/-- The same below. -/
lemma eq_middle_of_nearer_below (next : u < v) (within : w ≤ u) (nearer : |a - w| < |a - v|)
    (first : |a - d| ≤ |a - (v + u) / 2|) (second : |d - v| ≤ |d - u|) : d = (v + u) / 2 ∧ |a - u| < |a - v| := by
  have mirror (x y : ℚ) : |-x - -y| = |x - y| := by rw [← neg_sub', abs_neg]
  have middle : (-v + -u) / 2 = -((v + u) / 2) := by ring
  have opposite := eq_middle_of_nearer (a := -a) (d := -d) (neg_lt_neg next) (neg_le_neg within)
  rw [middle] at opposite
  simp only [mirror] at opposite
  obtain ⟨tie, nearer'⟩ := opposite nearer first second
  exact ⟨neg_injective tie, nearer'⟩

end Middles

namespace Floating

variable {v : Floating binary32} {d : Floating binary64}

/-- Widening changes no sign and no value. -/
lemma negative_widen (v : Floating binary32) : v.widen.negative = v.negative := rfl

lemma value_widen (v : Floating binary32) : v.widen.value = v.value := by
  have scales : (2 : ℚ) ^ binary64.scale = 2 ^ (binary64.scale - binary32.scale) * 2 ^ binary32.scale := by
    rw [← pow_add]
    rfl
  have unit := binary32.scale_pos
  rw [value, value, signedUnits_widen, scales]
  push_cast
  generalize binary64.scale - binary32.scale = k
  field_simp

/-- **The middle between neighbours of single precision is a number of double precision.** -/
theorem exists_point_eq_middle {r : ℕ} (inside : r + 1 < binary32.count) :
    ∃ c : Floating binary64, binary64.point c.rank = (binary32.point r + binary32.point (r + 1)) / 2 := by
  obtain ⟨s, n, place, full, short⟩ := binary32.exists_rank_eq r
  have next : r + 1 = s * binary32.block + (n + 1) := by omega
  have middle : (binary32.point r + binary32.point (r + 1)) / 2 =
      ((2 * n + 1 : ℤ) : ℚ) * 2 ^ (s + 924) / 2 ^ binary64.scale := by
    rw [next, binary32.point_add (full.imp_right Nat.le_succ_of_le) short, place, binary32.point_add full short.le]
    have scales : (2 : ℚ) ^ binary64.scale = 2 ^ binary32.scale * 2 ^ 925 := by
      rw [← pow_add]
      rfl
    have unit := binary32.scale_pos
    rw [scales, pow_add]
    push_cast
    field_simp
    ring
  have fits : |(2 * n + 1 : ℤ)| < 2 * binary64.block := by
    have narrow : binary32.block = 2 ^ 23 := rfl
    have wide : binary64.block = 2 ^ 52 := rfl
    rw [abs_of_nonneg (by omega)]
    omega
  have nonneg : 0 ≤ (binary32.point r + binary32.point (r + 1)) / 2 := by
    have first := binary32.point_nonneg r
    have second := binary32.point_nonneg (r + 1)
    linarith
  have inRange : (binary32.point r + binary32.point (r + 1)) / 2 < binary64.point binary64.count := by
    let upper : Floating binary32 := ⟨false, r + 1, inside⟩
    have widened : binary64.point upper.widen.rank = binary32.point (r + 1) := by
      rw [← abs_value upper.widen, value_widen, abs_value]
    have less := binary32.point_strictMono (Nat.lt_succ_self r)
    have below := binary64.point_strictMono upper.widen.rank_lt
    linarith
  obtain ⟨c, value⟩ := exists_value_eq_iff.2 ⟨_, _, fits, middle, (abs_of_nonneg nonneg).trans_lt inRange⟩
  exact ⟨c, by rw [← abs_value, value, abs_of_nonneg nonneg]⟩

/-- The magnitude in units as a quotient. -/
lemma magnitude_div (d : Floating binary64) : (d.magnitude / (2 ^ binary64.scale : ℕ) : ℚ) = |d.value| := by
  rw [abs_value, Nat.cast_pow]
  rfl

/-- A number of double precision becomes the nearest one of single precision, if there is one. -/
theorem convert?_eq_some_iff : d.convert? = some v ↔
    |d.value| < 2 ^ 128 - 2 ^ 103 ∧ v.negative = d.negative ∧ v.IsNearest d.value := by
  rw [convert?, ofRatio?_eq_some_iff (Nat.two_pow_pos _) (by decide) (by decide), magnitude_div, ceiling_binary32, abs_value,
    value_eq]

/-- There is none from the middle behind the greatest number on. -/
lemma convert?_eq_none_iff_le_abs :
    (d.convert? : Option (Floating binary32)) = none ↔ 2 ^ 128 - 2 ^ 103 ≤ |d.value| := by
  rw [convert?, ofRatio?_eq_none_iff (Nat.two_pow_pos _) (by decide) (by decide), magnitude_div, ceiling_binary32]

/-- A magnitude that was rounded twice and has a nearer number was rounded to a middle first. -/
lemma exists_tie_of_nearer {a : ℚ} {r q : ℕ} (inside : r < binary32.count) (inside' : q < binary32.count)
    (first : ∀ c : Floating binary64, |a - binary64.point d.rank| ≤ |a - binary64.point c.rank|)
    (second : ∀ u < binary32.count, |binary64.point d.rank - binary32.point r| ≤ |binary64.point d.rank - binary32.point u|)
    (nearer : |a - binary32.point q| < |a - binary32.point r|) : ∃ u < binary32.count,
      binary64.point d.rank = (binary32.point r + binary32.point u) / 2 ∧
        |a - binary32.point u| < |a - binary32.point r| := by
  have mono := binary32.point_strictMono
  rcases lt_trichotomy r q with above | rfl | below
  · have next : r + 1 < binary32.count := by omega
    obtain ⟨c, middle⟩ := exists_point_eq_middle next
    refine ⟨r + 1, next, ?_⟩
    exact eq_middle_of_nearer (mono (Nat.lt_succ_self r)) (mono.monotone above) nearer (middle ▸ first c) (second _ next)
  · exact absurd nearer (lt_irrefl _)
  · obtain ⟨p, rfl⟩ := Nat.exists_eq_add_of_lt below
    obtain ⟨c, middle⟩ := exists_point_eq_middle inside
    have next : q + p < binary32.count := by omega
    refine ⟨q + p, next, ?_⟩
    rw [add_comm (binary32.point _)] at middle
    exact eq_middle_of_nearer_below (mono (Nat.lt_succ_self _)) (mono.monotone (Nat.le_add_right q p)) nearer
      (middle ▸ first c) (second _ next)

/-- **Rounding twice finds a nearest number unless the first rounding hits the middle in front of a nearer one.** -/
theorem nearest_iff_of_isNearest {negative : Bool} {a : ℚ} (nonneg : 0 ≤ a) (signD : d.negative = negative)
    (first : d.IsNearest (signed negative a)) (signV : v.negative = negative) (second : v.IsNearest d.value) :
    (∀ w : Floating binary32, |signed negative a - v.value| ≤ |signed negative a - w.value|) ↔
      ¬ ∃ w : Floating binary32, d.value - v.value = w.value - d.value ∧
        |signed negative a - w.value| < |signed negative a - v.value| := by
  have same (p q : ℚ) : |signed negative p - signed negative q| = |p - q| := abs_signed_sub_signed
  have valueD : d.value = signed negative (binary64.point d.rank) := signD ▸ value_eq d
  have valueV : v.value = signed negative (binary32.point v.rank) := signV ▸ value_eq v
  constructor
  · rintro nearest ⟨w, -, nearer⟩
    exact absurd (nearest w) (not_le.2 nearer)
  · intro none w
    by_contra far
    -- With the other sign nothing is nearer than zero.
    obtain ⟨q, inside, nearer⟩ : ∃ q < binary32.count, |a - binary32.point q| < |a - binary32.point v.rank| := by
      rw [not_le, valueV, same, value_eq] at far
      rcases Bool.eq_or_eq_not w.negative negative with h | h
      · rw [h, same] at far
        exact ⟨_, w.rank_lt, far⟩
      · rw [h, abs_signed_sub_not nonneg (binary32.point_nonneg _)] at far
        refine ⟨0, binary32.count_pos, ?_⟩
        rw [binary32.point_zero, sub_zero, abs_of_nonneg nonneg]
        exact (le_add_of_nonneg_right (binary32.point_nonneg _)).trans_lt far
    have first' (c : Floating binary64) : |a - binary64.point d.rank| ≤ |a - binary64.point c.rank| := by
      have less := first.nearest ⟨negative, c.rank, c.rank_lt⟩
      rwa [valueD, value_mk, same, same] at less
    have second' (u : ℕ) (lt : u < binary32.count) :
        |binary64.point d.rank - binary32.point v.rank| ≤ |binary64.point d.rank - binary32.point u| := by
      have less := second.nearest ⟨negative, u, lt⟩
      rwa [valueD, valueV, value_mk, same, same] at less
    obtain ⟨u, lt, tie, nearer'⟩ := exists_tie_of_nearer v.rank_lt inside first' second' nearer
    refine none ⟨⟨negative, u, lt⟩, ?_, ?_⟩
    · rw [valueD, valueV, value_mk, signed_sub_signed, signed_sub_signed, tie]
      congr 1
      ring
    · rw [valueV, value_mk, same, same]
      exact nearer'

end Floating

end CommandTree.Numeric
