import CommandTree.Numeric.Decimal
import CommandTree.Numeric.Shortest
import Mathlib.Order.Monotone.Basic
import Mathlib.Tactic.Ring
/-!
Rounding to the numbers of a binary format.

The numbers that round to a given one form an interval around it, up to the middle between it and its neighbours. The
computed rank is the one in whose interval a quotient lies, and the intervals of two ranks do not overlap, so a quotient
is rounded by finding any rank whose interval it lies in.

* `BinaryFormat.units_add`: the number of a rank, by block and significand; `units_strictMono`: ranks are in order;
* `BinaryFormat.roundsTo_rankOfRatio` and `roundsTo_unique`: a quotient lies in the interval of the computed rank, and
  in no other one, so that `rankOfRatio_eq_iff`; `le_rankOfRatio_iff` says where the ranks from one on begin;
* `Floating.magnitude_widen`, `Floating.convert?_widen`: widening changes no value, and is undone by rounding back;
* `DecimalLiteral.nearest?_eq`: judging literals by their number of bits changes no result.
-/

namespace CommandTree.Numeric

namespace BinaryFormat

variable (f : BinaryFormat)

/-! ### Numbers in order -/

lemma block_pos : 0 < f.block := Nat.two_pow_pos _

/-- The number of a rank: the block counts the doublings of the unit, and the significand has its full length except
where nothing is doubled. -/
lemma units_add {s n : Nat} (full : s = 0 ∨ f.block ≤ n) (short : n ≤ 2 * f.block) :
    f.units (s * f.block + n) = n * 2 ^ s := by
  have pos := f.block_pos
  rw [units]
  rcases Nat.lt_or_ge n f.block with small | large
  · obtain rfl : s = 0 := full.resolve_right (Nat.not_le.2 small)
    simp [small]
  · have inside : ¬ s * f.block + n < f.block := by
      have := Nat.zero_le (s * f.block)
      omega
    rw [if_neg inside]
    rcases Nat.lt_or_ge n (2 * f.block) with less | top
    · obtain ⟨m, rfl⟩ := Nat.exists_eq_add_of_le large
      have split : s * f.block + (f.block + m) = m + f.block * (s + 1) := by ring
      have rest : m < f.block := by omega
      rw [split, Nat.add_mul_mod_self_left, Nat.mod_eq_of_lt rest, Nat.add_mul_div_left _ _ pos,
        Nat.div_eq_of_lt rest, Nat.zero_add, Nat.add_sub_cancel]
    · obtain rfl : n = 2 * f.block := Nat.le_antisymm short top
      have split : s * f.block + 2 * f.block = f.block * (s + 2) := by ring
      rw [split, Nat.mul_mod_right, Nat.mul_div_cancel_left _ pos, Nat.add_zero]
      change f.block * 2 ^ (s + 1) = 2 * f.block * 2 ^ s
      ring

/-- Every rank has a block and a significand. -/
lemma exists_rank_eq (r : Nat) : ∃ s n, r = s * f.block + n ∧ (s = 0 ∨ f.block ≤ n) ∧ n < 2 * f.block := by
  have pos := f.block_pos
  rcases Nat.lt_or_ge r f.block with small | large
  · exact ⟨0, r, by simp, .inl rfl, by omega⟩
  · have quotient : 1 ≤ r / f.block := (Nat.le_div_iff_mul_le pos).2 (by omega)
    obtain ⟨s, hs⟩ := Nat.exists_eq_add_of_le quotient
    have rest := Nat.mod_lt r pos
    have whole := Nat.div_add_mod r f.block
    refine ⟨s, f.block + r % f.block, ?_, .inr (Nat.le_add_right _ _), by omega⟩
    rw [hs] at whole
    calc r = f.block * (1 + s) + r % f.block := whole.symm
      _ = s * f.block + (f.block + r % f.block) := by ring

/-- The next number is one step of the block away. -/
lemma exists_units_succ (r : Nat) : ∃ s, f.units (r + 1) = f.units r + 2 ^ s := by
  obtain ⟨s, n, rfl, full, short⟩ := f.exists_rank_eq r
  refine ⟨s, ?_⟩
  rw [Nat.add_assoc, f.units_add full (by omega), f.units_add (full.imp id fun h => by omega) (by omega)]
  ring

/-- **Numbers grow with their ranks.** -/
theorem units_strictMono : StrictMono f.units := by
  refine strictMono_nat_of_lt_succ fun r => ?_
  obtain ⟨s, next⟩ := f.exists_units_succ r
  rw [next]
  exact Nat.lt_add_of_pos_right (Nat.two_pow_pos s)

lemma units_zero : f.units 0 = 0 := by
  have := f.block_pos
  simp [units, this]

/-- The next number is at least one step away. -/
lemma step_le_units_succ {s n : Nat} (full : s = 0 ∨ f.block ≤ n) (short : n ≤ 2 * f.block) :
    (n + 1) * 2 ^ s ≤ f.units (s * f.block + n + 1) := by
  rcases Nat.lt_or_ge n (2 * f.block) with less | top
  · rw [Nat.add_assoc, f.units_add (full.imp id fun h => by omega) less]
  · obtain rfl : n = 2 * f.block := Nat.le_antisymm short top
    have pos := f.block_pos
    have next : s * f.block + 2 * f.block + 1 = (s + 1) * f.block + (f.block + 1) := by ring
    rw [next, f.units_add (.inr (by omega)) (by omega)]
    calc (2 * f.block + 1) * 2 ^ s ≤ (2 * f.block + 2) * 2 ^ s := Nat.mul_le_mul_right _ (by omega)
      _ = (f.block + 1) * 2 ^ (s + 1) := by ring

/-- What fits into a significand is a number, whatever power of two it is multiplied by. -/
lemma exists_units_eq {n : Nat} (fits : n < 2 * f.block) (k : Nat) : ∃ r, f.units r = n * 2 ^ k := by
  induction k generalizing n with
  | zero => exact ⟨0 * f.block + n, f.units_add (.inl rfl) (by omega)⟩
  | succ k ih =>
      rcases Nat.lt_or_ge n f.block with small | large
      · obtain ⟨r, hr⟩ := ih (n := 2 * n) (by omega)
        exact ⟨r, by rw [hr]; ring⟩
      · exact ⟨(k + 1) * f.block + n, f.units_add (.inr large) (by omega)⟩

/-! ### Intervals -/

/-- A quotient of half units rounds to a number if it lies between the middles to its neighbours, and on them only if
the rank is even. -/
lemma roundsTo_iff {r a b : Nat} : f.roundsTo r a b = true ↔
    (f.units (r - 1) + f.units r) * b ≤ a ∧ a ≤ (f.units r + f.units (r + 1)) * b ∧
      (r % 2 = 1 → (f.units (r - 1) + f.units r) * b < a ∧ a < (f.units r + f.units (r + 1)) * b) := by
  simp only [roundsTo]
  split
  · simp only [Bool.and_eq_true, decide_eq_true_eq]
    omega
  · simp only [Bool.and_eq_true, decide_eq_true_eq]
    omega

/-- A number rounds to itself. -/
lemma roundsTo_self {b : Nat} (pos : 0 < b) (r : Nat) : f.roundsTo r (2 * f.units r * b) b = true := by
  have mono := f.units_strictMono
  have below : f.units (r - 1) ≤ f.units r := mono.monotone (Nat.sub_le r 1)
  have above : f.units r < f.units (r + 1) := mono (Nat.lt_succ_self r)
  refine f.roundsTo_iff.2 ⟨Nat.mul_le_mul_right b (by omega), Nat.mul_le_mul_right b (by omega), fun odd => ?_⟩
  have less : f.units (r - 1) < f.units r := mono (by omega)
  exact ⟨Nat.mul_lt_mul_of_pos_right (by omega) pos, Nat.mul_lt_mul_of_pos_right (by omega) pos⟩

/-- Intervals are intervals of quotients. -/
lemma roundsTo_mul {r a b k : Nat} (pos : 0 < k) : f.roundsTo r (a * k) (b * k) = f.roundsTo r a b := by
  simp only [roundsTo, ← Nat.mul_assoc, Nat.mul_le_mul_right_iff pos, Nat.mul_lt_mul_right pos]

/-- **The intervals of two ranks do not overlap.** -/
theorem roundsTo_unique {r q a b : Nat} (pos : 0 < b) (hr : f.roundsTo r a b = true) (hq : f.roundsTo q a b = true) :
    r = q := by
  wlog less : r ≤ q generalizing r q
  · exact (this hq hr (Nat.le_of_not_le less)).symm
  by_contra differ
  have mono := f.units_strictMono.monotone
  obtain ⟨-, high, oddR⟩ := f.roundsTo_iff.1 hr
  obtain ⟨low, -, oddQ⟩ := f.roundsTo_iff.1 hq
  have first : f.units r ≤ f.units (q - 1) := mono (by omega)
  have second : f.units (r + 1) ≤ f.units q := mono (by omega)
  have order : (f.units r + f.units (r + 1)) * b ≤ (f.units (q - 1) + f.units q) * b :=
    Nat.mul_le_mul_right b (by omega)
  have together : (f.units r + f.units (r + 1)) * b = (f.units (q - 1) + f.units q) * b := by omega
  -- Both intervals end at the same middle, and hold it, so both ranks are even: there is a rank between them.
  have evens : r % 2 = 0 ∧ q % 2 = 0 := by omega
  have between : f.units (r + 1) < f.units q := f.units_strictMono (by omega)
  have apart : (f.units r + f.units (r + 1)) * b < (f.units (q - 1) + f.units q) * b :=
    Nat.mul_lt_mul_of_pos_right (by omega) pos
  omega

end BinaryFormat

/-! ### The computed rank -/

/-- Rounding to an integer moves a quotient by at most one half, and by less if the integer is odd. -/
lemma roundHalfEven_spec (num : Nat) {den : Nat} (pos : 0 < den) :
    2 * (roundHalfEven num den * den) ≤ 2 * num + den ∧ 2 * num ≤ 2 * (roundHalfEven num den * den) + den ∧
      (roundHalfEven num den % 2 = 1 →
        2 * (roundHalfEven num den * den) < 2 * num + den ∧ 2 * num < 2 * (roundHalfEven num den * den) + den) := by
  have whole : num = num / den * den + num % den := (Nat.div_add_mod' num den).symm
  have rest := Nat.mod_lt num pos
  simp only [roundHalfEven]
  split
  · rename_i down
    omega
  · rename_i up
    have next : (num / den + 1) * den = num / den * den + den := Nat.succ_mul _ _
    rw [next]
    omega

namespace BinaryFormat

variable (f : BinaryFormat)

/-- How often the unit is doubled for a quotient, and the significand: it has its full length except where nothing is
doubled, and the quotient is not below the block. -/
lemma significand_bounds {num den : Nat} (pos : 0 < den) (wide : 1 ≤ f.precision) (s n : Nat)
    (hs : s = (num / den).log2 + 1 - f.precision) (hn : n = roundHalfEven num (den * 2 ^ s)) :
    n ≤ 2 * f.block ∧ (s = 0 ∨ f.block ≤ n ∧ f.block * (den * 2 ^ s) ≤ num) := by
  have unit : 0 < den * 2 ^ s := Nat.mul_pos pos (Nat.two_pow_pos s)
  have double : 2 * f.block = 2 ^ f.precision := by
    rw [block]
    rw [← Nat.pow_succ', Nat.succ_eq_add_one, Nat.sub_add_cancel wide]
  have above : num / (den * 2 ^ s) < 2 * f.block := by
    rw [← Nat.div_div_eq_div_mul]
    apply Nat.div_lt_of_lt_mul
    calc num / den < 2 ^ ((num / den).log2 + 1) := Nat.lt_log2_self
      _ ≤ 2 ^ (s + f.precision) := Nat.pow_le_pow_right (by decide) (by omega)
      _ = 2 ^ s * (2 * f.block) := by rw [double, Nat.pow_add]
  refine ⟨?_, ?_⟩
  · have := roundHalfEven_le num (den * 2 ^ s)
    omega
  · by_cases none : s = 0
    · exact .inl none
    · have nonzero : num / den ≠ 0 := by
        intro zero
        rw [zero, Nat.log2_zero] at hs
        omega
      have least : f.block * 2 ^ s ≤ num / den := by
        calc f.block * 2 ^ s = 2 ^ (f.precision - 1 + s) := by rw [block, Nat.pow_add]
          _ = 2 ^ (num / den).log2 := by congr 1; omega
          _ ≤ num / den := Nat.log2_self_le nonzero
      have enough : f.block * (den * 2 ^ s) ≤ num := by
        calc f.block * (den * 2 ^ s) = f.block * 2 ^ s * den := by ring
          _ ≤ num / den * den := Nat.mul_le_mul_right den least
          _ ≤ num := Nat.div_mul_le_self num den
      refine .inr ⟨?_, enough⟩
      have quotient : f.block ≤ num / (den * 2 ^ s) := (Nat.le_div_iff_mul_le unit).2 enough
      rw [hn]
      simp only [roundHalfEven]
      split <;> omega

/-- Ranks are even where significands are. -/
lemma rank_mod_two (wide : 2 ≤ f.precision) (s n : Nat) : (s * f.block + n) % 2 = n % 2 := by
  obtain ⟨k, hk⟩ : ∃ k, f.precision - 1 = k + 1 := ⟨f.precision - 2, by omega⟩
  have even : s * f.block = 2 * (s * 2 ^ k) := by
    rw [block, hk, Nat.pow_succ]
    ring
  rw [even, Nat.mul_add_mod]

/-- The middle between a number and the next is half a step away at least. -/
lemma half_step_le {s n : Nat} (full : s = 0 ∨ f.block ≤ n) (short : n ≤ 2 * f.block) (den : Nat) :
    (2 * n + 1) * (den * 2 ^ s) ≤ (f.units (s * f.block + n) + f.units (s * f.block + n + 1)) * den := by
  have above := f.step_le_units_succ full short
  rw [f.units_add full short]
  calc (2 * n + 1) * (den * 2 ^ s) = (n * 2 ^ s + (n + 1) * 2 ^ s) * den := by ring
    _ ≤ _ := Nat.mul_le_mul_right den (by omega)

/-- The middle between a number and the one before is half a step away, but at the beginning of a block it is nearer:
there the quotient must not be below the number itself. -/
lemma middle_before_le {num den s n : Nat} (pos : 0 < den) (short : n ≤ 2 * f.block)
    (full : s = 0 ∨ f.block ≤ n ∧ f.block * (den * 2 ^ s) ≤ num)
    (lower : 2 * (n * (den * 2 ^ s)) ≤ 2 * num + den * 2 ^ s)
    (odd : n % 2 = 1 → 2 * (n * (den * 2 ^ s)) < 2 * num + den * 2 ^ s) :
    (f.units (s * f.block + n - 1) + f.units (s * f.block + n)) * den ≤ 2 * num ∧
      (n % 2 = 1 → (f.units (s * f.block + n - 1) + f.units (s * f.block + n)) * den < 2 * num) := by
  have here : f.units (s * f.block + n) = n * 2 ^ s := f.units_add (full.imp id And.left) short
  have steps (m : Nat) : m * 2 ^ s * den = m * (den * 2 ^ s) := by ring
  by_cases inner : s ≠ 0 ∧ n = f.block
  · obtain ⟨nonzero, rfl⟩ := inner
    have enough := (full.resolve_left nonzero).2
    have pos' := f.block_pos
    have less : f.units (s * f.block + f.block - 1) < f.units (s * f.block + f.block) :=
      f.units_strictMono (by omega)
    have under : (f.units (s * f.block + f.block - 1) + f.units (s * f.block + f.block)) * den < 2 * num := by
      calc _ < (f.block * 2 ^ s + f.block * 2 ^ s) * den := Nat.mul_lt_mul_of_pos_right (by omega) pos
        _ = 2 * (f.block * (den * 2 ^ s)) := by rw [← steps]; ring
        _ ≤ 2 * num := Nat.mul_le_mul_left 2 enough
    exact ⟨under.le, fun _ => under⟩
  · rcases Nat.eq_zero_or_pos n with rfl | some
    · obtain rfl : s = 0 := full.resolve_right fun h => absurd h.1 (Nat.not_le.2 f.block_pos)
      simp [units_zero]
    · obtain ⟨m, rfl⟩ := Nat.exists_eq_add_of_lt some
      have before : f.units (s * f.block + (0 + m + 1) - 1) = m * 2 ^ s := by
        have place : s * f.block + (0 + m + 1) - 1 = s * f.block + m := by omega
        rw [place]
        exact f.units_add (by omega) (by omega)
      have sum : (f.units (s * f.block + (0 + m + 1) - 1) + f.units (s * f.block + (0 + m + 1))) * den +
          den * 2 ^ s = 2 * ((0 + m + 1) * (den * 2 ^ s)) := by
        rw [before, here, Nat.add_mul, steps, steps]
        ring
      omega

/-- **A quotient lies in the interval of the computed rank.** -/
theorem roundsTo_rankOfRatio (num : Nat) {den : Nat} (pos : 0 < den) (wide : 2 ≤ f.precision) :
    f.roundsTo (f.rankOfRatio num den) (2 * (num * 2 ^ f.scale)) den = true := by
  unfold rankOfRatio
  generalize num * 2 ^ f.scale = scaled
  simp only
  generalize hs : (scaled / den).log2 + 1 - f.precision = s
  generalize hn : roundHalfEven scaled (den * 2 ^ s) = n
  obtain ⟨short, full⟩ := f.significand_bounds pos (by omega) s n hs.symm hn.symm
  have unit : 0 < den * 2 ^ s := Nat.mul_pos pos (Nat.two_pow_pos s)
  obtain ⟨lower, upper, odd⟩ := roundHalfEven_spec scaled unit
  rw [hn] at lower upper odd
  have parity := f.rank_mod_two wide s n
  have low := f.middle_before_le pos short full lower fun h => (odd h).1
  have high := f.half_step_le (full.imp id And.left) short den
  rw [Nat.add_mul (2 * n) 1, Nat.mul_assoc 2 n] at high
  refine f.roundsTo_iff.2 ⟨low.1, by omega, fun rank => ⟨low.2 (parity ▸ rank), ?_⟩⟩
  have strict := (odd (parity ▸ rank)).2
  omega

/-- **The computed rank is the only one in whose interval a quotient lies.** -/
theorem rankOfRatio_eq_iff {num den r : Nat} (pos : 0 < den) (wide : 2 ≤ f.precision) :
    f.rankOfRatio num den = r ↔ f.roundsTo r (2 * (num * 2 ^ f.scale)) den = true := by
  constructor
  · rintro rfl
    exact f.roundsTo_rankOfRatio num pos wide
  · exact f.roundsTo_unique pos (f.roundsTo_rankOfRatio num pos wide)

/-- A quotient has no rank below another exactly from the middle in front of that one on, and behind it if that rank is
odd. -/
lemma le_rankOfRatio_iff {num den r : Nat} (pos : 0 < den) (wide : 2 ≤ f.precision) (above : 0 < r) :
    r ≤ f.rankOfRatio num den ↔ (f.units (r - 1) + f.units r) * den ≤ 2 * (num * 2 ^ f.scale) ∧
      (r % 2 = 1 → (f.units (r - 1) + f.units r) * den < 2 * (num * 2 ^ f.scale)) := by
  obtain ⟨low, high, odd⟩ := f.roundsTo_iff.1 (f.roundsTo_rankOfRatio num pos wide)
  generalize f.rankOfRatio num den = k at low high odd
  have middles {q q' : Nat} (less : q < q') :
      (f.units (q - 1) + f.units q) * den < (f.units (q' - 1) + f.units q') * den := by
    have before : f.units (q - 1) ≤ f.units (q' - 1) := f.units_strictMono.monotone (by omega)
    have here : f.units q < f.units q' := f.units_strictMono less
    exact Nat.mul_lt_mul_of_pos_right (by omega) pos
  constructor
  · intro le
    rcases Nat.eq_or_lt_of_le le with rfl | less
    · exact ⟨low, fun h => (odd h).1⟩
    · have between := middles less
      exact ⟨by omega, fun _ => by omega⟩
  · rintro ⟨middle, strict⟩
    by_contra less
    rcases Nat.eq_or_lt_of_le (Nat.lt_of_not_le less) with rfl | apart
    · -- The middle is the end of both intervals, and only one of the two ranks is even.
      rw [Nat.succ_eq_add_one, Nat.add_sub_cancel] at middle strict
      omega
    · have between := middles apart
      rw [Nat.succ_eq_add_one, Nat.add_sub_cancel] at between
      omega

/-- A quotient that is a number has its rank. -/
lemma rankOfRatio_of_units {num den r : Nat} (pos : 0 < den) (wide : 2 ≤ f.precision)
    (exact' : num * 2 ^ f.scale = f.units r * den) : f.rankOfRatio num den = r := by
  rw [f.rankOfRatio_eq_iff pos wide, exact', ← Nat.mul_assoc]
  exact f.roundsTo_self pos r

/-- The rank depends on the quotient alone. -/
lemma rankOfRatio_mul {num den k : Nat} (pos : 0 < den) (wide : 2 ≤ f.precision) (pos' : 0 < k) :
    f.rankOfRatio (num * k) (den * k) = f.rankOfRatio num den := by
  rw [f.rankOfRatio_eq_iff (Nat.mul_pos pos pos') wide]
  have scaled : 2 * (num * k * 2 ^ f.scale) = 2 * (num * 2 ^ f.scale) * k := by ring
  rw [scaled, f.roundsTo_mul pos']
  exact f.roundsTo_rankOfRatio num pos wide

end BinaryFormat

/-! ### Widening -/

namespace Floating

/-- A quotient of known rank is that number. -/
lemma ofRatio?_of_rank {f : BinaryFormat} {num den r : Nat} (negative : Bool) (h : f.rankOfRatio num den = r)
    (lt : r < f.count) : ofRatio? negative num den = some ⟨negative, r, lt⟩ := by
  subst h
  simp only [ofRatio?, lt, dif_pos]

lemma magnitude_widen_eq {f g : BinaryFormat} (wide : 2 ≤ g.precision) (blocks : f.block ≤ g.block) {k : Nat}
    (scales : g.scale = k + f.scale) (r : Nat) :
    g.units (g.rankOfRatio (f.units r) (2 ^ f.scale)) = f.units r * 2 ^ k := by
  obtain ⟨s, n, rfl, full, short⟩ := f.exists_rank_eq r
  rw [f.units_add full short.le]
  obtain ⟨q, hq⟩ := g.exists_units_eq (by omega : n < 2 * g.block) (s + k)
  have same : g.rankOfRatio (n * 2 ^ s) (2 ^ f.scale) = q := by
    refine g.rankOfRatio_of_units (Nat.two_pow_pos _) wide ?_
    rw [hq, scales]
    ring
  rw [same, hq]
  ring

/-- **Widening changes no value.** -/
theorem magnitude_widen (v : Floating binary32) :
    v.widen.magnitude = v.magnitude * 2 ^ (binary64.scale - binary32.scale) :=
  magnitude_widen_eq (by decide) (by decide) rfl v.rank

/-- **A widened number rounds back to itself.** -/
theorem convert?_widen (v : Floating binary32) : v.widen.convert? = some v := by
  have rank : binary32.rankOfRatio v.widen.magnitude (2 ^ binary64.scale) = v.rank := by
    refine binary32.rankOfRatio_of_units (Nat.two_pow_pos _) (by decide) ?_
    have scales : binary64.scale = binary64.scale - binary32.scale + binary32.scale := rfl
    rw [magnitude_widen, Nat.mul_assoc, ← Nat.pow_add, ← scales]
    rfl
  exact ofRatio?_of_rank v.negative rank v.rank_lt

end Floating

/-! ### Literals -/

namespace DecimalLiteral

variable {f : BinaryFormat} {d : DecimalLiteral}

/-- A literal that is judged too small by its number of bits rounds to zero. -/
lemma rank_of_farBelow (wide : 2 ≤ f.precision) (small : d.exponent < 0) (h : d.farBelow f = true) :
    f.rankOfRatio d.numerator d.denominator = 0 := by
  obtain ⟨negative, c, e⟩ := d
  obtain ⟨k, rfl⟩ : ∃ k : Nat, e = -k := ⟨e.natAbs, by simp only at small; omega⟩
  simp only [farBelow, decide_eq_true_eq] at h
  have size : 2 * (c * 2 ^ f.scale) ≤ 10 ^ k := by
    calc 2 * (c * 2 ^ f.scale) ≤ 2 * (2 ^ (c.log2 + 1) * 2 ^ f.scale) :=
          Nat.mul_le_mul_left 2 (Nat.mul_le_mul_right _ Nat.lt_log2_self.le)
      _ = 2 ^ (c.log2 + f.scale + 2) := by ring
      _ ≤ 2 ^ (3 * k) := Nat.pow_le_pow_right (by decide) (by omega)
      _ = 8 ^ k := by rw [Nat.pow_mul]
      _ ≤ 10 ^ k := Nat.pow_le_pow_left (by decide) k
  have first : 0 < f.units 1 := Nat.lt_of_le_of_lt (Nat.zero_le _) (f.units_strictMono Nat.zero_lt_one)
  have none : (-(k : Int)).toNat = 0 := by omega
  have power : (- -(k : Int)).toNat = k := by omega
  simp only [numerator, denominator, none, power, Nat.pow_zero, Nat.mul_one]
  refine (f.rankOfRatio_eq_iff (Nat.pow_pos (by decide)) wide).2
    (f.roundsTo_iff.2 ⟨?_, ?_, fun odd => absurd odd (by decide)⟩)
  · simp [f.units_zero]
  · rw [f.units_zero, Nat.zero_add, Nat.zero_add]
    exact size.trans (Nat.le_mul_of_pos_left _ first)

/-- A literal that is judged too large by its number of bits is beyond the finite numbers. -/
lemma rank_of_farBeyond (wide : 2 ≤ f.precision) (nonzero : d.coefficient ≠ 0) (large : 0 ≤ d.exponent)
    (h : d.farBeyond f = true) : f.count ≤ f.rankOfRatio d.numerator d.denominator := by
  obtain ⟨negative, c, e⟩ := d
  obtain ⟨k, rfl⟩ := Int.eq_ofNat_of_zero_le large
  simp only [farBeyond, decide_eq_true_eq] at h
  have bits : f.precision + f.count / f.block ≤ c.log2 + 3 * k + f.scale := by exact_mod_cast h
  have power : (k : Int).toNat = k := Int.toNat_natCast k
  have none : (-(k : Int)).toNat = 0 := by omega
  simp only [numerator, denominator, none, power, Nat.pow_zero]
  by_contra finite
  have interval := f.roundsTo_rankOfRatio (c * 10 ^ k) Nat.one_pos wide
  generalize f.rankOfRatio (c * 10 ^ k) 1 = r at finite interval
  obtain ⟨-, upper, -⟩ := f.roundsTo_iff.1 interval
  have mono := f.units_strictMono
  have next : f.units (r + 1) ≤ f.units f.count := mono.monotone (by omega)
  have below : f.units r < f.units (r + 1) := mono (Nat.lt_succ_self r)
  have bound : f.units f.count < c * 10 ^ k * 2 ^ f.scale := by
    calc f.units f.count < 2 ^ (f.precision + f.count / f.block) := f.units_lt f.count
      _ ≤ 2 ^ (c.log2 + 3 * k + f.scale) := Nat.pow_le_pow_right (by decide) bits
      _ = 2 ^ c.log2 * 8 ^ k * 2 ^ f.scale := by rw [Nat.pow_add, Nat.pow_add, Nat.pow_mul]
      _ ≤ c * 10 ^ k * 2 ^ f.scale :=
          Nat.mul_le_mul_right _ (Nat.mul_le_mul (Nat.log2_self_le nonzero) (Nat.pow_le_pow_left (by decide) k))
  omega

/-- **Judging a literal by its number of bits changes no result**: the number nearest to it is that of its quotient. -/
theorem nearest?_eq (wide : 2 ≤ f.precision) (d : DecimalLiteral) :
    d.nearest? f = Floating.ofRatio? d.negative d.numerator d.denominator := by
  have pos : 0 < d.denominator := Nat.pow_pos (by decide)
  rw [nearest?]
  split
  · rename_i small
    refine (Floating.ofRatio?_of_rank d.negative ?_ f.count_pos).symm
    rcases small with zero | ⟨negative, far⟩
    · exact f.rankOfRatio_of_units pos wide (by simp [numerator, zero, f.units_zero])
    · exact rank_of_farBelow wide negative far
  · rename_i large
    split
    · rename_i far
      have beyond := rank_of_farBeyond wide (fun zero => large (.inl zero)) far.1 far.2
      simp only [Floating.ofRatio?, Nat.not_lt.2 beyond, dif_neg, not_false_eq_true]
    · rfl

end DecimalLiteral

end CommandTree.Numeric
