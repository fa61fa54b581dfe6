import CommandTree.ArgumentType.Draft
import CommandTree.Proofs.Numerals
/-!
Bounds of numeric types, as numbers and as text.

* `Floating.signedUnits_inj`: numbers of one format with the same value are equal, the two zeros apart;
* `NumericType.eq_of_same`: a bound that compares equal to an extreme is that extreme, so the words for the extremes
  lose nothing;
* `NumericType.readBound_boundText`: every bound reads back from its parameter;
* `NumericType.bound?_number`: every bound passes the checks for the values of its type, which also round it again.
-/

namespace CommandTree

open Numeric

/-! ### Values in order -/

namespace Numeric

namespace Floating

variable {f : BinaryFormat} {v w : Floating f}

/-- Only zero has two signs: a value that is not zero has one number. -/
lemma signedUnits_inj (nonzero : w.rank ≠ 0) (same : v.signedUnits = w.signedUnits) : v = w := by
  have pos : 0 < w.magnitude := f.units_zero ▸ f.units_strictMono (Nat.pos_of_ne_zero nonzero)
  obtain ⟨s, r, hr⟩ := v
  obtain ⟨t, q, hq⟩ := w
  simp only [signedUnits] at same
  simp only [magnitude] at same pos
  have signs : s = t := by
    by_contra differ
    rcases Bool.eq_false_or_eq_true s with rfl | rfl
    · obtain rfl : t = false := by simpa using Ne.symm differ
      simp only [Bool.false_eq_true, if_true, if_false] at same
      omega
    · obtain rfl : t = true := by simpa using Ne.symm differ
      simp only [Bool.false_eq_true, if_true, if_false] at same
      omega
  subst signs
  have magnitudes : f.units r = f.units q := by
    split at same <;> omega
  obtain rfl := f.units_strictMono.injective magnitudes
  rfl

/-- The extremes are the extremes. -/
lemma signedUnits_mem_Icc (v : Floating f) :
    (lowest : Floating f).signedUnits ≤ v.signedUnits ∧ v.signedUnits ≤ (highest : Floating f).signedUnits := by
  have inside : f.units v.rank ≤ f.units (f.count - 1) :=
    f.units_strictMono.monotone (Nat.le_sub_one_of_lt v.rank_lt)
  have lower : (lowest : Floating f).signedUnits = -(f.units (f.count - 1) : Int) := rfl
  have upper : (highest : Floating f).signedUnits = (f.units (f.count - 1) : Int) := rfl
  rw [lower, upper, signedUnits, magnitude]
  split <;> omega

/-- Widening changes the unit alone. -/
lemma signedUnits_widen (v : Floating binary32) :
    v.widen.signedUnits = v.signedUnits * 2 ^ (binary64.scale - binary32.scale) := by
  have sign : v.widen.negative = v.negative := rfl
  rw [signedUnits, signedUnits, sign, magnitude_widen]
  generalize binary64.scale - binary32.scale = k
  split
  · push_cast
    rw [Int.neg_mul]
  · push_cast
    rfl

end Floating

namespace Number

lemma whole_le {m n : Int} : (whole m).le (whole n) = true ↔ m ≤ n := by
  simp only [le, place?, Place.le, decide_eq_true_eq]
  omega

lemma finite_le {v w : Floating binary64} :
    (real (.finite v)).le (real (.finite w)) = true ↔ v.signedUnits ≤ w.signedUnits := by
  simp only [le, place?, Place.le, decide_eq_true_eq]
  exact Int.mul_le_mul_right (Int.pow_pos (by decide))

lemma whole_same {m n : Int} : (whole m).same (whole n) = true ↔ m = n := by
  rw [same, Bool.and_eq_true, whole_le, whole_le]
  omega

lemma finite_same {v w : Floating binary64} :
    (real (.finite v)).same (real (.finite w)) = true ↔ v.signedUnits = w.signedUnits := by
  rw [same, Bool.and_eq_true, finite_le, finite_le]
  omega

end Number

lemma Signed.eq_of_same {bits : Nat} {a b : Signed bits} (same : (Number.whole a.val).same (.whole b.val) = true) :
    a = b := by
  obtain ⟨m, _, _⟩ := a
  obtain ⟨n, _, _⟩ := b
  obtain rfl : m = n := Number.whole_same.1 same
  rfl

namespace Floating

lemma eq_of_same {v w : Floating binary64} (nonzero : w.rank ≠ 0)
    (same : (Number.real (.finite v)).same (.real (.finite w)) = true) : v = w :=
  signedUnits_inj nonzero (Number.finite_same.1 same)

lemma eq_of_same_widen {v w : Floating binary32} (nonzero : w.rank ≠ 0)
    (same : (Number.real (.finite v.widen)).same (.real (.finite w.widen)) = true) : v = w := by
  have units := Number.finite_same.1 same
  rw [signedUnits_widen, signedUnits_widen] at units
  exact signedUnits_inj nonzero (Int.eq_of_mul_eq_mul_right (Int.pow_pos (by decide)).ne' units)

end Floating

end Numeric

namespace NumericType

/-! ### The words for the extremes -/

/-- A bound that compares equal to an extreme is that extreme. -/
lemma eq_of_same {t : NumericType} {b extreme : t.Bound} (outermost : extreme = t.lowest ∨ extreme = t.highest)
    (same : (t.number b).same (t.number extreme) = true) : b = extreme := by
  cases t with
  | integer => exact Signed.eq_of_same same
  | long => exact Signed.eq_of_same same
  | float =>
      refine Floating.eq_of_same_widen ?_ same
      rcases outermost with rfl | rfl
      · decide
      · decide
  | double =>
      refine Floating.eq_of_same ?_ same
      rcases outermost with rfl | rfl
      · decide
      · decide

/-! ### Bounds as text -/

variable {text : String}

/-- An integer in range reads back. -/
lemma readSigned_toString {bits : Nat} (few : bits ≤ Cause.digitLimit) (b : Signed bits) :
    readSigned bits (toString b.val) = .ok b := by
  have small : b.val.natAbs < 10 ^ Cause.digitLimit := by
    have lower := b.lower
    have upper := b.upper
    have cast : ((2 ^ (bits - 1) : Nat) : Int) = 2 ^ (bits - 1) := by push_cast; rfl
    rw [← cast] at lower upper
    calc b.val.natAbs ≤ 2 ^ (bits - 1) := by omega
      _ ≤ 2 ^ Cause.digitLimit := Nat.pow_le_pow_right (by decide) (by omega)
      _ < 10 ^ Cause.digitLimit := Nat.pow_lt_pow_left (by decide) (by decide)
  rw [readSigned, readInteger_toString small]
  simp only [Signed.ofInt?_eq_some_iff.2 rfl]

/-- A number of double precision reads back. -/
lemma readDouble_text (v : Floating binary64) : readDouble v.text = .ok v := by
  obtain ⟨d, read, nearest⟩ := exists_nearest?_of_text (by decide) .standard v
  have decimal : readDecimal v.text = .ok d := by
    rw [readDecimal, Floating.text, read]
  simp only [readDouble, decimal, nearest]

/-- A number of single precision reads back: it is written with as many digits as its double takes. -/
lemma readSingle_text (v : Floating binary32) : readSingle v.widen.text = .ok v := by
  rw [readSingle, readDouble_text]
  change v.widen.convert?.elim _ _ = _
  rw [Floating.convert?_widen, Option.elim_some]

/-- Neither word is a numeral. -/
lemma ne_words_of_literal {l : IntegerLiteral} (literal : IntegerLiteral.ofText? text = some l) :
    text ≠ lowestWord ∧ text ≠ highestWord := by
  constructor
  · rintro rfl
    cases literal
  · rintro rfl
    cases literal

lemma ne_words_toString (n : Int) : toString n ≠ lowestWord ∧ toString n ≠ highestWord := by
  obtain ⟨l, literal, -⟩ := IntegerLiteral.exists_ofText?_toString n
  exact ne_words_of_literal literal

lemma ne_words_of_readDouble {v : Floating binary64} (h : readDouble text = .ok v) :
    text ≠ lowestWord ∧ text ≠ highestWord := by
  constructor
  · rintro rfl
    cases h
  · rintro rfl
    cases h

/-- What is no word is read as a number. -/
lemma readBound_of_ne_words (t : NumericType) (words : text ≠ lowestWord ∧ text ≠ highestWord) :
    t.readBound text = match t with
      | integer => readSigned 32 text
      | long => readSigned 64 text
      | float => readSingle text
      | double => readDouble text := (if_neg words.1).trans (if_neg words.2)

/-- **A bound reads back from its parameter.** -/
theorem readBound_boundText (t : NumericType) (b : t.Bound) : t.readBound (t.boundText b) = .ok b := by
  rw [boundText, format]
  split
  · rename_i lowest
    rw [eq_of_same (.inl rfl) lowest]
    rfl
  split
  · rename_i highest
    rw [eq_of_same (.inr rfl) highest]
    rfl
  · cases t with
    | integer => exact (readBound_of_ne_words .integer (ne_words_toString _)).trans (readSigned_toString (by decide) b)
    | long => exact (readBound_of_ne_words .long (ne_words_toString _)).trans (readSigned_toString (by decide) b)
    | float =>
        have words := ne_words_of_readDouble (readDouble_text (Floating.widen b))
        exact (readBound_of_ne_words .float words).trans (readSingle_text b)
    | double =>
        have words := ne_words_of_readDouble (readDouble_text b)
        exact (readBound_of_ne_words .double words).trans (readDouble_text b)

/-! ### Bounds as values of fields -/

/-- An integer passes the check exactly if it is in range. -/
lemma signedBound?_whole_eq_ok_iff {bits : Nat} {n : Int} {b : Signed bits} :
    signedBound? bits (.whole n) = .ok b ↔ b.val = n := by
  rw [← Signed.ofInt?_eq_some_iff, signedBound?, Number.integer?]
  cases bound : (Signed.ofInt? n : Option (Signed bits)) <;> simp [bound]

/-- A number of single precision passes the check, and rounding it changes nothing. -/
lemma singleBound?_widen (v : Floating binary32) : singleBound? (.real (.finite v.widen)) = .ok v := by
  have order (u w : Floating binary32) :
      (Number.real (.finite u.widen)).le (.real (.finite w.widen)) = true ↔ u.signedUnits ≤ w.signedUnits := by
    rw [Number.finite_le, Floating.signedUnits_widen, Floating.signedUnits_widen]
    exact Int.mul_le_mul_right (Int.pow_pos (by decide))
  have above : (float.number float.lowest).le (.real (.finite v.widen)) = true :=
    (order _ v).2 v.signedUnits_mem_Icc.1
  have below : Number.le (.real (.finite v.widen)) (float.number float.highest) = true :=
    (order v _).2 v.signedUnits_mem_Icc.2
  have double : doubleBound? (.real (.finite v.widen)) = .ok v.widen := rfl
  simp only [singleBound?, double, above, below, Bool.not_true, Bool.false_eq_true, if_false]
  rw [roundedBound?, Floating.convert?_widen, Option.elim_some]

/-- **A bound passes the checks of its type**, and is not changed by them. -/
theorem bound?_number (t : NumericType) (b : t.Bound) : t.bound? (t.number b) = .ok b := by
  cases t with
  | integer => exact signedBound?_whole_eq_ok_iff.2 rfl
  | long => exact signedBound?_whole_eq_ok_iff.2 rfl
  | float => exact singleBound?_widen b
  | double => rfl

end NumericType

end CommandTree
