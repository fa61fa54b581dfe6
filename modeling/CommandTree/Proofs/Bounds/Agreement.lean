import CommandTree.Proofs.Bounds.Reading
/-!
Bounds that are given and bounds that are read.

A bound reaches a type as a value or as its text. Both ways check its range, and both round it where the type is of single
precision, but in another order: a value has to be in range before it is rounded, and a text only afterwards.

* `Floating.IsPastSingle`: a number is greater in magnitude than any of single precision, and yet rounded to one of them;
* `NumericType.Admits` are the values of a numeric type, and `NumericType.bound?_iff_readBound` says of all but these numbers
  that the value and its text make the same bound, or none;
* `ArgumentType.ofBounds?_iff_resolve`: **a type that is made and a type that is read agree exactly on all other values.**
-/

namespace CommandTree

open Numeric

-- Powers are taken with the core instance, as in the definitions.
attribute [local instance (high)] instPowNat

/-! ### Rounding to single precision -/

namespace Numeric.Floating

variable {x : Floating binary64}

/-- A number is greater in magnitude than any of single precision, but not up to the middle between the greatest of these
and the power of two behind it. -/
def IsPastSingle (x : Floating binary64) : Prop :=
  (2 ^ 128 - 2 ^ 104) * 2 ^ binary64.scale < x.magnitude ∧ x.magnitude < (2 ^ 128 - 2 ^ 103) * 2 ^ binary64.scale

/-- A number past single precision. -/
def pastSingle : Floating binary64 := ⟨false, 5183643170655547384, by decide⟩

/-- The middle itself, as a number of double precision. -/
def singleMiddle : Floating binary64 := ⟨false, 5183643170835005440, by decide⟩

lemma units_greatest : binary32.units (binary32.count - 1) = (2 ^ 128 - 2 ^ 104) * 2 ^ binary32.scale :=
  binary32.units_add (s := 253) (n := 2 ^ 24 - 1) (.inr (by decide)) (by decide)

lemma units_count : binary32.units binary32.count = 2 ^ 128 * 2 ^ binary32.scale := by
  have rank : binary32.count = 254 * binary32.block + 2 ^ 23 := rfl
  have power : 2 ^ 254 = 2 ^ 105 * 2 ^ binary32.scale := rfl
  have front : 2 ^ 23 * 2 ^ 105 = 2 ^ 128 := rfl
  rw [rank, binary32.units_add (.inr (by decide)) (by decide), power, ← Nat.mul_assoc, front]

/-- No number of single precision is nearest from the middle between the greatest one and the power of two behind it on. -/
lemma count_le_rankOfRatio_iff (m : Nat) :
    binary32.count ≤ binary32.rankOfRatio m (2 ^ binary64.scale) ↔ (2 ^ 128 - 2 ^ 103) * 2 ^ binary64.scale ≤ m := by
  have even : ¬ binary32.count % 2 = 1 := by decide
  have last : (2 ^ 128 - 2 ^ 104) + 2 ^ 128 = (2 ^ 128 - 2 ^ 103) * 2 := rfl
  rw [binary32.le_rankOfRatio_iff (Nat.two_pow_pos _) (by decide) binary32.count_pos, units_greatest, units_count,
    ← Nat.add_mul, last]
  generalize 2 ^ binary64.scale = unit
  generalize 2 ^ 128 - 2 ^ 103 = middle
  have pos : 0 < 2 * 2 ^ binary32.scale := by decide
  have left : middle * 2 * 2 ^ binary32.scale * unit = middle * unit * (2 * 2 ^ binary32.scale) := by ring
  have right : 2 * (m * 2 ^ binary32.scale) = m * (2 * 2 ^ binary32.scale) := by ring
  rw [left, right, Nat.mul_le_mul_right_iff pos]
  exact and_iff_left fun odd => absurd odd even

/-- A number is rounded to one of single precision up to that middle. -/
lemma convert?_eq_none_iff :
    (x.convert? : Option (Floating binary32)) = none ↔ (2 ^ 128 - 2 ^ 103) * 2 ^ binary64.scale ≤ x.magnitude := by
  rw [← count_le_rankOfRatio_iff, convert?, ofRatio?]
  simp

/-- A number past single precision is rounded to the greatest magnitude there is. -/
lemma convert?_of_isPastSingle (past : x.IsPastSingle) :
    x.convert? = some (if x.negative then lowest else highest : Floating binary32) := by
  obtain ⟨above, below⟩ := past
  have inside : binary32.rankOfRatio x.magnitude (2 ^ binary64.scale) < binary32.count := by
    rw [← Nat.not_le, count_le_rankOfRatio_iff, Nat.not_le]
    exact below
  have less : binary32.units (binary32.count - 1 - 1) < binary32.units (binary32.count - 1) :=
    binary32.units_strictMono (by decide)
  have beyond : (binary32.units (binary32.count - 1 - 1) + binary32.units (binary32.count - 1)) * 2 ^ binary64.scale <
      2 * (x.magnitude * 2 ^ binary32.scale) := by
    have pos : 0 < 2 ^ binary64.scale := Nat.two_pow_pos _
    rw [units_greatest] at less ⊢
    generalize 2 ^ 128 - 2 ^ 104 = greatest at above less ⊢
    generalize 2 ^ binary64.scale = unit at above pos ⊢
    calc _ < (greatest * 2 ^ binary32.scale + greatest * 2 ^ binary32.scale) * unit :=
          Nat.mul_lt_mul_of_pos_right (Nat.add_lt_add_right less _) pos
      _ = 2 * (greatest * unit * 2 ^ binary32.scale) := by ring
      _ ≤ 2 * (x.magnitude * 2 ^ binary32.scale) := Nat.mul_le_mul_left 2 (Nat.mul_le_mul_right _ above.le)
  have last : binary32.count - 1 ≤ binary32.rankOfRatio x.magnitude (2 ^ binary64.scale) :=
    (binary32.le_rankOfRatio_iff (Nat.two_pow_pos _) (by decide) (by decide)).2 ⟨beyond.le, fun _ => beyond⟩
  have rank : binary32.rankOfRatio x.magnitude (2 ^ binary64.scale) = binary32.count - 1 :=
    Nat.le_antisymm (Nat.le_sub_one_of_lt inside) last
  rw [convert?, ofRatio?_of_rank x.negative rank (Nat.sub_lt binary32.count_pos Nat.one_pos)]
  cases x.negative with
  | false => rfl
  | true => rfl

/-! ### The range of single precision -/

/-- The extremes of single precision as numbers of double precision. -/
lemma signedUnits_widen_extreme : (highest : Floating binary32).widen.signedUnits =
    ((2 ^ 128 - 2 ^ 104) * 2 ^ binary64.scale : Nat) ∧ (lowest : Floating binary32).widen.signedUnits =
    -((2 ^ 128 - 2 ^ 104) * 2 ^ binary64.scale : Nat) := by
  have scales : 2 ^ binary32.scale * 2 ^ (binary64.scale - binary32.scale) = 2 ^ binary64.scale := by
    rw [← Nat.pow_add]
    exact congrArg (2 ^ ·) (by decide)
  have highest' : (highest : Floating binary32).signedUnits = (binary32.units (binary32.count - 1) : Int) := rfl
  have lowest' : (lowest : Floating binary32).signedUnits = -(binary32.units (binary32.count - 1) : Int) := rfl
  rw [signedUnits_widen, signedUnits_widen, highest', lowest', units_greatest, ← scales, ← Nat.mul_assoc]
  push_cast
  exact ⟨rfl, Int.neg_mul _ _⟩

end Numeric.Floating

namespace NumericType

variable {x : Floating binary64} {w : Floating binary32}

/-- A number in range for single precision is rounded, and others are too small or too large. -/
lemma singleBound?_finite (x : Floating binary64) : singleBound? (.real (.finite x)) =
    if x.magnitude ≤ (2 ^ 128 - 2 ^ 104) * 2 ^ binary64.scale then roundedBound? x
    else .error (if x.negative then .tooSmall else .tooLarge) := by
  have double : doubleBound? (.real (.finite x)) = .ok x := rfl
  obtain ⟨greatest, least⟩ := Floating.signedUnits_widen_extreme
  generalize (2 ^ 128 - 2 ^ 104) * 2 ^ binary64.scale = limit at greatest least ⊢
  have below : (float.number float.lowest).le (.real (.finite x)) = true ↔ -(limit : Int) ≤ x.signedUnits := by
    rw [← least]
    exact Number.finite_le
  have above : Number.le (.real (.finite x)) (float.number float.highest) = true ↔ x.signedUnits ≤ limit := by
    rw [← greatest]
    exact Number.finite_le
  simp only [singleBound?, double, Bool.not_eq_true', ← Bool.not_eq_true, below, above]
  rw [Floating.signedUnits]
  by_cases inside : x.magnitude ≤ limit
  · rw [if_pos inside, if_neg (by split <;> omega), if_neg (by split <;> omega)]
  · rw [if_neg inside]
    cases x.negative with
    | true => exact if_pos (by simp only [if_true]; omega)
    | false =>
        simp only [Bool.false_eq_true, if_false]
        rw [if_neg (by omega), if_pos (by omega)]

/-- A number is refused, or rounded, after its range is checked. -/
lemma roundedBound?_eq_ok_iff : roundedBound? x = .ok w ↔ x.convert? = some w := by
  rw [roundedBound?]
  generalize (x.convert? : Option (Floating binary32)) = converted
  cases converted <;> simp

lemma narrow_eq_ok_iff : narrow x = .ok w ↔ x.convert? = some w := by
  rw [narrow]
  generalize (x.convert? : Option (Floating binary32)) = converted
  cases converted <;> simp

/-- The text of a number is read as what the number is rounded to. -/
lemma readSingle_text_eq_ok_iff : readSingle x.text = .ok w ↔ x.convert? = some w := by
  rw [readSingle, readDouble_text, narrow_eq_ok_iff]

/-! ### Values and their texts -/

variable {bits : Nat} {n : Int}

/-- An integer that is read from the text of one is that one, however many digits it has. -/
lemma readSigned_toString_eq_ok_iff (few : bits ≤ Cause.digitLimit) {b : Signed bits} :
    readSigned bits (toString n) = .ok b ↔ b.val = n := by
  constructor
  · intro read
    rw [readSigned] at read
    split at read
    · cases read
    · rename_i m converted
      obtain rfl := eq_of_readInteger_toString converted
      split at read
      · rename_i found
        cases read
        exact Signed.ofInt?_eq_some_iff.1 found
      · cases read
  · rintro rfl
    exact readSigned_toString few b

/-- The values of a numeric type: integers, or finite numbers of double precision. -/
inductive Admits : NumericType → Number → Prop
  | integer (n : Int) : Admits .integer (.whole n)
  | long (n : Int) : Admits .long (.whole n)
  | float (x : Floating binary64) : Admits .float (.real (.finite x))
  | double (x : Floating binary64) : Admits .double (.real (.finite x))

/-- The values that are too large for their type before they are rounded, and not afterwards. -/
inductive Parts : NumericType → Number → Prop
  | float {x : Floating binary64} (past : x.IsPastSingle) : Parts .float (.real (.finite x))

/-- **A value and its text make the same bound, or none**, but for the values that are too large only before they are
rounded. -/
theorem bound?_iff_readBound {t : NumericType} {v : Number} (admits : t.Admits v) (together : ¬ t.Parts v) (b : t.Bound) :
    t.bound? v = .ok b ↔ t.readBound v.text = .ok b := by
  cases admits with
  | integer n =>
      have read := readBound_of_ne_words .integer (ne_words_toString n)
      rw [Number.text, read]
      exact signedBound?_whole_eq_ok_iff.trans (readSigned_toString_eq_ok_iff (by decide)).symm
  | long n =>
      have read := readBound_of_ne_words .long (ne_words_toString n)
      rw [Number.text, read]
      exact signedBound?_whole_eq_ok_iff.trans (readSigned_toString_eq_ok_iff (by decide)).symm
  | float x =>
      have read := readBound_of_ne_words .float (ne_words_of_readDouble (readDouble_text x))
      rw [Number.text, Double.text, read]
      refine Iff.trans ?_ readSingle_text_eq_ok_iff.symm
      change singleBound? (.real (.finite x)) = .ok b ↔ _
      rw [singleBound?_finite]
      split
      · exact roundedBound?_eq_ok_iff
      · rename_i outside
        have none : x.convert? = (Option.none : Option (Floating binary32)) :=
          Floating.convert?_eq_none_iff.2 (Nat.le_of_not_lt fun below => together (.float ⟨Nat.lt_of_not_le outside, below⟩))
        rw [none]
        exact ⟨nofun, nofun⟩
  | double x =>
      have made : double.bound? (.real (.finite x)) = .ok x := rfl
      have read : double.readBound x.text = .ok x :=
        (readBound_of_ne_words .double (ne_words_of_readDouble (readDouble_text x))).trans (readDouble_text x)
      constructor
      · intro same
        exact read.trans (congrArg Except.ok (Except.ok.inj (made.symm.trans same)))
      · intro same
        exact made.trans (congrArg Except.ok (Except.ok.inj (read.symm.trans same)))

/-- The other values are refused, and their texts are read as the extreme of their sign. -/
lemma bound?_of_isPastSingle {x : Floating binary64} (past : x.IsPastSingle) :
    float.bound? (.real (.finite x)) = .error (if x.negative then .tooSmall else .tooLarge) ∧
      float.readBound x.text = .ok (if x.negative then float.lowest else float.highest) := by
  constructor
  · exact (singleBound?_finite x).trans (if_neg (Nat.not_le.2 past.1))
  · rw [readBound_of_ne_words .float (ne_words_of_readDouble (readDouble_text x))]
    exact readSingle_text_eq_ok_iff.2 (Floating.convert?_of_isPastSingle past)

end NumericType

/-! ### Types that are made and types that are read -/

variable {t : NumericType} {v : Number} {text : String} {next : Token} {rest : List Token} {q : TokenStream}

/-- In front of one string a numeric type is read exactly if the string is read as its least value. -/
lemma NumericType.exists_resolve_eq_ok_iff (yields : q.Yields (.string text :: next :: rest) none)
    (other : next.isString = false) (type : ArgumentType) :
    (∃ q', Primitive.resolver.resolve ArgumentType.builtinSpace t.name q = .ok type q') ↔
      ∃ a, t.readBound text = .ok a ∧ type = .numeric t a t.highest := by
  have resolves : t.Resolves [text] (next :: rest) _ := resolves_of_yields t yields other
  generalize Primitive.resolver.resolve ArgumentType.builtinSpace t.name q = r at resolves ⊢
  cases resolves with
  | ok parameters _ =>
      cases parameters with
      | lower first =>
          constructor
          · rintro ⟨_, ⟨⟩⟩
            exact ⟨_, first, rfl⟩
          · rintro ⟨a, read, rfl⟩
            cases first.symm.trans read
            exact ⟨_, rfl⟩
  | @refused before after x _ _ split _ bad =>
      have member : x ∈ [text].take 2 := by
        rw [split]
        exact List.mem_append_right _ List.mem_cons_self
      obtain rfl : x = text := List.mem_singleton.1 member
      constructor
      · rintro ⟨_, ⟨⟩⟩
      · rintro ⟨a, read, -⟩
        cases bad.symm.trans read

/-- A numeric type is made from its least value exactly if that value makes a bound. -/
lemma ArgumentType.ofBounds?_eq_ok_iff {type : ArgumentType} :
    ofBounds? t (some v) none = .ok type ↔ ∃ a, t.bound? v = .ok a ∧ type = .numeric t a t.highest := by
  have made : t.boundOr? t.lowest (some v) = t.bound? v := rfl
  have missing : t.boundOr? t.highest none = .ok t.highest := rfl
  rw [ofBounds?, made, missing]
  cases t.bound? v with
  | ok a => simp [eq_comm]
  | error r => simp

/-- A value past single precision is refused in the making, and its text is read as the extreme of its sign. -/
lemma ArgumentType.ofBounds?_of_isPastSingle {x : Floating binary64} (past : x.IsPastSingle)
    (yields : q.Yields (.string x.text :: next :: rest) none) (other : next.isString = false) :
    ofBounds? .float (some (.real (.finite x))) none =
        .error [⟨["minimum"], if x.negative then .tooSmall else .tooLarge⟩] ∧
      ∃ q', Primitive.resolver.resolve builtinSpace NumericType.float.name q = .ok (.numeric .float
        (if x.negative then NumericType.float.lowest else NumericType.float.highest) NumericType.float.highest) q' := by
  obtain ⟨refused, read⟩ := NumericType.bound?_of_isPastSingle past
  have made : NumericType.float.boundOr? NumericType.float.lowest (some (.real (.finite x))) = _ := refused
  have missing : NumericType.float.boundOr? NumericType.float.highest none = .ok NumericType.float.highest := rfl
  refine ⟨?_, (NumericType.exists_resolve_eq_ok_iff yields other _).2 ⟨_, read, rfl⟩⟩
  rw [ofBounds?, made, missing]

/-- **A type that is made and a type that is read agree exactly on the values that do not part them.** For these, a numeric
type is made from the value as its least one if and only if it is read behind its reference from the text of the value, and
it is the same type. A value on which they part is refused in the making, as too small or too large, and its text is read
as the extreme of its sign. -/
theorem ArgumentType.ofBounds?_iff_resolve (admits : t.Admits v) (yields : q.Yields (.string v.text :: next :: rest) none)
    (other : next.isString = false) :
    ((∀ type, ofBounds? t (some v) none = .ok type ↔ ∃ q', Primitive.resolver.resolve builtinSpace t.name q = .ok type q') ↔
      ¬ t.Parts v) ∧
    ∀ x, v = .real (.finite x) → t.Parts v →
      ofBounds? t (some v) none = .error [⟨["minimum"], if x.negative then .tooSmall else .tooLarge⟩] ∧
      ∃ q', Primitive.resolver.resolve builtinSpace t.name q =
        .ok (.numeric t (if x.negative then t.lowest else t.highest) t.highest) q' := by
  refine ⟨⟨fun agree parts => ?_, fun together type => ?_⟩, ?_⟩
  · obtain ⟨past⟩ := parts
    obtain ⟨refused, resolved⟩ := ofBounds?_of_isPastSingle past yields other
    cases refused.symm.trans ((agree _).2 resolved)
  · rw [ofBounds?_eq_ok_iff, NumericType.exists_resolve_eq_ok_iff yields other]
    simp only [NumericType.bound?_iff_readBound admits together]
  · rintro x rfl ⟨past⟩
    exact ofBounds?_of_isPastSingle past yields other

/-- The middle between the greatest number of single precision and the power of two behind it, to which no number of single
precision is nearest any more, is too large both as a value and as its text. -/
theorem ArgumentType.ofBounds?_iff_resolve_middle : ∃ q : TokenStream,
    Floating.singleMiddle.text = "3.4028235677973366e+38" ∧
    NumericType.float.Admits (.real (.finite Floating.singleMiddle)) ∧
    q.Yields [.string Floating.singleMiddle.text, .statementEnd, .endOfInput] none ∧ Token.statementEnd.isString = false ∧
    ∀ type, ofBounds? .float (some (.real (.finite Floating.singleMiddle))) none = .ok type ↔
      ∃ q', Primitive.resolver.resolve builtinSpace NumericType.float.name q = .ok type q' := by
  have text : Floating.singleMiddle.text = "3.4028235677973366e+38" := by decide +kernel
  have ordinary : .endOfInput ∉ [Token.string Floating.singleMiddle.text, .statementEnd] := nofun
  have yields := (Lexer.before_ofChars _).yields_of_lexes (Lexicon.lexes_intercalate ordinary)
  have together : ¬ NumericType.float.Parts (.real (.finite Floating.singleMiddle)) := by
    rintro ⟨past⟩
    exact absurd past.2 (by decide +kernel)
  have agree := (ofBounds?_iff_resolve (.float Floating.singleMiddle) yields rfl).1.2 together
  exact ⟨_, text, .float _, yields, rfl, agree⟩

/-- The greatest number of single precision in its usual rounded spelling is past single precision: as a value it is refused,
and its text is read. -/
theorem ArgumentType.ofBounds?_resolve_apart : ∃ q : TokenStream, Floating.pastSingle.text = "3.4028235e+38" ∧
    NumericType.float.Admits (.real (.finite Floating.pastSingle)) ∧
    q.Yields [.string Floating.pastSingle.text, .statementEnd, .endOfInput] none ∧ Token.statementEnd.isString = false ∧
    ¬ ∀ type, ofBounds? .float (some (.real (.finite Floating.pastSingle))) none = .ok type ↔
      ∃ q', Primitive.resolver.resolve builtinSpace NumericType.float.name q = .ok type q' := by
  have text : Floating.pastSingle.text = "3.4028235e+38" := by decide +kernel
  have ordinary : .endOfInput ∉ [Token.string Floating.pastSingle.text, .statementEnd] := nofun
  have yields := (Lexer.before_ofChars _).yields_of_lexes (Lexicon.lexes_intercalate ordinary)
  have past : Floating.pastSingle.IsPastSingle := ⟨by decide +kernel, by decide +kernel⟩
  obtain ⟨refused, resolved⟩ := ofBounds?_of_isPastSingle past yields rfl
  refine ⟨_, text, .float _, yields, rfl, fun agree => ?_⟩
  cases refused.symm.trans ((agree _).2 resolved)

end CommandTree
