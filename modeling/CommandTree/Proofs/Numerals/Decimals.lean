import CommandTree.Proofs.Bounds.Reading
import CommandTree.Proofs.Rounding.Nearest
/-!
Decimals as they may be written, and what they stand for.

A decimal is a mantissa, perhaps behind a sign, and perhaps times a power of ten. It stands for a rational, and has a sign
even where it is zero. Nothing about it says how it is read.

* `Mantissa`, `Power` and `Decimal` are the texts with their values;
* `DecimalLiteral.value` is the exact value of a literal;
* `DecimalLiteral.decimal_iff`: **the decimals are read as literals of their values, and nothing else is read.**
-/

namespace CommandTree.Numeric

/-! ### The language -/

/-- Signs, and whether they are a minus. -/
inductive Sign : List Char → Bool → Prop
  | none : Sign [] false
  | plus : Sign ['+'] false
  | minus : Sign ['-'] true

/-- A run of digits, which may be empty, and its number. -/
structure IsRun (ds : List Char) (n : ℕ) : Prop where
  digits : AllDigits ds
  value : n = Nat.ofDigits 10 (ds.reverse.map fun c => c.toNat - '0'.toNat)

/-- Digits with at most one point behind, among or before them. -/
inductive Mantissa : List Char → ℚ → Prop
  | whole {ds : List Char} {n : ℕ} (some : ds ≠ []) (run : IsRun ds n) : Mantissa ds n
  | point {ds es : List Char} {m n : ℕ} (some : ds ≠ []) (run : IsRun ds m) (more : IsRun es n) :
      Mantissa (ds ++ '.' :: es) (m + n / 10 ^ es.length)
  | fraction {es : List Char} {n : ℕ} (some : es ≠ []) (run : IsRun es n) : Mantissa ('.' :: es) (n / 10 ^ es.length)

/-- A power of ten, which may be missing. -/
inductive Power : List Char → ℤ → Prop
  | none : Power [] 0
  | some {mark : Char} {sign ds : List Char} {negative : Bool} {n : ℕ} (letter : mark = 'e' ∨ mark = 'E')
      (isSign : Sign sign negative) (some : ds ≠ []) (run : IsRun ds n) :
      Power (mark :: (sign ++ ds)) (if negative then -n else n)

/-- The decimals as they may be written, with the sign that they have even where they are zero: digits with at most one
point, perhaps behind a sign, perhaps times a power of ten. -/
inductive Decimal : List Char → Bool → ℚ → Prop
  | intro {sign mantissa power : List Char} {negative : Bool} {m : ℚ} {e : ℤ} (isSign : Sign sign negative)
      (isMantissa : Mantissa mantissa m) (isPower : Power power e) :
      Decimal (sign ++ (mantissa ++ power)) negative (signed negative (m * 10 ^ e))

/-! ### Parts -/

variable {cs sign ds es : List Char} {negative : Bool} {n : ℕ} {e : ℤ} {m : ℚ}

lemma isRun_iff : IsRun ds n ↔ AllDigits ds ∧ n = digitsValue ds := by
  rw [digitsValue_eq_ofDigits]
  exact ⟨fun h => ⟨h.digits, h.value⟩, fun h => ⟨h.1, h.2⟩⟩

/-- What begins with no sign is left by splitting a sign off. -/
lemma splitSign_of_sign (isSign : Sign sign negative) (plain : ∀ c ∈ cs.head?, c ≠ '+' ∧ c ≠ '-') :
    splitSign (sign ++ cs) = (negative, cs) := by
  cases isSign with
  | plus => rfl
  | minus => rfl
  | none =>
      rcases splitSign_cases cs with ⟨ds, rfl, -⟩ | ⟨ds, rfl, -⟩ | whole
      · exact absurd rfl (plain '-' rfl).2
      · exact absurd rfl (plain '+' rfl).1
      · exact whole

/-- What is split off is a sign. -/
lemma exists_sign (split : splitSign cs = (negative, ds)) : ∃ sign, Sign sign negative ∧ cs = sign ++ ds := by
  rcases splitSign_cases cs with ⟨es, parts, split'⟩ | ⟨es, parts, split'⟩ | split'
  · obtain ⟨rfl, rfl⟩ := Prod.mk.inj (split.symm.trans split')
    exact ⟨_, .minus, parts⟩
  · obtain ⟨rfl, rfl⟩ := Prod.mk.inj (split.symm.trans split')
    exact ⟨_, .plus, parts⟩
  · obtain ⟨rfl, rfl⟩ := Prod.mk.inj (split.symm.trans split')
    exact ⟨_, .none, rfl⟩

lemma not_sign_of_isDigit {c : Char} (digit : c.isDigit = true) : c ≠ '+' ∧ c ≠ '-' := by
  constructor
  · rintro rfl
    cases digit
  · rintro rfl
    cases digit

lemma AllDigits.head (digits : AllDigits ds) : ∀ c ∈ ds.head?, c ≠ '+' ∧ c ≠ '-' := fun c first =>
  not_sign_of_isDigit (digits c (List.mem_of_mem_head? first))

/-- The powers of ten are read, and nothing else is. -/
lemma exponent?_eq_some_iff : DecimalLiteral.exponent? cs = some e ↔ Power cs e := by
  constructor
  · intro read
    cases cs with
    | nil =>
        cases read
        exact .none
    | cons mark cs =>
        cases parts : splitSign cs with
        | mk negative ds =>
            simp only [DecimalLiteral.exponent?, parts] at read
            split at read
            · rename_i good
              cases read
              obtain ⟨sign, isSign, rfl⟩ := exists_sign parts
              exact .some good.1 isSign good.2.1 (isRun_iff.2 ⟨List.all_eq_true.1 good.2.2, rfl⟩)
            · cases read
  · intro power
    cases power with
    | none => rfl
    | some letter isSign some run =>
        obtain ⟨digits, rfl⟩ := isRun_iff.1 run
        simp only [DecimalLiteral.exponent?, splitSign_of_sign isSign digits.head]
        rw [if_pos ⟨letter, some, digits.all⟩]

/-- A power of ten begins with no digit and no point. -/
lemma Power.head (power : Power cs e) : ∀ c ∈ cs.head?, c.isDigit = false ∧ c ≠ '.' := by
  cases power with
  | none => exact nofun
  | some letter _ _ _ =>
      rintro c ⟨⟩
      rcases letter with rfl | rfl
      · exact ⟨rfl, by decide⟩
      · exact ⟨rfl, by decide⟩

/-- A mantissa is digits, and perhaps a point and more digits. -/
lemma mantissa_iff : Mantissa cs m ↔ ∃ whole fraction, (cs = whole ∧ fraction = [] ∨ cs = whole ++ '.' :: fraction) ∧
    AllDigits whole ∧ AllDigits fraction ∧ ¬ (whole = [] ∧ fraction = []) ∧
      m = digitsValue (whole ++ fraction) / 10 ^ fraction.length := by
  have nothing : AllDigits [] := fun _ no => nomatch no
  have value (ds es : List Char) : (digitsValue (ds ++ es) / 10 ^ es.length : ℚ) =
      digitsValue ds + digitsValue es / 10 ^ es.length := by
    have ten : (10 : ℚ) ^ es.length ≠ 0 := by positivity
    rw [digitsValue_append]
    push_cast
    field_simp
  constructor
  · intro mantissa
    cases mantissa with
    | whole some run =>
        obtain ⟨digits, rfl⟩ := isRun_iff.1 run
        exact ⟨_, [], .inl ⟨rfl, rfl⟩, digits, nothing, fun h => some h.1, by simp⟩
    | point some run more =>
        obtain ⟨digits, rfl⟩ := isRun_iff.1 run
        obtain ⟨digits', rfl⟩ := isRun_iff.1 more
        exact ⟨_, _, .inr rfl, digits, digits', fun h => some h.1, (value _ _).symm⟩
    | fraction some run =>
        obtain ⟨digits, rfl⟩ := isRun_iff.1 run
        exact ⟨[], _, .inr rfl, nothing, digits, fun h => some h.2, rfl⟩
  · rintro ⟨whole, fraction, ⟨rfl, rfl⟩ | rfl, digits, digits', some, rfl⟩
    · rw [List.append_nil, List.length_nil, pow_zero, div_one]
      exact .whole (fun none => some ⟨none, rfl⟩) (isRun_iff.2 ⟨digits, rfl⟩)
    · cases whole with
      | nil => exact .fraction (fun none => some ⟨rfl, none⟩) (isRun_iff.2 ⟨digits', rfl⟩)
      | cons d ds =>
          rw [value]
          exact .point (List.cons_ne_nil d ds) (isRun_iff.2 ⟨digits, rfl⟩) (isRun_iff.2 ⟨digits', rfl⟩)

/-! ### Literals -/

namespace DecimalLiteral

/-- The exact value of a literal. -/
def value (d : DecimalLiteral) : ℚ := signed d.negative (d.coefficient * 10 ^ d.exponent)

/-- The magnitude is a quotient of natural numbers. -/
lemma numerator_div_denominator (d : DecimalLiteral) :
    (d.numerator / d.denominator : ℚ) = d.coefficient * 10 ^ d.exponent := by
  rw [numerator, denominator]
  push_cast
  rcases le_total 0 d.exponent with nonneg | nonpos
  · obtain ⟨k, hk⟩ := Int.eq_ofNat_of_zero_le nonneg
    simp [hk]
  · obtain ⟨k, hk⟩ := Int.eq_ofNat_of_zero_le (Int.neg_nonneg_of_nonpos nonpos)
    obtain rfl' : d.exponent = -k := by omega
    simp [rfl', div_eq_mul_inv]

lemma value_eq (d : DecimalLiteral) : d.value = signed d.negative (d.numerator / d.denominator) := by
  rw [value, d.numerator_div_denominator]

lemma abs_value (d : DecimalLiteral) : |d.value| = d.numerator / d.denominator := by
  rw [d.value_eq, abs_signed (div_nonneg (Nat.cast_nonneg _) (Nat.cast_nonneg _))]

/-- Splits a point and the digits behind it off. -/
def splitFraction : List Char → List Char × List Char
  | '.' :: more => splitDigits more
  | rest => ([], rest)

lemma splitFraction_of_head (plain : ∀ c ∈ cs.head?, c ≠ '.') : splitFraction cs = ([], cs) := by
  rw [splitFraction.eq_def]
  split
  · exact absurd rfl (plain '.' rfl)
  · rfl

/-- What is split off is a point with digits, or nothing. -/
lemma exists_fraction (split : splitFraction cs = (es, ds)) :
    AllDigits es ∧ (cs = ds ∧ es = [] ∨ cs = '.' :: (es ++ ds)) := by
  rw [splitFraction.eq_def] at split
  split at split
  · rename_i more
    have digits : AllDigits (splitDigits more).1 := fun c mem => List.mem_takeWhile_imp mem
    have whole := splitDigits_append more
    rw [split] at digits whole
    exact ⟨digits, .inr (congrArg ('.' :: ·) whole.symm)⟩
  · obtain ⟨rfl, rfl⟩ := Prod.mk.inj split
    exact ⟨(fun _ no => nomatch no), .inl ⟨rfl, rfl⟩⟩

variable {text : String} {d : DecimalLiteral} {r : ℚ}

/-- A literal is read from its sign, its digits, its point with more digits, and its power of ten. -/
lemma ofText?_of_splits {body whole rest fraction power : List Char} (signed : splitSign text.toList = (negative, body))
    (front : splitDigits body = (whole, rest)) (back : splitFraction rest = (fraction, power)) :
    ofText? text = if whole = [] ∧ fraction = [] then none else (exponent? power).map fun exponent =>
      ⟨negative, digitsValue (whole ++ fraction), exponent - fraction.length⟩ := by
  simp only [ofText?, signed, front]
  rw [splitFraction.eq_def] at back
  split at back
  · simp only [back]
  · rename_i plain
    obtain ⟨rfl, rfl⟩ := Prod.mk.inj back
    simp only

/-- The value of a literal that was put together from its digits. -/
lemma value_mk (negative : Bool) (digits : List Char) (count : ℕ) (e : ℤ) :
    (⟨negative, digitsValue digits, e - count⟩ : DecimalLiteral).value =
      signed negative (digitsValue digits / 10 ^ count * 10 ^ e) := by
  rw [value]
  simp only
  rw [zpow_sub₀ (by norm_num), zpow_natCast]
  congr 1
  ring

/-- A literal is read by its parts. -/
lemma ofText?_of_parts {whole fraction mantissa power : List Char} (isSign : Sign sign negative)
    (shape : mantissa = whole ∧ fraction = [] ∨ mantissa = whole ++ '.' :: fraction) (digits : AllDigits whole)
    (digits' : AllDigits fraction) (some : ¬ (whole = [] ∧ fraction = [])) (isPower : Power power e)
    (parts : text.toList = sign ++ (mantissa ++ power)) :
    ofText? text = .some ⟨negative, digitsValue (whole ++ fraction), e - fraction.length⟩ := by
  have ends : ∀ c ∈ power.head?, c.isDigit = false := fun c hc => (isPower.head c hc).1
  have plain : ∀ c ∈ (mantissa ++ power).head?, c ≠ '+' ∧ c ≠ '-' := by
    cases whole with
    | cons d ds =>
        have first := not_sign_of_isDigit (digits d List.mem_cons_self)
        rcases shape with ⟨rfl, -⟩ | rfl
        · rintro c ⟨⟩
          exact first
        · rintro c ⟨⟩
          exact first
    | nil =>
        rcases shape with ⟨rfl, rfl⟩ | rfl
        · exact absurd ⟨rfl, rfl⟩ some
        · rintro c ⟨⟩
          decide
  have signed := parts ▸ splitSign_of_sign isSign plain
  have read := exponent?_eq_some_iff.2 isPower
  rcases shape with ⟨rfl, rfl⟩ | rfl
  · have none := splitFraction_of_head fun c hc => (isPower.head c hc).2
    rw [ofText?_of_splits signed (splitDigits_append_of_head digits ends) none, if_neg some, read, Option.map_some]
  · have point : ∀ c ∈ ('.' :: (fraction ++ power)).head?, c.isDigit = false := by
      rintro c ⟨⟩
      rfl
    rw [List.append_assoc, List.cons_append] at signed
    rw [ofText?_of_splits signed (splitDigits_append_of_head digits point) (splitDigits_append_of_head digits' ends),
      if_neg some, read, Option.map_some]

/-- What is read has such parts. -/
lemma exists_parts (read : ofText? text = .some d) : ∃ sign whole fraction mantissa power e, Sign sign d.negative ∧
    (mantissa = whole ∧ fraction = [] ∨ mantissa = whole ++ '.' :: fraction) ∧ AllDigits whole ∧ AllDigits fraction ∧
    ¬ (whole = [] ∧ fraction = []) ∧ Power power e ∧ text.toList = sign ++ (mantissa ++ power) ∧
    d = ⟨d.negative, digitsValue (whole ++ fraction), e - fraction.length⟩ := by
  obtain ⟨negative, body, signed⟩ : ∃ negative body, splitSign text.toList = (negative, body) := ⟨_, _, rfl⟩
  obtain ⟨whole, rest, front⟩ : ∃ whole rest, splitDigits body = (whole, rest) := ⟨_, _, rfl⟩
  obtain ⟨fraction, power, back⟩ : ∃ fraction power, splitFraction rest = (fraction, power) := ⟨_, _, rfl⟩
  obtain ⟨sign, isSign, parts⟩ := exists_sign signed
  have digits : AllDigits (splitDigits body).1 := fun c mem => List.mem_takeWhile_imp mem
  have split := splitDigits_append body
  rw [front] at digits split
  obtain ⟨digits', shape⟩ := exists_fraction back
  rw [ofText?_of_splits signed front back] at read
  split at read
  · cases read
  · rename_i some
    obtain ⟨e, isPower, rfl⟩ := Option.map_eq_some_iff.1 read
    rw [exponent?_eq_some_iff] at isPower
    rcases shape with ⟨rfl, rfl⟩ | rfl
    · exact ⟨sign, whole, [], whole, rest, e, isSign, .inl ⟨rfl, rfl⟩, digits, digits', some, isPower,
        parts.trans (congrArg _ split.symm), rfl⟩
    · refine ⟨sign, whole, fraction, _, power, e, isSign, .inr rfl, digits, digits', some, isPower, ?_, rfl⟩
      rw [parts, ← split, List.append_assoc, List.cons_append]

/-- **The decimals are read, and nothing else is.** -/
theorem decimal_iff : Decimal text.toList negative r ↔ ∃ d, ofText? text = some d ∧ d.negative = negative ∧ d.value = r := by
  constructor
  · intro written
    generalize parts : text.toList = cs at written
    cases written with
    | intro isSign isMantissa isPower =>
        obtain ⟨whole, fraction, shape, digits, digits', some, rfl⟩ := mantissa_iff.1 isMantissa
        exact ⟨_, ofText?_of_parts isSign shape digits digits' some isPower parts, rfl, value_mk _ _ _ _⟩
  · rintro ⟨d, read, rfl, rfl⟩
    obtain ⟨sign, whole, fraction, mantissa, power, e, isSign, shape, digits, digits', some, isPower, parts, made⟩ :=
      exists_parts read
    rw [parts, made, value_mk]
    exact .intro isSign (mantissa_iff.2 ⟨whole, fraction, shape, digits, digits', some, rfl⟩) isPower

end DecimalLiteral

end CommandTree.Numeric
