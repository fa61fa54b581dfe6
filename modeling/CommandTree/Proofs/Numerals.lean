import CommandTree.Proofs.Rounding
/-!
Numerals that read back as the numbers they were written for.

* `readInteger_toString`: integers of not too many digits read back;
* `NumberLayout.exists_ofText?_text`: a decimal reads back in either layout, perhaps with a zero behind the point
  (`DecimalLiteral.IsDecimal`);
* `BinaryFormat.rankOfRatio_shortest`: the shortest decimal of a number rounds to it;
* `exists_nearest?_of_text`, for both together: the text of a number is a literal, and the number is nearest to it.
-/

namespace CommandTree.Numeric

/-! ### Digits -/

/-- Characters that are all digits. -/
def AllDigits (cs : List Char) : Prop := ∀ c ∈ cs, c.isDigit = true

lemma allDigits_toDigits (n : Nat) : AllDigits (Nat.toDigits 10 n) := fun _ hc =>
  Nat.isDigit_of_mem_toDigits (by decide) (by decide) hc

lemma allDigits_zeros (k : Nat) : AllDigits (List.replicate k '0') := fun c hc => by
  rw [List.eq_of_mem_replicate hc]
  rfl

lemma AllDigits.append {cs ds : List Char} (hc : AllDigits cs) (hd : AllDigits ds) : AllDigits (cs ++ ds) :=
  List.forall_mem_append.2 ⟨hc, hd⟩

lemma AllDigits.all {cs : List Char} (h : AllDigits cs) : cs.all Char.isDigit = true := List.all_eq_true.2 h

lemma digitsValue_toDigits (n : Nat) : digitsValue (Nat.toDigits 10 n) = n := Nat.ofDigitChars_ten_toDigits

lemma digitsValue_append (cs ds : List Char) :
    digitsValue (cs ++ ds) = 10 ^ ds.length * digitsValue cs + digitsValue ds := by
  have split : digitsValue (cs ++ ds) = Nat.ofDigitChars 10 ds (digitsValue cs) := Nat.ofDigitChars_append 0
  rw [split, Nat.ofDigitChars_eq_ofDigitChars_zero]
  rfl

lemma digitsValue_zeros (k : Nat) : digitsValue (List.replicate k '0') = 0 := by
  have zeros : digitsValue (List.replicate k '0') = 10 ^ k * 0 := Nat.ofDigitChars_replicate_zero
  rw [zeros, Nat.mul_zero]

/-- Zeros in front change no value. -/
lemma digitsValue_zeros_append (k : Nat) (cs : List Char) :
    digitsValue (List.replicate k '0' ++ cs) = digitsValue cs := by
  rw [digitsValue_append, digitsValue_zeros, Nat.mul_zero, Nat.zero_add]

/-- Zeros behind multiply by a power of ten. -/
lemma digitsValue_append_zeros (k : Nat) (cs : List Char) :
    digitsValue (cs ++ List.replicate k '0') = digitsValue cs * 10 ^ k := by
  rw [digitsValue_append, digitsValue_zeros, List.length_replicate, Nat.add_zero, Nat.mul_comm]

/-- What is split off as a sign wherever digits follow. -/
def IsSign (sign : List Char) (negative : Bool) : Prop :=
  ∀ c cs, c.isDigit = true → splitSign (sign ++ c :: cs) = (negative, c :: cs)

lemma isSign_minus : IsSign ['-'] true := fun _ _ _ => rfl

lemma isSign_nil : IsSign [] false := by
  intro c cs digit
  rw [List.nil_append]
  unfold splitSign
  split
  · rename_i same
    cases same
    cases digit
  · rename_i same
    cases same
    cases digit
  · rfl

lemma isSign_plus : IsSign ['+'] false := fun _ _ _ => rfl

/-- A sign is split off, if there is one. -/
lemma splitSign_cases (cs : List Char) : (∃ ds, cs = '-' :: ds ∧ splitSign cs = (true, ds)) ∨
    (∃ ds, cs = '+' :: ds ∧ splitSign cs = (false, ds)) ∨ splitSign cs = (false, cs) := by
  rw [splitSign.eq_def]
  split
  · exact .inl ⟨_, rfl, rfl⟩
  · exact .inr (.inl ⟨_, rfl, rfl⟩)
  · exact .inr (.inr rfl)

/-- Digits are split off what does not begin with one. -/
lemma splitDigits_append_of_head {cs rest : List Char} (digits : AllDigits cs)
    (ends : ∀ c ∈ rest.head?, c.isDigit = false) : splitDigits (cs ++ rest) = (cs, rest) := by
  have none : rest.takeWhile Char.isDigit = [] ∧ rest.dropWhile Char.isDigit = rest := by
    cases rest with
    | nil => exact ⟨rfl, rfl⟩
    | cons c rest =>
        have hc := ends c rfl
        simp [hc]
  simp only [splitDigits, List.takeWhile_append_of_pos digits, List.dropWhile_append_of_pos digits, none.1, none.2,
    List.append_nil]

/-! ### Integers -/

/-- An integer is written as its sign and its digits. -/
lemma exists_toList_toString (n : Int) : ∃ sign, IsSign sign (decide (n < 0)) ∧
    (toString n).toList = sign ++ Nat.toDigits 10 n.natAbs := by
  rw [Int.toString_eq_repr, Int.repr_eq_if]
  by_cases nonneg : 0 ≤ n
  · have plain : ¬ n < 0 := by omega
    have same : n.toNat = n.natAbs := by omega
    exact ⟨[], by simpa [plain] using isSign_nil, by simp [nonneg, same]⟩
  · have negative : n < 0 := by omega
    have same : (-n).toNat = n.natAbs := by omega
    exact ⟨['-'], by simpa [negative] using isSign_minus, by simp [nonneg, same]⟩

lemma IntegerLiteral.ofText?_eq_some_iff {text : String} {l : IntegerLiteral} :
    ofText? text = some l ↔ splitSign text.toList = (l.negative, l.digits) ∧ l.digits ≠ [] ∧ AllDigits l.digits := by
  obtain ⟨negative, ds⟩ := l
  rw [ofText?, AllDigits, ← List.all_eq_true]
  grind

/-- An integer literal is read by its parts. -/
lemma IntegerLiteral.ofText?_of_sign {text : String} {sign ds : List Char} {negative : Bool} (isSign : IsSign sign negative)
    (ne : ds ≠ []) (digits : AllDigits ds) (parts : text.toList = sign ++ ds) : ofText? text = some ⟨negative, ds⟩ := by
  obtain ⟨d, more, rfl⟩ := List.exists_cons_of_ne_nil ne
  have split : splitSign text.toList = (negative, d :: more) := by
    rw [parts]
    exact isSign d more (digits d List.mem_cons_self)
  exact ofText?_eq_some_iff.2 ⟨split, ne, digits⟩

/-- The text of an integer is a literal, and stands for the integer. -/
lemma IntegerLiteral.exists_ofText?_toString (n : Int) : ∃ l, ofText? (toString n) = some l ∧ l.value = n ∧
    l.digits = Nat.toDigits 10 n.natAbs := by
  obtain ⟨sign, isSign, parts⟩ := exists_toList_toString n
  refine ⟨_, ofText?_of_sign isSign Nat.toDigits_ne_nil (allDigits_toDigits _) parts, ?_, rfl⟩
  simp only [value, digitsValue_toDigits, decide_eq_true_eq]
  split <;> omega

/-- **An integer reads back**, unless it has too many digits. -/
theorem readInteger_toString {n : Int} (small : n.natAbs < 10 ^ Cause.digitLimit) :
    readInteger (toString n) = .ok n := by
  obtain ⟨l, literal, value, digits⟩ := IntegerLiteral.exists_ofText?_toString n
  have size : l.digits.length ≤ Cause.digitLimit := by
    rw [digits]
    exact (Nat.length_toDigits_le_iff (by decide) (by decide)).2 small
  simp only [readInteger, literal, size, if_true, value]

/-- If the text of an integer is read at all, it is read as that integer. -/
lemma eq_of_readInteger_toString {m n : Int} (read : readInteger (toString n) = .ok m) : m = n := by
  obtain ⟨l, literal, value, -⟩ := IntegerLiteral.exists_ofText?_toString n
  rw [readInteger, literal] at read
  simp only at read
  split at read
  · cases read
    exact value
  · cases read

/-- Why a text is not read as an integer. -/
lemma cause_of_readInteger {text : String} {cause : Cause} (h : readInteger text = .error cause) :
    cause = .notInteger text ∨ ∃ count, Cause.digitLimit < count ∧ cause = .tooManyDigits count := by
  rw [readInteger] at h
  split at h
  · cases h
    exact .inl rfl
  · split at h
    · cases h
    · rename_i many
      cases h
      exact .inr ⟨_, Nat.lt_of_not_le many, rfl⟩

/-! ### Decimals -/

namespace DecimalLiteral

variable {sign whole fraction tail : List Char} {negative : Bool} {e : Int}

/-- A literal with a point among its digits is read by its parts. -/
lemma ofText?_point (isSign : IsSign sign negative) (wholeNe : whole ≠ []) (hw : AllDigits whole)
    (hf : AllDigits fraction) (ends : ∀ c ∈ tail.head?, c.isDigit = false) (power : exponent? tail = some e) :
    ofText? (String.ofList (sign ++ (whole ++ '.' :: (fraction ++ tail)))) =
      some ⟨negative, digitsValue (whole ++ fraction), e - fraction.length⟩ := by
  obtain ⟨d, ds, rfl⟩ := List.exists_cons_of_ne_nil wholeNe
  have signed := isSign d (ds ++ '.' :: (fraction ++ tail)) (hw d List.mem_cons_self)
  have first : splitDigits (d :: ds ++ '.' :: (fraction ++ tail)) = (d :: ds, '.' :: (fraction ++ tail)) :=
    splitDigits_append_of_head hw (by simp)
  have second := splitDigits_append_of_head hf ends
  rw [List.cons_append] at first
  simp only [ofText?, String.toList_ofList, List.cons_append, signed, first, second, reduceCtorEq, false_and, if_false,
    power, Option.map_some]

/-- A literal of digits and a power of ten is read by its parts. -/
lemma ofText?_whole (isSign : IsSign sign negative) (wholeNe : whole ≠ []) (hw : AllDigits whole)
    (power : exponent? ('e' :: tail) = some e) :
    ofText? (String.ofList (sign ++ (whole ++ 'e' :: tail))) = some ⟨negative, digitsValue whole, e⟩ := by
  obtain ⟨d, ds, rfl⟩ := List.exists_cons_of_ne_nil wholeNe
  have signed := isSign d (ds ++ 'e' :: tail) (hw d List.mem_cons_self)
  have first : splitDigits (d :: ds ++ 'e' :: tail) = (d :: ds, 'e' :: tail) :=
    splitDigits_append_of_head hw (by simp)
  rw [List.cons_append] at first
  simp only [ofText?, String.toList_ofList, List.cons_append, signed, first, reduceCtorEq, false_and, if_false]
  change Option.map (fun x => DecimalLiteral.mk negative (digitsValue (d :: (ds ++ []))) (x - (0 : Nat)))
    (exponent? ('e' :: tail)) = _
  rw [power, Option.map_some, List.append_nil, Nat.cast_zero, Int.sub_zero]

/-- A power of ten reads back, with zeros in front of it. -/
lemma exponent?_scientific (k : Nat) (x : Int) :
    exponent? ('e' :: (if x < 0 then '-' else '+') :: (List.replicate k '0' ++ Nat.toDigits 10 x.natAbs)) = some x := by
  have digits := (allDigits_zeros k).append (allDigits_toDigits x.natAbs)
  have value : digitsValue (List.replicate k '0' ++ Nat.toDigits 10 x.natAbs) = x.natAbs := by
    rw [digitsValue_zeros_append, digitsValue_toDigits]
  have some' : List.replicate k '0' ++ Nat.toDigits 10 x.natAbs ≠ [] := by
    simp
  generalize List.replicate k '0' ++ Nat.toDigits 10 x.natAbs = ds at digits value some'
  by_cases negative : x < 0
  · simp only [negative, if_true, exponent?, splitSign, some', digits.all, value, ne_eq, not_false_eq_true, true_or,
      and_self]
    congr 1
    omega
  · simp only [negative, if_false, exponent?, splitSign, some', digits.all, value, ne_eq, not_false_eq_true, true_or,
      and_self, Bool.false_eq_true, if_true]
    congr 1
    omega

/-- A literal is a decimal, or has the same value with a zero behind the point. -/
def IsDecimal (d : DecimalLiteral) (negative : Bool) (c : Nat) (e : Int) : Prop :=
  d = ⟨negative, c, e⟩ ∨ 0 ≤ e ∧ d = ⟨negative, c * 10 ^ (e.toNat + 1), -1⟩

end DecimalLiteral

namespace NumberLayout

open DecimalLiteral

variable {sign ds : List Char} {negative : Bool} {c : Nat} {e : Int}

/-- A decimal with a point among its digits reads back. -/
lemma exists_ofText?_positional (isSign : IsSign sign negative) (digits : AllDigits ds) (value : digitsValue ds = c)
    (ne : ds ≠ []) :
    ∃ d, d.IsDecimal negative c e ∧ ofText? (String.ofList (sign ++ positional ds (ds.length + e))) = some d := by
  have pos := List.length_pos_iff.2 ne
  have ends : ∀ c ∈ ([] : List Char).head?, c.isDigit = false := by simp
  rw [positional]
  split
  · rename_i below
    have zero : AllDigits ['0'] := allDigits_zeros 1
    have parts := ofText?_point isSign (by simp) zero
      ((allDigits_zeros (-((ds.length : Int) + e)).toNat).append digits) ends rfl
    have same : digitsValue (['0'] ++ (List.replicate (-((ds.length : Int) + e)).toNat '0' ++ ds)) = c := by
      rw [digitsValue_append, digitsValue_zeros_append, value]
      simp [digitsValue]
    rw [same, List.append_nil] at parts
    refine ⟨_, .inl ?_, parts⟩
    simp only [List.length_append, List.length_replicate, DecimalLiteral.mk.injEq, true_and]
    omega
  split
  · rename_i _ whole
    have zero : AllDigits ['0'] := allDigits_zeros 1
    have parts := ofText?_point isSign (by simp [ne])
      (digits.append (allDigits_zeros ((((ds.length : Int) + e).toNat) - ds.length))) zero ends rfl
    have count : ((ds.length : Int) + e).toNat - ds.length = e.toNat := by omega
    have same : digitsValue (ds ++ List.replicate e.toNat '0' ++ ['0']) = c * 10 ^ (e.toNat + 1) := by
      rw [List.append_assoc, show ['0'] = List.replicate 1 '0' from rfl, List.replicate_append_replicate,
        digitsValue_append_zeros, value]
    rw [count] at parts ⊢
    rw [same] at parts
    exact ⟨_, .inr ⟨by omega, by simp⟩, parts⟩
  · rename_i above inner
    have first : AllDigits (ds.take ((ds.length : Int) + e).toNat) := fun c hc => digits c (List.mem_of_mem_take hc)
    have second : AllDigits (ds.drop ((ds.length : Int) + e).toNat) := fun c hc => digits c (List.mem_of_mem_drop hc)
    have parts := ofText?_point isSign (by simp [ne]; omega) first second ends rfl
    rw [List.take_append_drop, value, List.append_nil] at parts
    refine ⟨_, .inl ?_, parts⟩
    simp only [List.length_drop, DecimalLiteral.mk.injEq, true_and]
    omega

/-- A decimal with one digit before the point and a power of ten reads back. -/
lemma exists_ofText?_scientific (l : NumberLayout) (isSign : IsSign sign negative) (digits : AllDigits ds)
    (value : digitsValue ds = c) (ne : ds ≠ []) :
    ofText? (String.ofList (sign ++ l.scientific ds (ds.length + e - 1))) = some ⟨negative, c, e⟩ := by
  have power := exponent?_scientific
    (l.exponentDigits - (Nat.toDigits 10 ((ds.length : Int) + e - 1).natAbs).length) ((ds.length : Int) + e - 1)
  unfold scientific
  match ds with
  | [] => exact absurd rfl ne
  | [d] =>
      have parts := ofText?_whole isSign (by simp) digits power
      rw [value] at parts
      simpa using parts
  | d :: d' :: ds =>
      have parts := ofText?_point isSign (List.cons_ne_nil d []) (fun c hc => digits c (by simp_all))
        (fun c hc => digits c (List.mem_cons_of_mem d hc)) (by simp) power
      simp only [List.singleton_append, value] at parts
      simp only [List.cons_append] at parts ⊢
      rw [parts]
      simp
      omega

/-- **A decimal reads back**, in either layout. -/
theorem exists_ofText?_text (l : NumberLayout) (negative : Bool) (c : Nat) (e : Int) :
    ∃ d : DecimalLiteral, d.IsDecimal negative c e ∧ ofText? (l.text negative c e) = some d := by
  obtain ⟨sign, isSign, text⟩ : ∃ sign, IsSign sign negative ∧
      ∀ cs : List Char, (if negative then '-' :: cs else cs) = sign ++ cs := by
    cases negative with
    | true => exact ⟨['-'], isSign_minus, fun _ => rfl⟩
    | false => exact ⟨[], isSign_nil, fun _ => rfl⟩
  have digits := allDigits_toDigits c
  have value := digitsValue_toDigits c
  have ne : Nat.toDigits 10 c ≠ [] := Nat.toDigits_ne_nil
  simp only [NumberLayout.text, text]
  split
  · exact exists_ofText?_positional isSign digits value ne
  · exact ⟨_, .inl rfl, exists_ofText?_scientific l isSign digits value ne⟩

end NumberLayout

/-! ### Shortest decimals -/

namespace BinaryFormat

variable (f : BinaryFormat) {r : Nat}

/-- A decimal that is met on a grid rounds to the number. -/
lemma rankOfRatio_of_onGrid? (wide : 2 ≤ f.precision) {n : Nat} {e : Int} (h : f.onGrid? r e = some n) :
    f.rankOfRatio (n * 10 ^ e.toNat) (10 ^ (-e).toNat) = r := by
  rw [f.rankOfRatio_eq_iff (Nat.pow_pos (by decide)) wide]
  have scaled : 2 * (n * 10 ^ e.toNat * 2 ^ f.scale) = n * (10 ^ e.toNat * 2 ^ (f.scale + 1)) := by ring
  rw [scaled]
  simp only [onGrid?] at h
  split at h
  · rename_i down up
    split at h
    · cases h
      exact down
    · cases h
      exact up
  · rename_i down _
    cases h
    exact down
  · rename_i _ up
    cases h
    exact up
  · cases h

/-- Whatever grids are searched, the decimal that is found rounds to the number. -/
lemma rankOfRatio_searchGrids (wide : 2 ≤ f.precision) (fuel : Nat) (e : Int) :
    f.rankOfRatio ((f.searchGrids r fuel e).1 * 10 ^ (f.searchGrids r fuel e).2.toNat)
      (10 ^ (-(f.searchGrids r fuel e).2).toNat) = r := by
  induction fuel generalizing e with
  | zero =>
      have none : (-(f.scale : Int)).toNat = 0 := by omega
      have power : (- -(f.scale : Int)).toNat = f.scale := by omega
      simp only [searchGrids, none, power, Nat.pow_zero, Nat.mul_one]
      refine f.rankOfRatio_of_units (Nat.pow_pos (by decide)) wide ?_
      rw [Nat.mul_assoc, ← Nat.mul_pow]
  | succ fuel ih =>
      rw [searchGrids]
      split
      · rename_i n met
        exact f.rankOfRatio_of_onGrid? wide met
      · exact ih (e - 1)

/-- **The shortest decimal of a number rounds to it.** -/
theorem rankOfRatio_shortest (wide : 2 ≤ f.precision) (r : Nat) :
    f.rankOfRatio ((f.shortest r).1 * 10 ^ (f.shortest r).2.toNat) (10 ^ (-(f.shortest r).2).toNat) = r := by
  rw [shortest]
  split
  · rename_i zero
    refine f.rankOfRatio_of_units (Nat.pow_pos (by decide)) wide ?_
    rw [zero, f.units_zero, Nat.zero_mul, Nat.zero_mul, Nat.zero_mul]
  · exact f.rankOfRatio_searchGrids wide _ _

end BinaryFormat

/-- A zero behind the point changes no rounding. -/
lemma DecimalLiteral.IsDecimal.rankOfRatio_eq {f : BinaryFormat} (wide : 2 ≤ f.precision) {d : DecimalLiteral}
    {negative : Bool} {c : Nat} {e : Int} (h : d.IsDecimal negative c e) :
    d.negative = negative ∧
      f.rankOfRatio d.numerator d.denominator = f.rankOfRatio (c * 10 ^ e.toNat) (10 ^ (-e).toNat) := by
  rcases h with rfl | ⟨nonneg, rfl⟩
  · exact ⟨rfl, rfl⟩
  · refine ⟨rfl, ?_⟩
    have none : (-e).toNat = 0 := by omega
    have tenth : f.rankOfRatio (c * 10 ^ e.toNat * 10) (1 * 10) = f.rankOfRatio (c * 10 ^ e.toNat) 1 :=
      f.rankOfRatio_mul Nat.one_pos wide (by decide)
    rw [none, Nat.pow_zero, ← tenth]
    simp [numerator, denominator, Nat.pow_succ, Nat.mul_assoc]

/-- **The text of a number is a literal, and the number is nearest to it.** -/
theorem exists_nearest?_of_text {f : BinaryFormat} (wide : 2 ≤ f.precision) (l : NumberLayout) (v : Floating f) :
    ∃ d, DecimalLiteral.ofText? (l.text v.negative (f.shortest v.rank).1 (f.shortest v.rank).2) = some d ∧
      d.nearest? f = some v := by
  obtain ⟨d, decimal, read⟩ := l.exists_ofText?_text v.negative (f.shortest v.rank).1 (f.shortest v.rank).2
  obtain ⟨sign, same⟩ := decimal.rankOfRatio_eq wide
  refine ⟨d, read, ?_⟩
  rw [DecimalLiteral.nearest?_eq wide, sign]
  exact Floating.ofRatio?_of_rank v.negative (same.trans (f.rankOfRatio_shortest wide v.rank)) v.rank_lt

end CommandTree.Numeric
