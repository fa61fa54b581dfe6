import CommandTree.Proofs.Bounds.Agreement
import CommandTree.Proofs.Numerals.Decimals
import CommandTree.Proofs.Rounding.Twice

/-!
Decimal bounds as they stand behind a type reference.

A bound of a type of double precision is one of two words, or a decimal in range, and is the nearest number to it. A bound
of a type of single precision is that number, rounded once more.

* `NumericType.StandForBoth` are the bounds that texts stand for, given what each of them stands for, and
  `NumericType.resolve_of_stands`: resolving comes to them;
* `NumericType.IsDouble`, `NumericType.StandsForDouble` and `NumericType.MisstatedDouble` are the texts in range, their
  numbers, and how other texts are refused;
* `NumericType.resolve_double`: **bounds of double precision are read exactly;**
* `NumericType.resolve_single`: **bounds of single precision are nearest numbers, but for double rounding.**
-/

namespace CommandTree

open Numeric

namespace NumericType

/-! ### Two bounds -/

section Stands

variable {t : NumericType} {words : List String} {next : Token} {rest : List Token} {q : TokenStream}

/-- What texts stand for as the two bounds, given what each of them stands for: a missing bound is the extreme, and a third
text counts for nothing. -/
def StandForBoth (stands : String → t.Bound → Prop) : List String → t.Bound → t.Bound → Prop
  | [], a, b => a = t.lowest ∧ b = t.highest
  | [x], a, b => stands x a ∧ b = t.highest
  | x :: y :: _, a, b => stands x a ∧ stands y b

/-- Parameters are read one by one, and stand for the bounds of their type together. -/
lemma standForBoth_of_parameters {type : ArgumentType}
    (parameters : Grammar.Parameters (.numeric t) ((words.take 2).map .string) type) :
    (∀ x ∈ words.take 2, ∃ b, t.readBound x = .ok b) ∧ ∃ a b, type = .numeric t a b ∧
      ∀ c d, StandForBoth (fun x b => t.readBound x = .ok b) words c d ↔ c = a ∧ d = b := by
  have only {x : String} {a : t.Bound} (read : t.readBound x = .ok a) (c : t.Bound) : t.readBound x = .ok c ↔ c = a := by
    rw [read, Except.ok.injEq, eq_comm]
  match words with
  | [] =>
      cases parameters
      exact ⟨List.forall_mem_nil _, _, _, rfl, fun c d => Iff.rfl⟩
  | [x] =>
      cases parameters with
      | lower first =>
          refine ⟨List.forall_mem_singleton.2 ⟨_, first⟩, _, _, rfl, fun c d => ?_⟩
          exact and_congr (only first c) Iff.rfl
  | x :: y :: more =>
      cases parameters with
      | both first second =>
          refine ⟨List.forall_mem_cons.2 ⟨⟨_, first⟩, List.forall_mem_singleton.2 ⟨_, second⟩⟩, _, _, rfl, fun c d => ?_⟩
          exact and_congr (only first c) (only second d)

/-- What resolving comes to is said by what each text stands for. -/
theorem resolve_of_stands {stands : String → t.Bound → Prop} (reads : ∀ x b, t.readBound x = .ok b ↔ stands x b)
    (yields : q.Yields (words.map .string ++ next :: rest) none) (other : next.isString = false) :
    ((∃ type q', Primitive.resolver.resolve ArgumentType.builtinSpace t.name q = .ok type q') ↔
      ∀ x ∈ words.take 2, ∃ b, stands x b) ∧
    (∀ type q', Primitive.resolver.resolve ArgumentType.builtinSpace t.name q = .ok type q' →
      q'.Yields ((words.drop 2).map .string ++ next :: rest) none ∧ ∃ a b, type = .numeric t a b ∧
        ∀ c d, StandForBoth stands words c d ↔ c = a ∧ d = b) ∧
    ∀ e q', Primitive.resolver.resolve ArgumentType.builtinSpace t.name q = .error e q' →
      ∃ before x after problem, words.take 2 = before ++ x :: after ∧ (∀ y ∈ before, ∃ b, stands y b) ∧
        t.readBound x = .error problem ∧ e = .failed (.parse (q'.errorAt (problem.complaint t.name x) problem.cause?)) := by
  obtain rfl : (fun x b => t.readBound x = .ok b) = stands := funext fun x => funext fun b => propext (reads x b)
  have resolves := resolves_of_yields t yields other
  generalize Primitive.resolver.resolve ArgumentType.builtinSpace t.name q = r at resolves
  cases resolves with
  | ok parameters left =>
      obtain ⟨each, together⟩ := standForBoth_of_parameters parameters
      refine ⟨⟨fun _ => each, fun _ => ⟨_, _, rfl⟩⟩, ?_, fun _ _ no => nomatch no⟩
      rintro type q' ⟨⟩
      exact ⟨left, together⟩
  | @refused before after x problem q' split sound bad =>
      refine ⟨⟨fun resolved => ?_, fun each => ?_⟩, (fun _ _ no => nomatch no), ?_⟩
      · obtain ⟨_, _, ⟨⟩⟩ := resolved
      · have member : x ∈ words.take 2 := by
          rw [split]
          exact List.mem_append_right _ List.mem_cons_self
        obtain ⟨b, read⟩ := each x member
        cases bad.symm.trans read
      · rintro e q'' ⟨⟩
        exact ⟨before, x, after, problem, split, sound, bad, rfl⟩

end Stands

/-! ### Double precision -/

/-- The texts that are bounds of double precision: the words for the extremes, and the decimals below the middle between the
greatest number and the power of two behind it. -/
def IsDouble (x : String) : Prop :=
  x = lowestWord ∨ x = highestWord ∨ ∃ negative r, Decimal x.toList negative r ∧ |r| < 2 ^ 1024 - 2 ^ 970

/-- The number of double precision that a text stands for as a bound: the words stand for the extremes, and a decimal in
range for the nearest number with its sign. -/
inductive StandsForDouble : String → Floating binary64 → Prop
  | lowest : StandsForDouble lowestWord Floating.lowest
  | highest : StandsForDouble highestWord Floating.highest
  | decimal {x : String} {r : ℚ} {v : Floating binary64} (written : Decimal x.toList v.negative r)
      (inRange : |r| < 2 ^ 1024 - 2 ^ 970) (nearest : v.IsNearest r) : StandsForDouble x v

/-- How a text that is no bound of double precision is refused: what is no decimal is not what was expected, because of its
value, and a decimal is out of range, with nothing behind it. -/
inductive MisstatedDouble (x : String) (error : ParseError) : Prop
  | malformed (other : x ≠ lowestWord ∧ x ≠ highestWord ∧ ¬ ∃ negative r, Decimal x.toList negative r)
      (message : error.message = s!"Expected double but got {x}") (cause : error.cause = some (.notDecimal x))
  | outOfRange {negative : Bool} {r : ℚ} (written : Decimal x.toList negative r) (outside : 2 ^ 1024 - 2 ^ 970 ≤ |r|)
      (message : error.message = s!"Value {x} is out of range for double") (cause : error.cause = none)

variable {x : String} {v : Floating binary64} {d : DecimalLiteral}

/-- A literal is rounded to the nearest number, if it is in range. -/
lemma nearest?_eq_some_iff : d.nearest? binary64 = some v ↔
    |d.value| < 2 ^ 1024 - 2 ^ 970 ∧ v.negative = d.negative ∧ v.IsNearest d.value := by
  have pos : 0 < d.denominator := Nat.pow_pos (by decide)
  rw [DecimalLiteral.nearest?_eq (by decide), Floating.ofRatio?_eq_some_iff pos (by decide) (by decide), d.abs_value,
    d.value_eq, ceiling_binary64]

lemma nearest?_eq_none_iff : d.nearest? binary64 = none ↔ 2 ^ 1024 - 2 ^ 970 ≤ |d.value| := by
  have pos : 0 < d.denominator := Nat.pow_pos (by decide)
  rw [DecimalLiteral.nearest?_eq (by decide), Floating.ofRatio?_eq_none_iff pos (by decide) (by decide), d.abs_value,
    ceiling_binary64]

lemma readDouble_eq_ok_iff_nearest? : readDouble x = .ok v ↔
    ∃ d, DecimalLiteral.ofText? x = some d ∧ d.nearest? binary64 = some v := by
  rw [readDouble, readDecimal]
  cases DecimalLiteral.ofText? x with
  | none => simp
  | some d =>
      simp only [Option.some.injEq, exists_eq_left']
      cases d.nearest? binary64 <;> simp

/-- A text is read as a number of double precision if it is a decimal in range, and then it is the nearest one. -/
lemma readDouble_eq_ok_iff : readDouble x = .ok v ↔
    ∃ r, Decimal x.toList v.negative r ∧ |r| < 2 ^ 1024 - 2 ^ 970 ∧ v.IsNearest r := by
  rw [readDouble_eq_ok_iff_nearest?]
  constructor
  · rintro ⟨d, read, nearest⟩
    obtain ⟨inRange, sign, nearest⟩ := nearest?_eq_some_iff.1 nearest
    exact ⟨_, DecimalLiteral.decimal_iff.2 ⟨d, read, sign.symm, rfl⟩, inRange, nearest⟩
  · rintro ⟨r, written, inRange, nearest⟩
    obtain ⟨d, read, sign, rfl⟩ := DecimalLiteral.decimal_iff.1 written
    exact ⟨d, read, nearest?_eq_some_iff.2 ⟨inRange, sign.symm, nearest⟩⟩

lemma standsForDouble_of_readDouble (read : readDouble x = .ok v) : StandsForDouble x v := by
  obtain ⟨r, written, inRange, nearest⟩ := readDouble_eq_ok_iff.1 read
  exact .decimal written inRange nearest

/-- Neither word is a decimal. -/
lemma ne_words_of_decimal {negative : Bool} {r : ℚ} (written : Decimal x.toList negative r) :
    x ≠ lowestWord ∧ x ≠ highestWord := by
  obtain ⟨d, read, -⟩ := DecimalLiteral.decimal_iff.1 written
  constructor
  · rintro rfl
    cases read
  · rintro rfl
    cases read

/-- Bounds of double precision are read as what their texts stand for. -/
lemma readBound_double_eq_ok_iff : double.readBound x = .ok v ↔ StandsForDouble x v := by
  constructor
  · intro read
    rw [readBound.eq_def] at read
    split at read
    · rename_i lowest
      subst lowest
      cases read
      exact .lowest
    split at read
    · rename_i highest
      subst highest
      cases read
      exact .highest
    · exact standsForDouble_of_readDouble read
  · intro stands
    cases stands with
    | lowest => rfl
    | highest => rfl
    | decimal written inRange nearest =>
        rw [readBound_of_ne_words .double (ne_words_of_decimal written)]
        exact readDouble_eq_ok_iff.2 ⟨_, written, inRange, nearest⟩

/-- A text in range stands for a number. -/
lemma exists_standsForDouble_iff : (∃ v, StandsForDouble x v) ↔ IsDouble x := by
  constructor
  · rintro ⟨v, _ | _ | ⟨written, inRange, -⟩⟩
    · exact .inl rfl
    · exact .inr (.inl rfl)
    · exact .inr (.inr ⟨_, _, written, inRange⟩)
  · rintro (rfl | rfl | ⟨negative, r, written, inRange⟩)
    · exact ⟨_, .lowest⟩
    · exact ⟨_, .highest⟩
    · obtain ⟨d, -, rfl, rfl⟩ := DecimalLiteral.decimal_iff.1 written
      have found : d.nearest? binary64 ≠ none := fun none => absurd (nearest?_eq_none_iff.1 none) (not_le.2 inRange)
      obtain ⟨v, found⟩ := Option.ne_none_iff_exists'.1 found
      obtain ⟨-, sign, nearest⟩ := nearest?_eq_some_iff.1 found
      exact ⟨v, .decimal (sign ▸ written) inRange nearest⟩

/-- A text that is no bound of double precision is refused as such. -/
lemma misstatedDouble_of_readBound {problem : BoundProblem} (read : double.readBound x = .error problem) (line : ℕ) :
    MisstatedDouble x ⟨problem.complaint double.name x, line, problem.cause?⟩ := by
  rw [readBound.eq_def] at read
  split at read
  · cases read
  split at read
  · cases read
  · rename_i notLowest notHighest
    change readDouble x = .error problem at read
    rw [readDouble, readDecimal] at read
    cases literal : DecimalLiteral.ofText? x with
    | none =>
        rw [literal] at read
        cases read
        refine .malformed ⟨notLowest, notHighest, ?_⟩ rfl rfl
        rintro ⟨negative, r, written⟩
        obtain ⟨d, found, -⟩ := DecimalLiteral.decimal_iff.1 written
        cases literal.symm.trans found
    | some d =>
        rw [literal] at read
        simp only at read
        split at read
        · cases read
        · rename_i none
          cases read
          have message : s!"Value {x} is out of range for {double.name}" = s!"Value {x} is out of range for double" :=
            String.append_assoc
          exact .outOfRange (DecimalLiteral.decimal_iff.2 ⟨d, literal, rfl, rfl⟩) (nearest?_eq_none_iff.1 none) message rfl

variable {words : List String} {next : Token} {rest : List Token} {q : TokenStream}

/-- **Bounds of double precision are read exactly.** In front of some strings and another token, resolving the type of
double precision succeeds if and only if each of the first two strings is a word for an extreme or a decimal in range. Then
these two are taken, no token behind them is, and the bounds are the extremes or the nearest numbers, ties to even, and no
others. Otherwise the first of them that is neither is refused, as what was not expected or as out of range. -/
theorem resolve_double (yields : q.Yields (words.map .string ++ next :: rest) none) (other : next.isString = false) :
    ((∃ type q', Primitive.resolver.resolve ArgumentType.builtinSpace double.name q = .ok type q') ↔
      ∀ x ∈ words.take 2, IsDouble x) ∧
    (∀ type q', Primitive.resolver.resolve ArgumentType.builtinSpace double.name q = .ok type q' →
      q'.Yields ((words.drop 2).map .string ++ next :: rest) none ∧ ∃ a b, type = .numeric double a b ∧
        ∀ c d, StandForBoth (t := double) StandsForDouble words c d ↔ c = a ∧ d = b) ∧
    ∀ e q', Primitive.resolver.resolve ArgumentType.builtinSpace double.name q = .error e q' →
      ∃ before x after error, words.take 2 = before ++ x :: after ∧ (∀ y ∈ before, IsDouble y) ∧
        e = .failed (.parse error) ∧ MisstatedDouble x error := by
  obtain ⟨succeeds, reads, refuses⟩ :=
    resolve_of_stands (t := double) (fun x b => readBound_double_eq_ok_iff) yields other
  refine ⟨succeeds.trans (forall₂_congr fun x _ => exists_standsForDouble_iff), reads, fun e q' refused => ?_⟩
  obtain ⟨before, x, after, problem, split, sound, bad, rfl⟩ := refuses e q' refused
  refine ⟨before, x, after, _, split, fun y hy => exists_standsForDouble_iff.1 (sound y hy), rfl, ?_⟩
  exact misstatedDouble_of_readBound bad _

/-- A tie between two numbers goes to the even one, and what is too small becomes a zero with its sign. -/
theorem resolve_double_tie : Token.statementEnd.isString = false ∧ ∃ q : TokenStream,
    q.Yields [.string "9007199254740993", .string "-.5e-400", .string "x", .statementEnd, .endOfInput] none ∧
    ∃ a b q', Primitive.resolver.resolve ArgumentType.builtinSpace double.name q = .ok (.numeric double a b) q' ∧
      a = (⟨false, 1076 * 2 ^ 52, by decide⟩ : Floating binary64) ∧ b = (⟨true, 0, by decide⟩ : Floating binary64) ∧
      q'.Yields [.string "x", .statementEnd, .endOfInput] none := by
  have ordinary : .endOfInput ∉ [Token.string "9007199254740993", .string "-.5e-400", .string "x", .statementEnd] := by
    decide
  obtain ⟨q, yields⟩ : ∃ q : TokenStream, q.Yields
      (["9007199254740993", "-.5e-400", "x"].map .string ++ .statementEnd :: [.endOfInput]) none :=
    ⟨_, (Lexer.before_ofChars _).yields_of_lexes (Lexicon.lexes_intercalate ordinary)⟩
  have first : StandsForDouble "9007199254740993" ⟨false, 1076 * 2 ^ 52, by decide⟩ :=
    standsForDouble_of_readDouble (readDouble_eq_ok_iff_nearest?.2 ⟨_, rfl, by decide +kernel⟩)
  have second : StandsForDouble "-.5e-400" ⟨true, 0, by decide⟩ :=
    standsForDouble_of_readDouble (readDouble_eq_ok_iff_nearest?.2 ⟨_, rfl, by decide +kernel⟩)
  have each : ∀ x ∈ ["9007199254740993", "-.5e-400"], IsDouble x :=
    List.forall_mem_cons.2 ⟨exists_standsForDouble_iff.1 ⟨_, first⟩,
      List.forall_mem_singleton.2 (exists_standsForDouble_iff.1 ⟨_, second⟩)⟩
  obtain ⟨succeeds, reads, -⟩ := resolve_double yields rfl
  obtain ⟨type, q', resolved⟩ := succeeds.2 each
  obtain ⟨left, a, b, rfl, bounds⟩ := reads _ _ resolved
  obtain ⟨least, greatest⟩ := (bounds _ _).1 ⟨first, second⟩
  exact ⟨rfl, q, yields, a, b, q', resolved, least.symm, greatest.symm, left⟩

/-! ### Single precision -/

variable {w : Floating binary32} {l : DecimalLiteral}

/-- A text is read as a number of single precision by way of one of double precision. -/
lemma readSingle_eq_ok_iff : readSingle x = .ok w ↔ ∃ d, readDouble x = .ok d ∧ d.convert? = some w := by
  rw [readSingle]
  cases readDouble x with
  | error problem => simp
  | ok d => simp [narrow_eq_ok_iff]

/-- A decimal bound of single precision was rounded twice, and is a nearest number unless the first rounding hit the middle
in front of a nearer one. -/
lemma nearest_of_readSingle {negative : Bool} {r : ℚ} (read : readSingle x = .ok w) (written : Decimal x.toList negative r) :
    ∃ d : Floating binary64, (d.negative = negative ∧ d.IsNearest r) ∧ (w.negative = negative ∧ w.IsNearest d.value) ∧
      ((∀ u : Floating binary32, |r - w.value| ≤ |r - u.value|) ↔
        ¬ ∃ u : Floating binary32, d.value - w.value = u.value - d.value ∧ |r - u.value| < |r - w.value|) := by
  obtain ⟨d, first, second⟩ := readSingle_eq_ok_iff.1 read
  obtain ⟨r', written', -, nearest⟩ := readDouble_eq_ok_iff.1 first
  obtain ⟨l, literal, rfl, rfl⟩ := DecimalLiteral.decimal_iff.1 written
  obtain ⟨l', literal', sign, rfl⟩ := DecimalLiteral.decimal_iff.1 written'
  obtain rfl : l = l' := Option.some.inj (literal.symm.trans literal')
  obtain ⟨-, sign', nearest'⟩ := Floating.convert?_eq_some_iff.1 second
  refine ⟨d, ⟨sign.symm, nearest⟩, ⟨sign'.trans sign.symm, nearest'⟩, ?_⟩
  rw [l.value_eq] at nearest ⊢
  exact Floating.nearest_iff_of_isNearest (div_nonneg (Nat.cast_nonneg _) (Nat.cast_nonneg _)) sign.symm nearest
    (sign'.trans sign.symm) nearest'

/-- What texts stand for together, each of them stands for. -/
lemma StandForBoth.of_mem_zip {t : NumericType} {stands : String → t.Bound → Prop} {a b c : t.Bound}
    (together : StandForBoth stands words a b) (member : (x, c) ∈ words.zip [a, b]) : stands x c := by
  match words with
  | [] => cases member
  | [y] =>
      obtain ⟨rfl, rfl⟩ := Prod.mk.inj (List.mem_singleton.1 member)
      exact together.1
  | y :: z :: more =>
      rcases List.mem_cons.1 member with first | second
      · obtain ⟨rfl, rfl⟩ := Prod.mk.inj first
        exact together.1
      · have second' : (x, c) ∈ [(z, b)] := by simpa using second
        obtain ⟨rfl, rfl⟩ := Prod.mk.inj (List.mem_singleton.1 second')
        exact together.2

/-- **Bounds of single precision are nearest numbers, but for double rounding.** Where the type of single precision is
resolved, each bound that is written as a decimal is the nearest number of single precision, ties to even, to the nearest
one of double precision, ties to even, and both have the sign of the decimal. No number of single precision is nearer to the
decimal itself, if and only if the number of double precision is not just the middle between the bound and a nearer one. -/
theorem resolve_single (yields : q.Yields (words.map .string ++ next :: rest) none) (other : next.isString = false)
    {type : ArgumentType} {q' : TokenStream}
    (resolved : Primitive.resolver.resolve ArgumentType.builtinSpace float.name q = .ok type q') :
    ∃ a b : Floating binary32, type = .numeric float a b ∧ ∀ x v, (x, v) ∈ words.zip [a, b] →
      ∀ negative r, Decimal x.toList negative r → ∃ d : Floating binary64,
        (d.negative = negative ∧ d.IsNearest r) ∧ (v.negative = negative ∧ v.IsNearest d.value) ∧
        ((∀ w : Floating binary32, |r - v.value| ≤ |r - w.value|) ↔
          ¬ ∃ w : Floating binary32, d.value - v.value = w.value - d.value ∧ |r - w.value| < |r - v.value|) := by
  obtain ⟨-, reads, -⟩ := resolve_of_stands (t := float) (fun _ _ => Iff.rfl) yields other
  obtain ⟨-, a, b, rfl, bounds⟩ := reads _ _ resolved
  refine ⟨a, b, rfl, fun x v member negative r written => ?_⟩
  have read : float.readBound x = .ok v := ((bounds a b).2 ⟨rfl, rfl⟩).of_mem_zip member
  rw [readBound_of_ne_words .float (ne_words_of_decimal written)] at read
  exact nearest_of_readSingle read written

lemma readBound_float_of_rounded {d : Floating binary64} (literal : DecimalLiteral.ofText? x = some l)
    (first : l.nearest? binary64 = some d) (second : d.convert? = some w) : float.readBound x = .ok w := by
  have written := DecimalLiteral.decimal_iff.2 ⟨l, literal, rfl, rfl⟩
  rw [readBound_of_ne_words .float (ne_words_of_decimal written)]
  exact readSingle_eq_ok_iff.2 ⟨d, readDouble_eq_ok_iff_nearest?.2 ⟨l, literal, first⟩, second⟩

/-- The first integer that is no number of single precision, as a number of double precision. -/
def firstMiddle : Floating binary64 := ⟨false, 1046 * binary64.block + (2 ^ 52 + 2 ^ 28), by decide⟩

lemma value_firstMiddle : firstMiddle.value = 16777217 := by
  have scale : (2 : ℚ) ^ binary64.scale = 2 ^ 28 * 2 ^ 1046 := by
    rw [← pow_add]
    rfl
  have unit : (0 : ℚ) < 2 ^ 1046 := by positivity
  rw [firstMiddle, Floating.value_mk, binary64.point_add (.inr (by decide)) (by decide), scale,
    mul_div_mul_right _ _ unit.ne']
  norm_num [signed]

/-- Numbers of single precision from the power of two before that integer on. -/
def beside (n : ℕ) (few : n < 2 ^ 23) : Floating binary32 :=
  ⟨false, 150 * binary32.block + (2 ^ 23 + n), by
    have block : binary32.block = 2 ^ 23 := rfl
    have count : binary32.count = 255 * 2 ^ 23 := rfl
    omega⟩

lemma value_beside {n : ℕ} (few : n < 2 ^ 23) : (beside n few).value = 16777216 + 2 * n := by
  have block : binary32.block = 2 ^ 23 := rfl
  have scale : (2 : ℚ) ^ binary32.scale = 2 ^ 149 := rfl
  rw [beside, Floating.value_mk, binary32.point_add (.inr (by omega)) (by omega), scale]
  push_cast
  rw [signed, if_neg (by decide)]
  ring

/-- An integer in the middle between two numbers of single precision is a number of double precision, and becomes the even
one of the two. -/
theorem resolve_single_tie : Token.statementEnd.isString = false ∧ ∃ q : TokenStream,
    q.Yields [.string "16777217", .statementEnd, .endOfInput] none ∧
    ∃ (a b : Floating binary32) (q' : TokenStream),
      Primitive.resolver.resolve ArgumentType.builtinSpace float.name q = .ok (.numeric float a b) q' ∧
      a.negative = false ∧ a.IsNearest 16777217 := by
  have ordinary : .endOfInput ∉ [Token.string "16777217", .statementEnd] := nofun
  obtain ⟨q, yields⟩ : ∃ q : TokenStream, q.Yields (["16777217"].map .string ++ .statementEnd :: [.endOfInput]) none :=
    ⟨_, (Lexer.before_ofChars _).yields_of_lexes (Lexicon.lexes_intercalate ordinary)⟩
  have literal : DecimalLiteral.ofText? "16777217" = some ⟨false, 16777217, 0⟩ := by decide +kernel
  have value : (⟨false, 16777217, 0⟩ : DecimalLiteral).value = 16777217 := by norm_num [DecimalLiteral.value, signed]
  have written : Decimal "16777217".toList false 16777217 := DecimalLiteral.decimal_iff.2 ⟨_, literal, rfl, value⟩
  have first : DecimalLiteral.nearest? binary64 ⟨false, 16777217, 0⟩ = some firstMiddle := by decide +kernel
  have second : firstMiddle.convert? = some (beside 0 (by decide)) := by decide +kernel
  have read := readBound_float_of_rounded literal first second
  obtain ⟨q', resolved⟩ := (exists_resolve_eq_ok_iff yields rfl _).2 ⟨_, read, rfl⟩
  obtain ⟨a, b, type, rounded⟩ := resolve_single yields rfl resolved
  obtain ⟨d, ⟨-, nearest⟩, ⟨sign, nearest'⟩, -⟩ := rounded _ a (List.mem_singleton.2 rfl) _ _ written
  -- The integer itself is the nearest number of double precision.
  have same : d.value = 16777217 := by
    have none := nearest.nearest firstMiddle
    rw [value_firstMiddle, sub_self, abs_zero, abs_nonpos_iff] at none
    linarith
  exact ⟨rfl, q, yields, a, b, q', type ▸ resolved, sign, same ▸ nearest'⟩

/-- A decimal just above this middle is rounded to it, and then to the number below, although the one above is nearer. -/
theorem resolve_single_apart : ∃ q : TokenStream,
    q.Yields [.string "16777217.000000001", .statementEnd, .endOfInput] none ∧
    ∃ (v w : Floating binary32) (q' : TokenStream),
      Primitive.resolver.resolve ArgumentType.builtinSpace float.name q = .ok (.numeric float v float.highest) q' ∧
      Decimal "16777217.000000001".toList false (16777217 + 1 / 10 ^ 9) ∧ v.value = 16777216 ∧ w.value = 16777218 ∧
      |16777217 + 1 / 10 ^ 9 - w.value| < |16777217 + 1 / 10 ^ 9 - v.value| := by
  have ordinary : .endOfInput ∉ [Token.string "16777217.000000001", .statementEnd] := nofun
  have yields := (Lexer.before_ofChars _).yields_of_lexes (Lexicon.lexes_intercalate ordinary)
  let l : DecimalLiteral := ⟨false, 16777217000000001, -9⟩
  have literal : DecimalLiteral.ofText? "16777217.000000001" = some l := by decide +kernel
  have value : l.value = 16777217 + 1 / 10 ^ 9 := by norm_num [l, DecimalLiteral.value, signed]
  have first : l.nearest? binary64 = some firstMiddle := by decide +kernel
  have second : firstMiddle.convert? = some (beside 0 (by decide)) := by decide +kernel
  have read := readBound_float_of_rounded literal first second
  obtain ⟨q', resolved⟩ := (exists_resolve_eq_ok_iff yields rfl _).2 ⟨_, read, rfl⟩
  have lower : (beside 0 (by decide)).value = 16777216 := by norm_num [value_beside]
  have upper : (beside 1 (by decide)).value = 16777218 := by norm_num [value_beside]
  refine ⟨_, yields, _, beside 1 (by decide), q', resolved, DecimalLiteral.decimal_iff.2 ⟨l, literal, rfl, value⟩, lower,
    upper, ?_⟩
  rw [lower, upper, abs_of_neg (by norm_num), abs_of_pos (by norm_num)]
  norm_num

end NumericType

end CommandTree
