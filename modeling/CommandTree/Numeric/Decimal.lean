import CommandTree.Cause
import CommandTree.Numeric.BinaryFormat
/-!
Numerals: integer and decimal literals over the ASCII digits, and the floating-point number nearest to a decimal.

A decimal literal is an optional sign, digits with at most one point among, before or after them, and an optional
power of ten. It is kept exactly, as a natural number times a power of ten. Rounding it never computes a
power of ten that is far beyond the format: such a literal is beyond the finite numbers or rounds to zero.

* `IntegerLiteral.ofText?`, `DecimalLiteral.ofText?` read the whole of a text or nothing;
* `readInteger` and `readDecimal` convert a text or say why it cannot be converted;
* `DecimalLiteral.nearest?` is the number of a format nearest to a literal.
-/

namespace CommandTree.Numeric

-- Powers are taken with the core instance, also where a module beside this one brings another.
attribute [local instance (high)] instPowNat

/-! ### Signs and digits -/

/-- Splits an optional sign off: whether it is a minus, and what follows. -/
def splitSign : List Char → Bool × List Char
  | '-' :: cs => (true, cs)
  | '+' :: cs => (false, cs)
  | cs => (false, cs)

/-- The number that a run of decimal digits stands for. -/
def digitsValue (cs : List Char) : Nat :=
  cs.foldl (fun n c => 10 * n + (c.toNat - '0'.toNat)) 0

/-- Splits the leading digits off. -/
def splitDigits (cs : List Char) : List Char × List Char :=
  (cs.takeWhile Char.isDigit, cs.dropWhile Char.isDigit)

/-- Splitting the digits off loses nothing. -/
theorem splitDigits_append (cs : List Char) : (splitDigits cs).1 ++ (splitDigits cs).2 = cs :=
  List.takeWhile_append_dropWhile

/-! ### Integer literals -/

/-- An integer literal: a sign and at least one digit. -/
structure IntegerLiteral where
  negative : Bool
  digits : List Char
  deriving DecidableEq

namespace IntegerLiteral

/-- Reads a whole text as an integer literal. -/
def ofText? (text : String) : Option IntegerLiteral :=
  let (negative, digits) := splitSign text.toList
  if digits ≠ [] ∧ digits.all Char.isDigit then some ⟨negative, digits⟩ else none

/-- The integer that a literal stands for. -/
def value (l : IntegerLiteral) : Int :=
  if l.negative then -(digitsValue l.digits : Int) else digitsValue l.digits

end IntegerLiteral

/-- The integer that a text stands for, or why it stands for none. -/
def readInteger (text : String) : Except Cause Int :=
  match IntegerLiteral.ofText? text with
  | none => .error (.notInteger text)
  | some l =>
    if l.digits.length ≤ Cause.digitLimit then .ok l.value else .error (.tooManyDigits l.digits.length)

/-! ### Decimal literals -/

/-- A decimal literal, by its exact value: a signed natural number times a power of ten. -/
structure DecimalLiteral where
  negative : Bool
  -- all digits of the literal, as one number
  coefficient : Nat
  -- the power of ten
  exponent : Int
  deriving DecidableEq

namespace DecimalLiteral

/-- Reads the power of ten that ends a literal, which may be missing. -/
def exponent? : List Char → Option Int
  | [] => some 0
  | e :: cs =>
    let (negative, digits) := splitSign cs
    if (e = 'e' ∨ e = 'E') ∧ digits ≠ [] ∧ digits.all Char.isDigit then
      some (if negative then -(digitsValue digits : Int) else digitsValue digits)
    else none

/-- Reads a whole text as a decimal literal. -/
def ofText? (text : String) : Option DecimalLiteral :=
  let (negative, body) := splitSign text.toList
  let (whole, rest) := splitDigits body
  let (fraction, rest) := match rest with
    | '.' :: more => splitDigits more
    | _ => ([], rest)
  if whole = [] ∧ fraction = [] then none
  else (exponent? rest).map fun exponent =>
    ⟨negative, digitsValue (whole ++ fraction), exponent - fraction.length⟩

/-- The numerator of the magnitude. -/
def numerator (d : DecimalLiteral) : Nat := d.coefficient * 10 ^ d.exponent.toNat

/-- The denominator of the magnitude. -/
def denominator (d : DecimalLiteral) : Nat := 10 ^ (-d.exponent).toNat

/-- Whether the magnitude is certainly beyond the finite numbers of a format, judged by the number of bits. -/
def farBeyond (f : BinaryFormat) (d : DecimalLiteral) : Bool :=
  decide ((f.precision + f.count / f.block : Int) ≤ d.coefficient.log2 + 3 * d.exponent + f.scale)

/-- Whether the magnitude is certainly less than half a unit of a format, judged by the number of bits. -/
def farBelow (f : BinaryFormat) (d : DecimalLiteral) : Bool :=
  decide ((d.coefficient.log2 + 3 * d.exponent : Int) + f.scale + 2 ≤ 0)

/-- The number nearest to a literal, a tie going to the even one, or nothing if that is beyond the finite numbers. -/
def nearest? (f : BinaryFormat) (d : DecimalLiteral) : Option (Floating f) :=
  if d.coefficient = 0 ∨ (d.exponent < 0 ∧ d.farBelow f) then some ⟨d.negative, 0, f.count_pos⟩
  else if 0 ≤ d.exponent ∧ d.farBeyond f then none
  else Floating.ofRatio? d.negative d.numerator d.denominator

end DecimalLiteral

/-- The decimal that a text stands for, or why it stands for none. -/
def readDecimal (text : String) : Except Cause DecimalLiteral :=
  match DecimalLiteral.ofText? text with
  | none => .error (.notDecimal text)
  | some d => .ok d

end CommandTree.Numeric
