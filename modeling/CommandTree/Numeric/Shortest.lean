import CommandTree.Numeric.BinaryFormat
/-!
The shortest decimal that reads back as a given floating-point number, and how it is laid out.

The numbers that round to a given one form an interval around it, which holds its ends exactly if the rank is even.
Among the decimals in that interval the shortest ones lie on the coarsest grid of multiples of a power of ten
that meets the interval at all. Of two neighbours on that grid the nearer one is taken, and of two equally near
ones the even one.

* `onGrid?` is the decimal of a given grid, if there is one;
* `shortest` searches the grids from coarse to fine;
* `NumberLayout.text` writes a decimal, positional for moderate exponents and else scientific.
-/

namespace CommandTree.Numeric

-- Powers are taken with the core instance, also where a module beside this one brings another.
attribute [local instance (high)] instPowNat

/-! ### Shortest decimals -/

namespace BinaryFormat

variable (f : BinaryFormat)

/-- Whether `a / b` half units round to the number of the given rank. -/
def roundsTo (rank a b : Nat) : Bool :=
  let low := (f.units (rank - 1) + f.units rank) * b
  let high := (f.units rank + f.units (rank + 1)) * b
  if rank % 2 = 0 then decide (low ≤ a) && decide (a ≤ high) else decide (low < a) && decide (a < high)

/-- The multiple of `10 ^ exponent` that is nearest to the number of the given rank, among the two next to it that
round to it. -/
def onGrid? (rank : Nat) (exponent : Int) : Option Nat :=
  let step := 10 ^ exponent.toNat * 2 ^ (f.scale + 1)
  let part := 10 ^ (-exponent).toNat
  let value := 2 * f.units rank * part
  let down := value / step
  let rest := value % step
  match f.roundsTo rank (down * step) part, f.roundsTo rank ((down + 1) * step) part with
  | true, true =>
    if 2 * rest < step ∨ (2 * rest = step ∧ down % 2 = 0) then some down else some (down + 1)
  | true, false => some down
  | false, true => some (down + 1)
  | false, false => none

/-- An exponent whose power of ten is more than twice the number of the given rank, and not much more. -/
def coarseExponent (rank : Nat) : Int :=
  let bits : Int := (f.units rank).log2 + 2 - f.scale
  if 0 ≤ bits then bits / 3 + 1 else -(-bits / 4)

/-- The first decimal met on the grids of the exponents downward from the given one, as coefficient and exponent; the
exact decimal if `fuel` grids do not meet one. -/
def searchGrids (rank : Nat) : (fuel : Nat) → (exponent : Int) → Nat × Int
  | 0, _ => (f.units rank * 5 ^ f.scale, -f.scale)
  | fuel + 1, exponent =>
    match f.onGrid? rank exponent with
    | some n => (n, exponent)
    | none => searchGrids rank fuel (exponent - 1)

/-- The shortest decimal that rounds to the number of the given rank, as coefficient and exponent. -/
def shortest (rank : Nat) : Nat × Int :=
  if rank = 0 then (0, 0)
  else f.searchGrids rank (f.coarseExponent rank + f.scale + 1).toNat (f.coarseExponent rank)

end BinaryFormat

/-! ### Layout -/

/-- How decimals are laid out. -/
structure NumberLayout where
  -- the least scientific exponent that is written positionally
  positionalFrom : Int
  -- the least scientific exponent above those that are written positionally
  positionalBelow : Int
  -- the least number of digits of a written exponent
  exponentDigits : Nat

namespace NumberLayout

/-- Decimals from `0.0001` up to sixteen digits are written positionally, and an exponent has two digits at least. -/
def standard : NumberLayout := ⟨-4, 16, 2⟩

/-- A decimal with a point among its digits: `position` of them before it. Without a digit on either side of the
point a zero stands there. -/
def positional (digits : List Char) (position : Int) : List Char :=
  if position ≤ 0 then
    '0' :: '.' :: (List.replicate (-position).toNat '0' ++ digits)
  else if digits.length ≤ position.toNat then
    digits ++ List.replicate (position.toNat - digits.length) '0' ++ ['.', '0']
  else
    digits.take position.toNat ++ '.' :: digits.drop position.toNat

/-- A decimal with one digit before the point and a power of ten. -/
def scientific (l : NumberLayout) (digits : List Char) (exponent : Int) : List Char :=
  let mantissa := match digits with
    | [] => ['0']
    | [d] => [d]
    | d :: ds => d :: '.' :: ds
  let power := Nat.toDigits 10 exponent.natAbs
  mantissa ++ 'e' :: (if exponent < 0 then '-' else '+') ::
    (List.replicate (l.exponentDigits - power.length) '0' ++ power)

/-- The text of a decimal, given by sign, coefficient and exponent. -/
def text (l : NumberLayout) (negative : Bool) (coefficient : Nat) (exponent : Int) : String :=
  let digits := Nat.toDigits 10 coefficient
  let position := digits.length + exponent
  let magnitude :=
    if l.positionalFrom ≤ position - 1 ∧ position - 1 < l.positionalBelow then positional digits position
    else l.scientific digits (position - 1)
  String.ofList (if negative then '-' :: magnitude else magnitude)

end NumberLayout

/-- The text of a double-precision number: its shortest decimal in the standard layout. -/
def Floating.text (v : Floating binary64) : String :=
  NumberLayout.standard.text v.negative (binary64.shortest v.rank).1 (binary64.shortest v.rank).2

end CommandTree.Numeric
