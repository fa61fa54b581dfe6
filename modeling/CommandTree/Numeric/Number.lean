import CommandTree.Numeric.Decimal
import CommandTree.Numeric.Shortest
/-!
Numbers as callers give them: integers of any size, and double-precision numbers with infinities and the undefined
value.

* `Number.le` compares integers and floating-point numbers by their exact values; nothing compares with the
  undefined value;
* `Double.toSingle` and `Number.toSingle` round to single precision;
* `Number.text` writes a number.
-/

namespace CommandTree.Numeric

-- Powers are taken with the core instance, also where a module beside this one brings another.
attribute [local instance (high)] instPowNat

/-! ### Double precision with its special values -/

/-- A double-precision value. -/
inductive Double where
  | nan
  | infinite (negative : Bool)
  | finite (v : Floating binary64)
  deriving DecidableEq

namespace Double

/-- The finite number, or the infinity of the given sign. -/
def ofFinite? (negative : Bool) : Option (Floating binary64) → Double
  | some v => finite v
  | none => infinite negative

/-- The value nearest to a decimal literal. -/
def ofDecimal (d : DecimalLiteral) : Double := ofFinite? d.negative (d.nearest? binary64)

/-- The value nearest to an integer. -/
def ofInt (n : Int) : Double :=
  ofFinite? (decide (n < 0)) (Floating.ofRatio? (decide (n < 0)) n.natAbs 1)

/-- A number of single precision, if there is one, with the precision of a double. -/
def ofSingle? : Option (Floating binary32) → Except Cause Double
  | some w => .ok (finite w.widen)
  | none => .error .beyondSingle

/-- The value rounded to single precision; a finite number must not be rounded to infinity. -/
def toSingle : Double → Except Cause Double
  | finite v => ofSingle? v.convert?
  | x => .ok x

/-- The text of a value. -/
def text : Double → String
  | nan => "nan"
  | infinite negative => if negative then "-inf" else "inf"
  | finite v => v.text

end Double

/-! ### Numbers and their order -/

/-- An integer or a double-precision value. -/
inductive Number where
  | whole (n : Int)
  | real (x : Double)
  deriving DecidableEq

/-- A place on the number line: a fraction `n / 2 ^ scale`, or beyond all of them. -/
inductive Place where
  | below
  | fraction (n : Int) (scale : Nat)
  | above

/-- Whether a place is not to the right of another. -/
def Place.le : Place → Place → Bool
  | below, _ => true
  | _, above => true
  | fraction m s, fraction n t => decide (m * 2 ^ t ≤ n * 2 ^ s)
  | _, _ => false

namespace Number

/-- The place of a number on the line; the undefined value has none. -/
def place? : Number → Option Place
  | whole n => some (.fraction n 0)
  | real .nan => none
  | real (.infinite negative) => some (if negative then .below else .above)
  | real (.finite v) => some (.fraction v.signedUnits binary64.scale)

/-- Whether a number is at most another, by their exact values. -/
def le (a b : Number) : Bool :=
  match a.place?, b.place? with
  | some p, some q => p.le q
  | _, _ => false

/-- Whether two numbers have the same exact value. -/
def same (a b : Number) : Bool := a.le b && b.le a

/-- Whether a number is less than another, by their exact values. -/
def lt (a b : Number) : Bool := a.le b && !b.le a

/-- A number rounded to single precision. An integer is rounded to double precision first, which may fail too. -/
def toSingle : Number → Except Cause Double
  | real x => x.toSingle
  | whole n =>
    match Double.ofInt n with
    | .finite v => (Double.finite v).toSingle.mapError fun _ => .wholeBeyondSingle
    | _ => .error .wholeBeyondDouble

/-- The text of a number. -/
def text : Number → String
  | whole n => toString n
  | real x => x.text

end Number

end CommandTree.Numeric
