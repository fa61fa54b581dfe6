import CommandTree.FieldProblem
import CommandTree.Numeric.Number
/-!
Numbers as values of fields for integers or for floating-point numbers.

* `Number.integer?` and `Number.double?` say why a number does not do.
-/

namespace CommandTree.Numeric.Number

-- Powers are taken with the core instance, also where a module beside this one brings another.
attribute [local instance (high)] instPowNat

/-- The integer that a number is, if it is one; floating-point numbers are taken for integers of less than 64 bits
only. -/
def integer? : Number → Except FieldProblem.Reason Int
  | .whole n => .ok n
  | .real (.finite v) =>
    let n := v.signedUnits / 2 ^ binary64.scale
    if v.signedUnits % 2 ^ binary64.scale ≠ 0 then .error .fractional
    else if n.natAbs < 2 ^ (63 : Nat) then .ok n
    else .error .oversized
  | .real _ => .error .notFinite

/-- A number rounded to double precision, which must not make an integer infinite. -/
def double? : Number → Except FieldProblem.Reason Double
  | .whole n =>
    match Double.ofInt n with
    | .infinite _ => .error .notFloating
    | x => .ok x
  | .real x => .ok x

end CommandTree.Numeric.Number
