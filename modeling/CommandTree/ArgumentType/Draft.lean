import CommandTree.ArgumentType
import CommandTree.FieldProblem.Number
/-!
Argument types made from given values, with all problems of the values.

A missing bound is the extreme of its type. An integer type takes integers and floating-point numbers without a
fraction; a floating-point type takes numbers of both sorts, and rounds them after checking their range.

* `NumericType.bound?` makes a bound from a number;
* `ArgumentType.ofBounds?` and `ArgumentType.ofKind?` make numeric and string types;
* `ArgumentType.assign` says that a type never changes.
-/

namespace CommandTree

open Numeric

namespace NumericType

/-- A number as a bound of so many bits. -/
def signedBound? (bits : Nat) (v : Number) : Except FieldProblem.Reason (Signed bits) :=
  match v.integer? with
  | .error reason => .error reason
  | .ok n => match Signed.ofInt? n with
    | some b => .ok b
    | none => .error (if n < 0 then .tooSmall else .tooLarge)

/-- A number as a bound of double precision; the undefined value counts as too large. -/
def doubleBound? (v : Number) : Except FieldProblem.Reason (Floating binary64) :=
  match v.double? with
  | .error reason => .error reason
  | .ok (.finite b) => .ok b
  | .ok (.infinite true) => .error .tooSmall
  | .ok (.infinite false) | .ok .nan => .error .tooLarge

/-- A double in range as a bound of single precision. -/
def roundedBound? (b : Floating binary64) : Except FieldProblem.Reason (Floating binary32) :=
  b.convert?.elim (.error .tooLarge) .ok

/-- A number as a bound of single precision: its double must be in range, and is rounded. -/
def singleBound? (v : Number) : Except FieldProblem.Reason (Floating binary32) :=
  match doubleBound? v with
  | .error reason => .error reason
  | .ok b =>
    if !(float.number float.lowest).le (.real (.finite b)) then .error .tooSmall
    else if !Number.le (.real (.finite b)) (float.number float.highest) then .error .tooLarge
    else roundedBound? b

/-- A number as a bound of a type. -/
def bound? : (t : NumericType) → Number → Except FieldProblem.Reason t.Bound
  | integer, v => signedBound? 32 v
  | long, v => signedBound? 64 v
  | float, v => singleBound? v
  | double, v => doubleBound? v

/-- A number as a bound of a type, or the given extreme if there is no number. -/
def boundOr? (t : NumericType) (extreme : t.Bound) : Option Number → Except FieldProblem.Reason t.Bound
  | none => .ok extreme
  | some v => t.bound? v

end NumericType

namespace ArgumentType

/-- A numeric type with the given bounds. -/
def ofBounds? (t : NumericType) (minimum maximum : Option Number) : Except (List FieldProblem) ArgumentType :=
  match t.boundOr? t.lowest minimum, t.boundOr? t.highest maximum with
  | .ok a, .ok b => .ok (.numeric t a b)
  | .error r, .ok _ => .error [⟨["minimum"], r⟩]
  | .ok _, .error r => .error [⟨["maximum"], r⟩]
  | .error r, .error q => .error [⟨["minimum"], r⟩, ⟨["maximum"], q⟩]

/-- A string type of the kind that a word stands for. -/
def ofKind? (kind : Option String) : Except (List FieldProblem) ArgumentType :=
  match kind with
  | none => .error [⟨["kind"], .missing⟩]
  | some word => match StringKind.ofName? word with
    | some k => .ok (.string k)
    | none => .error [⟨["kind"], .unknownChoice⟩]

/-- A type with another value of a field: a type never changes. -/
def assign (_type : ArgumentType) (field : String) : Except (List FieldProblem) ArgumentType :=
  .error [⟨[field], .frozen⟩]

end ArgumentType

end CommandTree
