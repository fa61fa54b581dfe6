import CommandTree.Numeric.Number
import CommandTree.Numeric.Signed
/-!
Argument types: what values the argument of a command may take.

There are the truth values, strings of three kinds, and four numeric types with inclusive bounds; callers add types
of their own. An argument type has a key, which command files refer to it by, and parameters, which follow the key.
A bound at the extreme of its type is written as the word `min` or `max`.

* `NumericType.Bound` are the bounds that a numeric type admits, so every bound is in range;
* `NumericType.readBound` reads a bound, `NumericType.boundText` writes one;
* `ArgumentType.key` and `ArgumentType.parameters` are what a command file holds of a type;
* `ArgumentType.same` compares types by their values, so that the two zeros are the same bound.
-/

namespace CommandTree

open Numeric

/-! ### Kinds of strings -/

/-- How much of the input a string argument takes. -/
inductive StringKind where
  | singleWord
  | quotablePhrase
  | greedyPhrase
  deriving DecidableEq, Repr

namespace StringKind

/-- The word for a kind. -/
def name : StringKind → String
  | singleWord => "single_word"
  | quotablePhrase => "quotable_phrase"
  | greedyPhrase => "greedy_phrase"

/-- The kind that a word stands for. -/
def ofName? (s : String) : Option StringKind :=
  [singleWord, quotablePhrase, greedyPhrase].find? fun k => k.name == s

/-- The word for a kind stands for it. -/
theorem ofName?_name (k : StringKind) : ofName? k.name = some k := by
  cases k <;> decide +kernel

end StringKind

/-! ### Numeric types -/

/-- The numeric argument types. -/
inductive NumericType where
  | integer
  | long
  | float
  | double
  deriving DecidableEq, Repr

/-- Why a text is no bound of a numeric type. -/
inductive BoundProblem where
  | malformed (cause : Cause)
  | outOfRange
  deriving DecidableEq, Repr

namespace NumericType

/-- The word for a numeric type. -/
def name : NumericType → String
  | integer => "integer"
  | long => "long"
  | float => "float"
  | double => "double"

/-- The values that bounds of a numeric type can have. -/
def Bound : NumericType → Type
  | integer => Signed 32
  | long => Signed 64
  | float => Floating binary32
  | double => Floating binary64

instance : (t : NumericType) → DecidableEq t.Bound
  | integer => inferInstanceAs (DecidableEq (Signed 32))
  | long => inferInstanceAs (DecidableEq (Signed 64))
  | float => inferInstanceAs (DecidableEq (Floating binary32))
  | double => inferInstanceAs (DecidableEq (Floating binary64))

/-- The least value of a numeric type. -/
def lowest : (t : NumericType) → t.Bound
  | integer => (Signed.lowest : Signed 32)
  | long => (Signed.lowest : Signed 64)
  | float => (Floating.lowest : Floating binary32)
  | double => (Floating.lowest : Floating binary64)

/-- The greatest value of a numeric type. -/
def highest : (t : NumericType) → t.Bound
  | integer => (Signed.highest : Signed 32)
  | long => (Signed.highest : Signed 64)
  | float => (Floating.highest : Floating binary32)
  | double => (Floating.highest : Floating binary64)

/-- A bound as a number; single precision is widened to double. -/
def number : (t : NumericType) → t.Bound → Number
  | integer, (b : Signed 32) => .whole b.val
  | long, (b : Signed 64) => .whole b.val
  | float, (b : Floating binary32) => .real (.finite b.widen)
  | double, (b : Floating binary64) => .real (.finite b)

/-! ### Bounds as text -/

/-- The word for the least value of a type. -/
def lowestWord : String := "min"

/-- The word for the greatest value of a type. -/
def highestWord : String := "max"

/-- A number as a parameter of a type: the extremes by their words. -/
def format (t : NumericType) (v : Number) : String :=
  if v.same (t.number t.lowest) then lowestWord
  else if v.same (t.number t.highest) then highestWord
  else v.text

/-- A bound as a parameter. -/
def boundText (t : NumericType) (b : t.Bound) : String := t.format (t.number b)

/-- An integer as a bound of so many bits. -/
def readSigned (bits : Nat) (text : String) : Except BoundProblem (Signed bits) :=
  match readInteger text with
  | .error cause => .error (.malformed cause)
  | .ok n => match Signed.ofInt? n with
    | some b => .ok b
    | none => .error .outOfRange

/-- A decimal as a bound of double precision. -/
def readDouble (text : String) : Except BoundProblem (Floating binary64) :=
  match readDecimal text with
  | .error cause => .error (.malformed cause)
  | .ok d => match d.nearest? binary64 with
    | some b => .ok b
    | none => .error .outOfRange

/-- A number of double precision as a bound of single precision. -/
def narrow (v : Floating binary64) : Except BoundProblem (Floating binary32) :=
  v.convert?.elim (.error (.malformed .beyondSingle)) .ok

/-- A decimal as a bound of single precision: it is rounded to double precision first. -/
def readSingle (text : String) : Except BoundProblem (Floating binary32) :=
  match readDouble text with
  | .error problem => .error problem
  | .ok v => narrow v

/-- The bound that a text stands for. -/
def readBound (t : NumericType) (text : String) : Except BoundProblem t.Bound :=
  if text = lowestWord then .ok t.lowest
  else if text = highestWord then .ok t.highest
  else match t with
    | integer => readSigned 32 text
    | long => readSigned 64 text
    | float => readSingle text
    | double => readDouble text

end NumericType

/-! ### Argument types -/

/-- The value of a field of a caller's type: a text, a list of texts, or an integer. -/
inductive FieldValue where
  | text (s : String)
  | texts (ss : List String)
  | integer (n : Int)
  deriving DecidableEq, Repr

/-- The family that a caller's type belongs to. It may be a string of some kind, or a numeric type with bounds of its own,
which may be any numbers, or neither. -/
inductive Family where
  | plain
  | string (kind : StringKind)
  | bounded (minimum maximum : Number)
  deriving DecidableEq

/-- Whether two families are equal by their values. -/
def Family.same : Family → Family → Bool
  | plain, plain => true
  | string k, string l => k == l
  | bounded a b, bounded c d => a.same c && b.same d
  | _, _ => false

/-- An argument type that a caller adds: its family, the two parts of its key, what follows the key in a command file, and
what else it holds, in order, by name. -/
structure CustomType where
  family : Family
  space : String
  name : String
  parameters : List String
  fields : List (String × FieldValue)
  deriving DecidableEq

/-- Whether two types of callers are equal by their values. -/
def CustomType.same (c d : CustomType) : Bool :=
  c.family.same d.family && c.space == d.space && c.name == d.name && c.parameters == d.parameters && c.fields == d.fields

/-- An argument type. -/
inductive ArgumentType where
  | bool
  | string (kind : StringKind)
  | numeric (type : NumericType) (minimum maximum : type.Bound)
  | custom (type : CustomType)
  deriving DecidableEq

namespace ArgumentType

/-- The first part of the keys of the types that callers do not have to add. -/
def builtinSpace : String := "builtin"

/-- The two parts of a key as one text. -/
def keyOf (space name : String) : String := space ++ ":" ++ name

/-- The word for a type. -/
def name : ArgumentType → String
  | bool => "bool"
  | string _ => "string"
  | numeric t _ _ => t.name
  | custom c => c.name

/-- The key that command files refer to a type by. -/
def key : ArgumentType → String
  | custom c => keyOf c.space c.name
  | t => keyOf builtinSpace t.name

/-- What follows the key of a type in a command file. -/
def parameters : ArgumentType → List String
  | bool => []
  | string kind => [kind.name]
  | numeric t minimum maximum =>
    if maximum ≠ t.highest then [t.boundText minimum, t.boundText maximum]
    else if minimum ≠ t.lowest then [t.boundText minimum]
    else []
  | custom c => c.parameters

/-- Whether two types are equal by their values. -/
def same : ArgumentType → ArgumentType → Bool
  | bool, bool => true
  | string k, string l => k == l
  | numeric t a b, numeric u c d => t == u && (t.number a).same (u.number c) && (t.number b).same (u.number d)
  | custom c, custom d => c.same d
  | _, _ => false

/-- The kind of strings that a type takes, if it is a type of strings. -/
def stringKind? : ArgumentType → Option StringKind
  | string kind => some kind
  | custom ⟨.string kind, _, _, _, _⟩ => some kind
  | _ => none

/-- The bounds of a type, if it is numeric. -/
def bounds? : ArgumentType → Option (Number × Number)
  | numeric t minimum maximum => some (t.number minimum, t.number maximum)
  | custom ⟨.bounded minimum maximum, _, _, _, _⟩ => some (minimum, maximum)
  | _ => none

/-- Whether a number lies within the bounds of a numeric type; other types have no numbers. -/
def contains (type : ArgumentType) (v : Number) : Bool :=
  match type.bounds? with
  | some (minimum, maximum) => minimum.le v && v.le maximum
  | none => false

end ArgumentType

end CommandTree
