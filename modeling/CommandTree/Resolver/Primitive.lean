import CommandTree.Resolver
/-!
The resolver of the primitive argument types.

It claims `bool`, `string` and the four numeric types in one name space. A string type has its kind behind the key.
A numeric type has up to two bounds there: the first string token is the least value and the second the greatest,
and what is missing is the extreme of the type.

* `Primitive.ofName?` is the type that a name stands for;
* `Resolver.primitive` is the resolver of a name space.
-/

namespace CommandTree

open Text

/-- The primitive argument types. -/
inductive Primitive where
  | bool
  | string
  | numeric (type : NumericType)
  deriving DecidableEq, Repr

namespace Primitive

/-- The word for a primitive type. -/
def name : Primitive → String
  | bool => "bool"
  | string => "string"
  | numeric t => t.name

/-- All primitive types. -/
def all : List Primitive :=
  [bool, string, numeric .integer, numeric .long, numeric .float, numeric .double]

/-- The primitive type that a word stands for. -/
def ofName? (s : String) : Option Primitive := all.find? fun p => p.name == s

/-- The word for a primitive type stands for it. -/
theorem ofName?_name (p : Primitive) : ofName? p.name = some p := by
  rcases p with _ | _ | t
  · decide +kernel
  · decide +kernel
  · cases t <;> decide +kernel

/-- Goes on with the bound that a token stands for, or refuses. -/
def withBound (t : NumericType) (token : Token) (next : t.Bound → Request) : Request :=
  match token with
  | .string text =>
    match t.readBound text with
    | .ok b => next b
    | .error (.malformed cause) => .refuse (.malformedBound t.name text) (some cause)
    | .error .outOfRange => .refuse (.boundOutOfRange t.name text) none
  | _ => .refuse (.boundExpected t.name token) none

/-- Takes the next token if it is a string, and else answers. -/
def takeStringOr (type : ArgumentType) : Request :=
  .peek fun token => if token.isString then .take else .answer type

/-- What is asked for a numeric type, given the tokens taken so far. -/
def numericRequest (t : NumericType) : List Token → Request
  | [] => takeStringOr (.numeric t t.lowest t.highest)
  | [first] => withBound t first fun a => takeStringOr (.numeric t a t.highest)
  | first :: second :: _ => withBound t first fun a => withBound t second fun b => .answer (.numeric t a b)

/-- What is asked for a string type, given the tokens taken so far. -/
def stringRequest : List Token → Request
  | [] => .take
  | .string word :: _ =>
    match StringKind.ofName? word with
    | some kind => .answer (.string kind)
    | none => .refuse (.unknownStringKind word) none
  | token :: _ => .refuse (.stringKindExpected token) none

/-- What is asked for a primitive type, given the tokens taken so far. -/
def request : Primitive → List Token → Request
  | bool, _ => .answer .bool
  | string, taken => stringRequest taken
  | numeric t, taken => numericRequest t taken

end Primitive

/-- The resolver of the primitive types in a name space. -/
def Resolver.primitive (own : String) : Resolver where
  display := "BuiltinArgumentTypeParser(namespace=" ++ shown own ++ ")"
  claims space name := space == own && (Primitive.ofName? name).isSome
  request space name taken _ :=
    match space == own, Primitive.ofName? name with
    | true, some p => p.request taken
    | _, _ => .refuse (.unsupportedType space name) none

end CommandTree
