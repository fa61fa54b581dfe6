import CommandTree.Numeric.Number
import CommandTree.Text.Literal
/-!
Values of any sort, as a caller may hand them over where something else is expected, and how messages show them.

* `Value.kind` is the name of the sort of a value;
* `Value.display` writes a value as a literal.
-/

namespace CommandTree

open Text Numeric

/-- A value of any sort. -/
inductive Value where
  | none
  | bool (b : Bool)
  | integer (n : Int)
  | real (x : Double)
  | text (s : String)
  | list (items : List Value)
  | dictionary (entries : List (String × Value))
  deriving Inhabited

namespace Value

/-- The name of the sort of a value. -/
def kind : Value → String
  | none => "NoneType"
  | bool _ => "bool"
  | integer _ => "int"
  | real _ => "float"
  | text _ => "str"
  | list _ => "list"
  | dictionary _ => "dict"

/-- A truth value as a literal. -/
def boolText (b : Bool) : String := if b then "True" else "False"

mutual

/-- A value as a literal. -/
def display : Value → String
  | none => "None"
  | bool b => boolText b
  | integer n => toString n
  | real x => x.text
  | text s => shown s
  | list items => "[" ++ ", ".intercalate (displays items) ++ "]"
  | dictionary entries => "\x7b" ++ ", ".intercalate (entryTexts entries) ++ "\x7d"

/-- Several values as literals. -/
def displays : List Value → List String
  | [] => []
  | v :: vs => display v :: displays vs

/-- Keys and values as literals. -/
def entryTexts : List (String × Value) → List String
  | [] => []
  | (k, v) :: rest => (shown k ++ ": " ++ display v) :: entryTexts rest

end

end Value

end CommandTree
