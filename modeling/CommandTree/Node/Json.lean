import CommandTree.Node
import CommandTree.Text.Literal
/-!
Command trees as JSON.

An object holds the name, the children, the kind of node and, for an argument, its type; a type holds its own
fields and then its key. The text is ASCII: all other characters are written by their UTF-16 code units. It is
on one line, or is indented with every member on a line of its own.

* `Node.toJson` is the document of a tree;
* `JsonValue.text` writes a document.
-/

namespace CommandTree

open Text Numeric

/-! ### Documents -/

/-- A JSON document; numbers are held as they are written. -/
inductive JsonValue where
  | number (text : String)
  | string (s : String)
  | array (items : List JsonValue)
  | object (members : List (String × JsonValue))

namespace JsonValue

/-- A character of a JSON string. -/
def escapedChar (c : Char) : List Char :=
  if c = '"' || c = '\\' then ['\\', c]
  else if c = '\n' then ['\\', 'n']
  else if c = '\r' then ['\\', 'r']
  else if c = '\t' then ['\\', 't']
  else if c = '\x08' then ['\\', 'b']
  else if c = '\x0c' then ['\\', 'f']
  else if 0x20 ≤ c.toNat ∧ c.toNat ≤ 0x7E then [c]
  else if c.toNat < 0x10000 then '\\' :: 'u' :: hexDigits 4 c.toNat
  else
    let n := c.toNat - 0x10000
    '\\' :: 'u' :: hexDigits 4 (0xD800 + n / 0x400) ++ '\\' :: 'u' :: hexDigits 4 (0xDC00 + n % 0x400)

/-- A JSON string. -/
def stringText (s : String) : String :=
  String.ofList ('"' :: (s.toList.flatMap escapedChar ++ ['"']))

/-- A line break and the blanks of a nesting level, or nothing for a text on one line. -/
def breakText (indent : Option Nat) (level : Nat) : String :=
  match indent with
  | none => ""
  | some n => "\n" ++ String.ofList (List.replicate (n * level) ' ')

/-- Entries between brackets; without entries the brackets stand together. -/
def bracketed (indent : Option Nat) (level : Nat) (opening closing : String) (entries : List String) : String :=
  if entries.isEmpty then opening ++ closing
  else
    let separator := match indent with
      | none => ", "
      | some _ => "," ++ breakText indent (level + 1)
    opening ++ breakText indent (level + 1) ++ separator.intercalate entries ++ breakText indent level ++ closing

mutual

/-- The text of a document at a nesting level. -/
def textAt (indent : Option Nat) (level : Nat) : JsonValue → String
  | number t => t
  | string s => stringText s
  | array items => bracketed indent level "[" "]" (itemTexts indent (level + 1) items)
  | object members => bracketed indent level "\x7b" "\x7d" (memberTexts indent (level + 1) members)

/-- The texts of the items of an array. -/
def itemTexts (indent : Option Nat) (level : Nat) : List JsonValue → List String
  | [] => []
  | v :: vs => textAt indent level v :: itemTexts indent level vs

/-- The texts of the members of an object. -/
def memberTexts (indent : Option Nat) (level : Nat) : List (String × JsonValue) → List String
  | [] => []
  | (k, v) :: rest => (stringText k ++ ": " ++ textAt indent level v) :: memberTexts indent level rest

end

/-- The text of a document, on one line or indented. -/
def text (indent : Option Nat) (v : JsonValue) : String := textAt indent 0 v

end JsonValue

/-! ### Trees as documents -/

/-- The document of a field of a caller's type. -/
def FieldValue.toJson : FieldValue → JsonValue
  | text s => .string s
  | texts ss => .array (ss.map .string)
  | integer n => .number (toString n)

/-- The fields that a caller's type has from its family. -/
def Family.toJson : Family → List (String × JsonValue)
  | plain => []
  | string kind => [("kind", .string kind.name)]
  | bounded minimum maximum => [("minimum", .number minimum.text), ("maximum", .number maximum.text)]

/-- The document of an argument type. -/
def ArgumentType.toJson (t : ArgumentType) : JsonValue :=
  let fields := match t with
    | bool => []
    | string kind => [("kind", .string kind.name)]
    | numeric t minimum maximum =>
      [("minimum", .number (t.number minimum).text), ("maximum", .number (t.number maximum).text)]
    | custom c => c.family.toJson ++ c.fields.map fun (name, value) => (name, value.toJson)
  .object (fields ++ [("key", .string t.key)])

namespace Node

mutual

/-- The document of a tree. -/
def toJson : Node → JsonValue
  | node name type children =>
    let kind := match type with
      | none => [("kind", .string "literal")]
      | some t => [("kind", .string "argument"), ("type", t.toJson)]
    .object (("name", .string name) :: ("children", .array (toJsonAll children)) :: kind)

/-- The documents of several trees. -/
def toJsonAll : List Node → List JsonValue
  | [] => []
  | n :: ns => n.toJson :: toJsonAll ns

end

end Node

end CommandTree
