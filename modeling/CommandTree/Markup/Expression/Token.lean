import CommandTree.Markup.Expression.Fault
import CommandTree.Text.Letter
/-!
The tokens of an expression.

An expression consists of words, numbers, texts and signs. Some words are reserved, and of the others a few are so in
some places. A line feed outside of brackets is a token too, and so is the first indentation.

* `Token` is a token with its place;
* `Token.ofWord` tells reserved words from names.
-/

namespace CommandTree.Markup.Expression

open Text

/-- The sorts of tokens. -/
inductive Token.Sort where
  | name
  | keyword
  | number
  | quotation
  | sign
  | lineEnd
  | indentation
  | finish
  deriving DecidableEq, Repr

/-- A token; `line` is its line and `depth` the number of brackets that are open behind it. -/
structure Token where
  sort : Token.Sort
  word : String
  line : Nat
  depth : Nat
  deriving DecidableEq, Repr

/-- The reserved words. -/
def keywords : List String :=
  ["False", "None", "True", "and", "as", "assert", "async", "await", "break", "class", "continue", "def", "del",
   "elif", "else", "except", "finally", "for", "from", "global", "if", "import", "in", "is", "lambda", "nonlocal",
   "not", "or", "pass", "raise", "return", "try", "while", "with", "yield"]

/-- The words that are reserved in some places. -/
def softKeywords : List String := ["_", "case", "match"]

/-- Whether a word is reserved in some places, or the beginning of such a word. -/
def beginsSoftKeyword (word : String) : Bool := softKeywords.any (·.startsWith word)

/-- The commands that were once written without brackets. -/
def bareCommands : List String := ["print", "exec"]

/-- The token of a word. -/
def Token.ofWord (word : String) (line depth : Nat) : Token :=
  ⟨if keywords.contains word then .keyword else .name, word, line, depth⟩

/-- The signs of more than one character, longer ones before their beginnings. -/
def longSigns : List (List Char) :=
  ["**=", "...", "//=", "<<=", ">>=", "!=", "%=", "&=", "**", "*=", "+=", "-=", "->", "//", "/=", ":=", "<<", "<=",
   "<>", "==", ">=", ">>", "@=", "^=", "|="].map String.toList

/-- The sign at the beginning of a text, and what follows it; it is one character unless it is a longer sign. -/
def splitSign (c : Char) (cs : List Char) : List Char × List Char :=
  match longSigns.find? fun sign => sign.isPrefixOf (c :: cs) with
  | some sign => (sign, (c :: cs).drop sign.length)
  | none => ([c], cs)

/-- The letters that may stand in front of a quotation, in small letters. -/
def quotationPrefixes : List (List Char) :=
  ["", "b", "u", "f", "r", "br", "rb", "fr", "rf"].map String.toList

/-- Whether a character may belong to a word; of the others than ASCII that is decided when the word is complete. -/
def isWordLike (c : Char) : Bool := c.isAlphanum || c == '_' || decide (0x80 ≤ c.toNat)

/-- The first character that has no place in a word. -/
def misplaced? : List Char → Option Char
  | [] => none
  | c :: cs => if isNameStart c then cs.find? fun d => !isNamePart d else some c

end CommandTree.Markup.Expression
