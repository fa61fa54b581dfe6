/-!
The tokens of a command file: strings, the three structural characters, and one mark for the end of the input.
-/

namespace CommandTree

/-- A token. -/
inductive Token where
  | string (text : String)
  | openBlock
  | closeBlock
  | statementEnd
  | endOfInput
  deriving DecidableEq, Repr

namespace Token

/-- The token that a structural character is. -/
def ofStructural? : Char → Option Token
  | '{' => some openBlock
  | '}' => some closeBlock
  | ';' => some statementEnd
  | _ => none

/-- The characters that a token stands for. -/
def text : Token → String
  | string s => s
  | openBlock => "\x7b"
  | closeBlock => "\x7d"
  | statementEnd => ";"
  | endOfInput => ""

/-- Whether a token is a string. -/
def isString : Token → Bool
  | string _ => true
  | _ => false

/-- A token as messages name it. -/
def describe : Token → String
  | string s => "\"" ++ s ++ "\""
  | endOfInput => "end of input"
  | t => "'" ++ t.text ++ "'"

end Token

end CommandTree
