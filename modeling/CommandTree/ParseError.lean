import CommandTree.Cause
import CommandTree.Token
/-!
Failures to read a command file: what is wrong, at which line, and because of what.

* `Complaint` lists what can be wrong; `Complaint.message` words it;
* `ParseError` is a complaint with a line and, for some complaints, a cause.
-/

namespace CommandTree

open Text

/-- What is wrong with a command file. -/
inductive Complaint where
  | unknownCharacter (c : Char)
  | unterminatedQuote
  | unterminatedComment
  | unreadable (cause : Cause)
  | nameExpected (got : Token)
  | invalidKey (text : String)
  | unknownType (space name : String)
  | unsupportedType (space name : String)
  | stringKindExpected (got : Token)
  | unknownStringKind (text : String)
  | boundExpected (type : String) (got : Token)
  | malformedBound (type text : String)
  | boundOutOfRange (type text : String)
  | statementEndExpected (got : Token)
  | unclosedBlock (name : String)
  | argumentRoot
  | endExpected (got : Token)
  | custom (message : String)
  deriving DecidableEq, Repr

/-- The wording of a complaint. -/
def Complaint.message : Complaint → String
  | unknownCharacter c => "Unknown token: " ++ shown (String.singleton c) ++ " (" ++ codePointName c ++ ")"
  | unterminatedQuote => "Unterminated quoted string"
  | unterminatedComment => "Unterminated block comment"
  | unreadable cause => "Error whilst reading input: " ++ cause.message
  | nameExpected got => "Expected string token for node name but got " ++ got.describe
  | invalidKey text => "Invalid key for argument type: " ++ shown text
  | unknownType space name => s!"Unknown argument type: {space}:{name}"
  | unsupportedType space name => s!"Unsupported argument type: {space}:{name}"
  | stringKindExpected got => "Expected string token for string type but got " ++ got.describe
  | unknownStringKind text => "Unknown string type: " ++ text
  | boundExpected type got => s!"Expected string token for {type} but got " ++ got.describe
  | malformedBound type text => s!"Expected {type} but got {text}"
  | boundOutOfRange type text => s!"Value {text} is out of range for {type}"
  | statementEndExpected got => "Node definition not ended with semicolon, got " ++ got.describe
  | unclosedBlock name => s!"Block of node '{name}' not closed before end of input"
  | argumentRoot => "Root command node is not a literal command node"
  | endExpected got => "Expected end of file but got " ++ got.describe
  | custom message => message

/-- A failure to read a command file. -/
structure ParseError where
  complaint : Complaint
  line : Nat
  cause : Option Cause
  deriving DecidableEq, Repr

namespace ParseError

/-- The wording without the line. -/
def message (e : ParseError) : String := e.complaint.message

/-- The wording with the line. -/
def describe (e : ParseError) : String := s!"line {e.line}: " ++ e.message

end ParseError

end CommandTree
