import CommandTree.Cause
import CommandTree.Text.Literal
/-!
What can be wrong with the text of an expression.

Some faults concern single characters, numbers, texts and brackets, and are found before anything else; the others are
mistakes of grammar. A mistake without a name of its own is simply invalid.

* `Fault` are the faults, and `Fault.message` their wordings.
-/

namespace CommandTree.Markup.Expression

open Text

/-- Why the text of an expression cannot be read. -/
inductive Fault where
  | badCharacter (c : Char)
  | unprintableCharacter (c : Char)
  | strayBackslash
  | badNumber (form : String)
  | badDigit (digit : Char) (form : String)
  | leadingZero
  | tooManyDigits (count : Nat)
  -- a text has no end on its line, or if its quotes are tripled no end at all; `line` is where that was noticed
  | openQuotation (tripled : Bool) (line : Nat)
  -- a backslash in a text introduces nothing; it stands with what belongs to it from `first` to `last`
  | badEscape (first last : Nat) (problem : String)
  | badByte (position : Nat)
  | wideByte
  | mixedQuotations
  | neverClosed (bracket : Char)
  | unmatched (bracket : Char)
  -- a closing bracket stands where another one is due; `line` is that of the opening one, if it is another line
  | mismatched (closing opening : Char) (line : Option Nat)
  | tooDeep
  | invalid
  | indented
  | missingComma
  | missingElse
  | bareCommand (name : String)
  | equalsBehindName
  | equalsBehind (noun : String)
  | bindingBehind (noun : String)
  | badTarget (noun : String)
  | loneStar (doubled : Bool)
  | starIterated (doubled : Bool)
  | bareItems
  | missingColon
  | missingValue
  | starredValue
  | plainArgument (unpacked : Bool)
  | starredArgument
  | bareIteration
  | unnamedArgument
  | badParameters (problem : String)
  | inTemplate (fault : Fault)
  -- a template holds nothing where an expression is due; `before` is what follows
  | emptyField (before : Option Char)
  | badTemplate (problem : String)
  deriving DecidableEq, Repr

namespace Fault

/-- The end of a sentence on an expected or misplaced equals sign. -/
def equalsHint : String := "Maybe you meant '==' instead of '='?"

/-- The wording of a fault. -/
def message : Fault → String
  | badCharacter c => s!"invalid character '{c}' ({codePointName c})"
  | unprintableCharacter c => s!"invalid non-printable character {codePointName c}"
  | strayBackslash => "unexpected character after line continuation character"
  | badNumber form => s!"invalid {form} literal"
  | badDigit digit form => s!"invalid digit '{digit}' in {form} literal"
  | leadingZero =>
    "leading zeros in decimal integer literals are not permitted; use an 0o prefix for octal integers"
  | tooManyDigits count =>
    (Cause.tooManyDigits count).message
      ++ " - Consider hexadecimal for huge integer literals to avoid decimal conversion limits."
  | openQuotation tripled line =>
    (if tripled then "unterminated triple-quoted string literal" else "unterminated string literal")
      ++ s!" (detected at line {line})"
  | badEscape first last problem =>
    "(unicode error) 'unicodeescape' codec can't decode "
      ++ (if first = last then s!"byte 0x5c in position {first}" else s!"bytes in position {first}-{last}")
      ++ ": " ++ problem
  | badByte position => s!"(value error) invalid \\x escape at position {position}"
  | wideByte => "bytes can only contain ASCII literal characters"
  | mixedQuotations => "cannot mix bytes and nonbytes literals"
  | neverClosed bracket => s!"'{bracket}' was never closed"
  | unmatched bracket => s!"unmatched '{bracket}'"
  | mismatched closing opening line =>
    s!"closing parenthesis '{closing}' does not match opening parenthesis '{opening}'"
      ++ (match line with
        | none => ""
        | some n => s!" on line {n}")
  | tooDeep => "too many nested parentheses"
  | invalid => "invalid syntax"
  | indented => "unexpected indent"
  | missingComma => "invalid syntax. Perhaps you forgot a comma?"
  | missingElse => "expected 'else' after 'if' expression"
  | bareCommand name => s!"Missing parentheses in call to '{name}'. Did you mean {name}(...)?"
  | equalsBehindName => "invalid syntax. Maybe you meant '==' or ':=' instead of '='?"
  | equalsBehind noun => s!"cannot assign to {noun} here. " ++ equalsHint
  | bindingBehind noun => s!"cannot use assignment expressions with {noun}"
  | badTarget noun => s!"cannot assign to {noun}"
  | loneStar doubled => "cannot use " ++ (if doubled then "double " else "") ++ "starred expression here"
  | starIterated doubled =>
    if doubled then "dict unpacking cannot be used in dict comprehension"
    else "iterable unpacking cannot be used in comprehension"
  | bareItems => "did you forget parentheses around the comprehension target?"
  | missingColon => "':' expected after dictionary key"
  | missingValue => "expression expected after dictionary key and ':'"
  | starredValue => "cannot use a starred expression in a dictionary value"
  | plainArgument unpacked =>
    "positional argument follows keyword argument" ++ (if unpacked then " unpacking" else "")
  | starredArgument => "iterable argument unpacking follows keyword argument unpacking"
  | bareIteration => "Generator expression must be parenthesized"
  | unnamedArgument => "expression cannot contain assignment, perhaps you meant \"==\"?"
  | badParameters problem => problem
  | inTemplate fault => "f-string: " ++ fault.message
  | emptyField none => "empty expression not allowed"
  | emptyField (some c) => s!"expression required before '{c}'"
  | badTemplate problem => problem

end Fault

end CommandTree.Markup.Expression
