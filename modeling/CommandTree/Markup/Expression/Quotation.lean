import CommandTree.Markup.Expression.Numeral
/-!
The quotations in expressions: texts, bytes and templates.

Letters in front of the quotes say what a quotation is and whether backslashes in it stand for themselves. Otherwise a
backslash introduces an escape: code points are written with two, four or eight hexadecimal digits, or by the name of
the character; no names are known here.

* `Quotation.ofToken` takes a quotation apart;
* `checkText` and `checkBytes` find the first faulty escape.
-/

namespace CommandTree.Markup.Expression

-- Sums start from the core zero, also where a module beside this one brings another.
attribute [local instance (high)] Zero.ofOfNat0

/-- A quotation. -/
structure Quotation where
  bytes : Bool
  template : Bool
  raw : Bool
  content : List Char
  deriving DecidableEq, Repr

/-- Takes a quotation apart. -/
def Quotation.ofToken (word : String) : Quotation :=
  let letters := (word.toList.takeWhile fun c => c != '\'' && c != '"').map Char.toLower
  let quoted := word.toList.drop letters.length
  let quotes := if quoted.length ≥ 6 && (quoted.take 3).all (· == quoted.head?.getD ' ') then 3 else 1
  ⟨letters.contains 'b', letters.contains 'f', letters.contains 'r',
    (quoted.drop quotes).take (quoted.length - 2 * quotes)⟩

/-- Whether a character is one of ASCII. -/
def isAscii (c : Char) : Bool := decide (c.toNat < 0x80)

/-- How many positions a character of a text takes; others than those of ASCII are escaped first. -/
def positions (c : Char) : Nat := if isAscii c then 1 else 10

/-- The number of digits in an escape that is introduced by a letter, and what is said if they are missing. -/
def escapeDigits? (c : Char) : Option (Nat × String) :=
  if c = 'x' then some (2, "truncated \\xXX escape")
  else if c = 'u' then some (4, "truncated \\uXXXX escape")
  else if c = 'U' then some (8, "truncated \\UXXXXXXXX escape")
  else none

/-- The value of hexadecimal digits. -/
def hexValue (cs : List Char) : Nat :=
  cs.foldl (fun n c => 16 * n + (if c.isDigit then c.toNat - 48 else (c.toLower.toNat - 87))) 0

/-- The fault of an escape by name, whose letter stands behind the backslash at a position. -/
def nameFault (position : Nat) (cs : List Char) : Fault :=
  let malformed := "malformed \\N character escape"
  match cs with
  | '{' :: cs =>
    let name := cs.takeWhile (· ≠ '}')
    let last := position + 2 + (name.map positions).sum
    if name.length = cs.length then .badEscape position last malformed
    else if name = [] then .badEscape position last malformed
    else .badEscape position (last + 1) "unknown Unicode character name"
  | _ => .badEscape position (position + 1) malformed

/-- Finds the first faulty escape in a text, of which `position` positions have been read. -/
def checkText (position : Nat) : List Char → Except Fault Unit
  | [] => .ok ()
  | [_] => .ok ()
  | c :: d :: cs =>
    if c ≠ '\\' then checkText (position + positions c) (d :: cs)
    else if !isAscii d then checkText (position + 6) (d :: cs)
    else if d = 'N' then .error (nameFault position cs)
    else match escapeDigits? d with
      | none => checkText (position + 2) cs
      | some (count, problem) =>
        let digits := (cs.take count).takeWhile isHexDigit
        if digits.length < count then .error (.badEscape position (position + 1 + digits.length) problem)
        else if hexValue digits > 0x10FFFF then
          .error (.badEscape position (position + 1 + count) "illegal Unicode character")
        else checkText (position + 2) cs

/-- Finds the first faulty escape in bytes, of which `position` have been read. -/
def checkBytes (position : Nat) : List Char → Except Fault Unit
  | [] => .ok ()
  | [_] => .ok ()
  | c :: d :: cs =>
    if c ≠ '\\' then checkBytes (position + 1) (d :: cs)
    else if d = 'x' && !((cs.take 2).length = 2 && (cs.take 2).all isHexDigit) then .error (.badByte position)
    else checkBytes (position + 2) cs

/-- Checks a quotation that is no template. -/
def Quotation.check (q : Quotation) : Except Fault Unit :=
  if q.bytes then
    if !q.content.all isAscii then .error .wideByte
    else if q.raw then .ok () else checkBytes 0 q.content
  else if q.raw then .ok () else checkText 0 q.content

end CommandTree.Markup.Expression
