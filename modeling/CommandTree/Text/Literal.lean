import CommandTree.Text.Printable
/-!
Text as it is shown inside a message, when its exact characters matter.

The text stands between single quotes, or between double quotes when it holds a single quote and no double one.
The backslash, the enclosing quote, line feed, carriage return and tab are written with a backslash; every other
unprintable character is written by its code point, with two, four or eight hexadecimal digits.

* `shownChar_of_plain`: a printable character that is neither quote nor backslash is shown as itself.
-/

namespace CommandTree.Text

/-- The digits of `n` to the base 16, at least `width` of them, in lower case. -/
def hexDigits (width n : Nat) : List Char :=
  let digits := Nat.toDigits 16 n
  List.replicate (width - digits.length) '0' ++ digits

/-- A code point behind a backslash, in the shortest of the three forms that holds it. -/
def codePointEscape (n : Nat) : List Char :=
  if n < 0x100 then '\\' :: 'x' :: hexDigits 2 n
  else if n < 0x10000 then '\\' :: 'u' :: hexDigits 4 n
  else '\\' :: 'U' :: hexDigits 8 n

/-- One character of a shown text that stands between the quotes `mark`. -/
def shownChar (mark c : Char) : List Char :=
  if c = mark || c = '\\' then ['\\', c]
  else if c = '\n' then ['\\', 'n']
  else if c = '\r' then ['\\', 'r']
  else if c = '\t' then ['\\', 't']
  else if isPrintable c then [c]
  else codePointEscape c.toNat

/-- The quote that encloses a shown text: a single one unless that would need more backslashes. -/
def enclosingMark (cs : List Char) : Char :=
  if cs.contains '\'' && !cs.contains '"' then '"' else '\''

/-- A text between quotes, with every doubtful character made visible. -/
def shown (s : String) : String :=
  let mark := enclosingMark s.toList
  String.ofList (mark :: (s.toList.flatMap (shownChar mark) ++ [mark]))

/-- The code point of a character in the customary notation, at least four digits in upper case. -/
def codePointName (c : Char) : String :=
  "U+" ++ String.ofList ((hexDigits 4 c.toNat).map Char.toUpper)

/-- A printable character that is neither quote nor backslash is shown as itself. -/
theorem shownChar_of_plain {c : Char} (printable : isPrintable c = true) (single : c ≠ '\'')
    (slash : c ≠ '\\') : shownChar '\'' c = [c] := by
  have lf : isPrintable '\n' = false := by decide +kernel
  have cr : isPrintable '\r' = false := by decide +kernel
  have tab : isPrintable '\t' = false := by decide +kernel
  have h1 : c ≠ '\n' := fun h => by simp [h, lf] at printable
  have h2 : c ≠ '\r' := fun h => by simp [h, cr] at printable
  have h3 : c ≠ '\t' := fun h => by simp [h, tab] at printable
  simp [shownChar, single, slash, h1, h2, h3, printable]

end CommandTree.Text
