import CommandTree.Numeric.Decimal
import CommandTree.Text.Blank
import CommandTree.Text.Split
/-!
Integers as people type them.

A typed integer may have white space around it, a plus or a minus, zeros in front, a point with nothing but zeros
behind it, and single low lines between its digits. Among the zeros in front of a positive integer low lines stand as
they like.

* `withoutZeros?`, `withoutFraction` and `withoutLowLines?` take off what does not count;
* `plainInteger?` reads what is left, which has only one written form for each integer but zero;
* `readTypedInteger?` reads a whole text.
-/

namespace CommandTree.Numeric

open Text

/-! ### What does not count -/

/-- Drops a plus, behind which no minus may stand. -/
def withoutPlus? : List Char → Option (List Char)
  | '+' :: '-' :: _ => none
  | '+' :: cs => some cs
  | cs => some cs

/-- What is left behind a zero in front: the rest from its first digit above zero, or from the character `last` before
its point or its end. -/
def behindZero? (last : Char) : List Char → Option (List Char)
  | [] => some [last]
  | c :: cs =>
    if c = '0' ∨ c = '_' then behindZero? c cs
    else if c.isDigit then some (c :: cs)
    else if c = '.' then some (last :: c :: cs)
    else none

/-- Drops the zeros in front and the low lines among them, of which one character stays where no digit follows. -/
def withoutZeros? : List Char → Option (List Char)
  | [] => none
  | c :: cs =>
    if c = '0' then behindZero? c cs
    else if c = '-' ∨ c.isDigit then some (c :: cs)
    else none

/-- Drops a point with zeros behind it, at least one and nothing else. -/
def withoutFraction (cs : List Char) : List Char :=
  match cs.dropWhile (· ≠ '.') with
  | _ :: fraction => if fraction ≠ [] ∧ fraction.all (· = '0') then cs.takeWhile (· ≠ '.') else cs
  | [] => cs

/-- Drops low lines that stand one by one between other characters. -/
def withoutLowLines? (cs : List Char) : Option (List Char) :=
  let parts := splitAt '_' cs
  if parts.all (· ≠ []) then some parts.flatten else none

/-- Without a low line there is nothing to drop. -/
theorem withoutLowLines?_of_notMem {cs : List Char} (some_char : cs ≠ []) (h : '_' ∉ cs) :
    withoutLowLines? cs = some cs := by
  have whole : splitAt '_' cs = [cs] := splitAt_of_notMem h
  simp [withoutLowLines?, whole, some_char]

/-! ### Reading -/

/-- The number that digits stand for, without a zero in front of others. -/
def plainMagnitude? (cs : List Char) : Option Nat :=
  if cs ≠ [] ∧ cs.all Char.isDigit ∧ (cs.head? = some '0' → cs = ['0']) then some (digitsValue cs) else none

/-- The integer that digits stand for, behind an optional minus and without a zero in front of others. -/
def plainInteger? : List Char → Option Int
  | '-' :: cs => (plainMagnitude? cs).map fun n => -(n : Int)
  | cs => (plainMagnitude? cs).map fun n => (n : Int)

/-- The integer that a typed text stands for. -/
def readTypedInteger? (s : String) : Option Int := do
  let cs ← withoutPlus? (strip isSpace s.toList)
  let cs ← withoutZeros? cs
  let cs ← withoutLowLines? (withoutFraction cs)
  plainInteger? cs

end CommandTree.Numeric
