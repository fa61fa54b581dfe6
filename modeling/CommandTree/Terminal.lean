import CommandTree.Text.Blank
import CommandTree.Text.CellWidth
import CommandTree.Text.Split
/-!
How text appears on a terminal of fixed width.

Some control characters are dropped, and tabs are replaced by blanks up to the next of the stops, which are eight cells
apart. A title stands in a panel with rounded corners, its lines centred. A tab divides a line into pieces, and
characters act on their neighbours only within a piece.

* `printedLines` are the lines of a text as they are printed, `printedPieces` the same lines in their pieces;
* `panel` is a title in its panel;
* `withoutEscapes` drops the sequences that control colours and the like.
-/

namespace CommandTree.Terminal

open Text

-- Sums start from the core zero, also where a module beside this one brings another.
attribute [local instance (high)] Zero.ofOfNat0

/-- How many cells a line has. -/
def width : Nat := 120

/-- How far tab stops are apart. -/
def tabStop : Nat := 8

/-- The control characters that are never printed: bell, backspace, vertical tab, form feed, carriage return. -/
def isDropped (c : Char) : Bool :=
  c == '\x07' || c == '\x08' || c == '\x0b' || c == '\x0c' || c == '\r'

/-- A text without the control characters that are never printed. -/
def withoutControls (s : String) : String := String.ofList (s.toList.filter fun c => !isDropped c)

/-- The pieces of a line, from the parts between its tabs. A tab ends a piece: it becomes a blank and then further
blanks up to the next stop. `column` is the number of cells before the parts. -/
def expandTabs (column : Nat) : List (List Char) → List (List Char)
  | [] => []
  | [part] => [part]
  | part :: next :: parts =>
    let reached := column + cellLength (part ++ [' '])
    let blanks := (tabStop - reached % tabStop) % tabStop
    (part ++ ' ' :: List.replicate blanks ' ') :: expandTabs (reached + blanks) (next :: parts)

/-- The lines of a text as they are printed, each in its pieces; only a line feed ends a line. -/
def printedPieces (s : String) : List (List (List Char)) :=
  (splitAt '\n' (withoutControls s).toList).map fun line => expandTabs 0 (splitAt '\t' line)

/-- The lines of a text as they are printed. -/
def printedLines (s : String) : List (List Char) := (printedPieces s).map List.flatten

/-- A text as it is printed, with a line feed at its end. -/
def printed (s : String) : String :=
  String.join ((printedLines s).map fun line => String.ofList line ++ "\n")

/-! ### Panels -/

/-- The pieces of a line without the blanks at the end of the line. -/
def trimPieces : List (List Char) → List (List Char)
  | [] => []
  | piece :: pieces =>
    let rest := trimPieces pieces
    (if rest.all List.isEmpty then (piece.reverse.dropWhile isBlank).reverse else piece) :: rest

/-- A line in the middle of so many cells, an odd blank on the right; blanks at its end do not count. The blanks around
an undivided line belong to its piece, so a joiner at its end can take in the first of them: then the line gets one
more. -/
def centred (cells : Nat) (line : List (List Char)) : String :=
  let pieces := trimPieces line
  let free := cells - cellLength pieces.flatten
  let left := List.replicate (free / 2) ' '
  let right := List.replicate (free - free / 2) ' '
  let row := match pieces with
    | [piece] => [left ++ piece ++ right]
    | pieces => left :: pieces ++ [right]
  String.ofList (row.flatten ++ List.replicate (cells - (row.map cellLength).sum) ' ')

/-- A title in a panel as wide as the terminal. -/
def panel (title : String) : String :=
  let edge := String.ofList (List.replicate (width - 2) '─')
  let rows := (printedPieces title).map fun line => "│ " ++ centred (width - 4) line ++ " │\n"
  "╭" ++ edge ++ "╮\n" ++ String.join rows ++ "╰" ++ edge ++ "╯\n"

/-! ### Control sequences -/

/-- What follows a control sequence that has been begun, or nothing if the characters do not complete one. -/
def afterSequence : List Char → Option (List Char)
  | [] => none
  | c :: cs =>
    if c.isAlpha then some cs
    else if c.isDigit || c == ';' || c == '?' then afterSequence cs
    else none

/-- A control sequence that is completed takes at least one character. -/
theorem length_afterSequence {cs rest : List Char} (h : afterSequence cs = some rest) :
    rest.length < cs.length := by
  fun_induction afterSequence cs with
  | case1 => cases h
  | case2 => cases h; exact Nat.lt_succ_self _
  | case3 c cs _ _ ih => exact Nat.lt_succ_of_lt (ih h)
  | case4 => cases h

/-- Characters without the control sequences among them. -/
def withoutEscapes (cs : List Char) : List Char :=
  match cs with
  | [] => []
  | [c] => [c]
  | c :: d :: rest =>
    if c = '\x1b' ∧ d = '[' then
      match _h : afterSequence rest with
      | some rest => withoutEscapes rest
      | none => c :: withoutEscapes (d :: rest)
    else c :: withoutEscapes (d :: rest)
termination_by cs.length
decreasing_by
  · have := length_afterSequence _h
    simp only [List.length_cons]
    omega
  · simp
  · simp

end CommandTree.Terminal
