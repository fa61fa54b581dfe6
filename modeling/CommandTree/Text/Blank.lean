import CommandTree.Text.Printable
import CommandTree.Text.Split
/-!
Blanks: white space, and in a wider sense the four information separators of ASCII too.

* `isSpace` and `isBlank` are the two classes;
* `isBlank_of_isSpace`: the first lies in the second;
* `strip` takes the characters of a class off both ends;
* `words` are what stands between the blanks of a text.
-/

namespace CommandTree.Text

/-- The code points of white space, as closed ranges in increasing order. -/
def spaceRanges : List (Nat × Nat) :=
  [(0x9, 0xD), (0x20, 0x20), (0x85, 0x85), (0xA0, 0xA0), (0x1680, 0x1680), (0x2000, 0x200A), (0x2028, 0x2029),
   (0x202F, 0x202F), (0x205F, 0x205F), (0x3000, 0x3000)]

/-- Whether a character is white space. -/
def isSpace (c : Char) : Bool := inRanges spaceRanges c.toNat

/-- Whether a character is white space or an information separator. -/
def isBlank (c : Char) : Bool := isSpace c || (decide (0x1C ≤ c.toNat) && decide (c.toNat ≤ 0x1F))

/-- White space is blank. -/
theorem isBlank_of_isSpace {c : Char} (h : isSpace c = true) : isBlank c = true := by
  rw [isBlank, h, Bool.true_or]

/-- Characters without the ones of a class at both ends. -/
def strip (drops : Char → Bool) (cs : List Char) : List Char :=
  ((cs.dropWhile drops).reverse.dropWhile drops).reverse

/-- The words between the blanks of a text. -/
def words (s : String) : List String :=
  ((splitAt ' ' (s.toList.map fun c => if isBlank c then ' ' else c)).filter (· ≠ [])).map .ofList

end CommandTree.Text
