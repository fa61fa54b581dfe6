/-!
Which characters may stand in a bare word.

A command file is made of bare words, quoted strings and three structural characters. A bare word is a
run of printable ASCII characters other than the structural characters and the quotation mark.

* `isWordChar_of_isStructural`, `isWordChar_quotationMark`: the special characters belong to no word;
* `lt_of_isWordChar`: every word character lies above the space, so blanks separate words.
-/

namespace CommandTree.Text

/-- The characters that are tokens by themselves: the two braces and the semicolon. -/
def isStructural (c : Char) : Bool :=
  c == '{' || c == '}' || c == ';'

/-- The characters of which bare words consist. -/
def isWordChar (c : Char) : Bool :=
  decide ('!' ≤ c) && decide (c ≤ '~') && !isStructural c && c != '"'

/-- The characters that end a line; a carriage return and a line feed in a row end one line together. -/
def isLineBreak (c : Char) : Bool :=
  c == '\r' || c == '\n'

/-- A structural character belongs to no word. -/
theorem isWordChar_of_isStructural {c : Char} (h : isStructural c = true) : isWordChar c = false := by
  simp [isWordChar, h]

/-- The quotation mark belongs to no word. -/
theorem isWordChar_quotationMark : isWordChar '"' = false := rfl

/-- Every word character lies above the space, so blanks separate words. -/
theorem lt_of_isWordChar {c : Char} (h : isWordChar c = true) : ' ' < c := by
  simp only [isWordChar, Bool.and_eq_true, decide_eq_true_eq] at h
  have h1 : '!' ≤ c := h.1.1.1
  rw [Char.le_def, UInt32.le_iff_toNat_le] at h1
  rw [Char.lt_def, UInt32.lt_iff_toNat_lt]
  have h2 : ('!' : Char).val.toNat = 33 := rfl
  have h3 : (' ' : Char).val.toNat = 32 := rfl
  omega

end CommandTree.Text
