import CommandTree.Text.Word
/-!
Quoted strings: how a text is written between quotation marks, and when it has to be.

Inside quotation marks seven characters are written as a backslash and a letter or the character itself. Reading
is more liberal than writing: a backslash before any other character stands for that character.

* `unescape_of_escape?`: what is written for a character reads back as that character;
* `needsQuotes_eq_false_iff`: a text is written bare exactly when it is a nonempty run of word characters that
  does not open a comment.
-/

namespace CommandTree.Text

/-! ### Escapes -/

/-- The character that follows the backslash when `c` is written inside quotation marks, if `c` needs one. -/
def escape? : Char → Option Char
  | '\n' => some 'n'
  | '\t' => some 't'
  | '\r' => some 'r'
  | '\x08' => some 'b'
  | '\x0c' => some 'f'
  | '"' => some '"'
  | '\\' => some '\\'
  | _ => none

/-- The character that a backslash followed by `c` stands for. -/
def unescape : Char → Char
  | 'n' => '\n'
  | 't' => '\t'
  | 'r' => '\r'
  | 'b' => '\x08'
  | 'f' => '\x0c'
  | c => c

/-- What is written for a character reads back as that character. -/
theorem unescape_of_escape? {c e : Char} (h : escape? c = some e) : unescape e = c := by
  unfold escape? at h
  split at h <;> simp_all
  all_goals subst h; rfl

/-! ### Writing -/

/-- The characters of a text as they stand between quotation marks. -/
def escaped (cs : List Char) : List Char :=
  cs.flatMap fun c => match escape? c with
    | some e => ['\\', e]
    | none => [c]

/-- A text between quotation marks. -/
def quote (s : String) : String :=
  String.ofList ('"' :: (escaped s.toList ++ ['"']))

/-- Whether the characters open a comment, so that a word must not begin with them. -/
def opensComment : List Char → Bool
  | '/' :: '/' :: _ => true
  | '/' :: '*' :: _ => true
  | _ => false

/-- Whether a text has to be quoted to be read as one string. -/
def needsQuotes (s : String) : Bool :=
  s.toList.isEmpty || opensComment s.toList || !s.toList.all isWordChar

/-- A text as one string token: bare where that is possible, else quoted. -/
def formatToken (s : String) : String :=
  if needsQuotes s then quote s else s

/-- A text is written bare exactly when it is a nonempty run of word characters that opens no comment. -/
theorem needsQuotes_eq_false_iff {s : String} :
    needsQuotes s = false ↔
      s.toList ≠ [] ∧ opensComment s.toList = false ∧ ∀ c ∈ s.toList, isWordChar c = true := by
  simp [needsQuotes, and_assoc]

end CommandTree.Text
