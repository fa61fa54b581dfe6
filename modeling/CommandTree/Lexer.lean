import CommandTree.CharStream
import CommandTree.Lookahead
import CommandTree.ParseError
import CommandTree.Text.Quoted
/-!
The tokens of a stream of characters.

Between tokens stand blanks, which are all characters up to the space, and comments: `//` up to the end of the line, and
from `/*` to the next `*/`. A token is a structural character, a string between quotation marks that ends on its
line, or a bare word as long as possible. Lines are counted where a line break is passed over; a carriage return with
a line feed behind it is one line break.

* `Scanner` reads characters and counts lines: `skipBlank`, `readWord`, `readQuoted`;
* `Lexer.compute` is the next token; the end of the input is a token too, which comes once;
* `TokenStream` is a lexer with one token of lookahead.
-/

namespace CommandTree

open Text

/-- A failure while a token is computed. -/
inductive InputFailure where
  | parse (error : ParseError)
  -- something else went wrong in the stream
  | interrupted (cause : Cause)
  deriving DecidableEq, Repr

/-- The wording of a failure. -/
def InputFailure.message : InputFailure → String
  | parse e => e.describe
  | interrupted _ => "Exception whilst computing next value"

/-! ### Characters and lines -/

/-- A stream of characters with the number of the current line. -/
structure Scanner where
  stream : CharStream
  line : Nat
  deriving DecidableEq, Repr

/-- What a scanner finds, or how it fails, with the state that it leaves. -/
abbrev Scan (α : Type) : Type := EStateM.Result InputFailure Scanner α

namespace Scanner

/-- How much is left to scan at most. -/
def size (s : Scanner) : Nat := s.stream.size

/-- Puts the characters that are left in place of the old ones. -/
def withStream (s : Scanner) (stream : CharStream) : Scanner := { s with stream }

/-- Fails with a complaint about the current line. -/
def complain {α : Type} (s : Scanner) (complaint : Complaint) : Scan α :=
  .error (.parse ⟨complaint, s.line, none⟩) s

/-- Fails because the stream does. -/
def fail {α : Type} (s : Scanner) (cause : Cause) : Scan α :=
  if cause.isUnreadable then .error (.parse ⟨.unreadable cause, s.line, some cause⟩) s
  else .error (.interrupted cause) s

/-- Counts a line break that begins with the character just read. -/
def lineBreak (c : Char) (s : Scanner) : Scan Unit :=
  let s := { s with line := s.line + 1 }
  if c = '\r' then
    match s.stream.read with
    | .failed cause => s.fail cause
    | .finished rest => .ok () (s.withStream rest)
    | .char d rest => .ok () (s.withStream (if d = '\n' then rest else rest.unread d))
  else .ok () s

/-- Counting a line break leaves no more than there was. -/
theorem size_lineBreak {c : Char} {s s' : Scanner} (h : s.lineBreak c = .ok () s') : s'.size ≤ s.size := by
  unfold lineBreak at h
  simp only at h
  split at h
  · split at h
    · simp only [fail] at h
      split at h <;> cases h
    · rename_i ended
      cases h
      exact CharStream.size_le_of_finished ended
    · rename_i found
      cases h
      by_cases feed : ‹Char› = '\n'
      · simp only [size, withStream, if_pos feed]
        exact Nat.le_of_lt (CharStream.size_lt_of_read found)
      · simp only [size, withStream, if_neg feed]
        exact CharStream.size_unread_le_of_read found
  · cases h
    exact Nat.le_refl _

/-! ### Blanks and comments -/

/-- Passes over the rest of a line, but not over the break that ends it. -/
def skipLineComment (s : Scanner) : Scan Unit :=
  match _h : s.stream.read with
  | .failed cause => s.fail cause
  | .finished rest => .ok () (s.withStream rest)
  | .char c rest =>
    if isLineBreak c then .ok () (s.withStream (rest.unread c))
    else skipLineComment (s.withStream rest)
termination_by s.size
decreasing_by exact CharStream.size_lt_of_read _h

/-- Passes over a block comment; `star` tells whether the character before was a star of it. -/
def skipBlockComment (star : Bool) (s : Scanner) : Scan Unit :=
  match _h : s.stream.read with
  | .failed cause => s.fail cause
  | .finished rest => (s.withStream rest).complain .unterminatedComment
  | .char c rest =>
    if isLineBreak c then
      match _counted : lineBreak c (s.withStream rest) with
      | .error e s' => .error e s'
      | .ok _ s' => skipBlockComment false s'
    else if star && c == '/' then .ok () (s.withStream rest)
    else skipBlockComment (c == '*') (s.withStream rest)
termination_by s.size
decreasing_by
  · exact Nat.lt_of_le_of_lt (size_lineBreak _counted) (CharStream.size_lt_of_read _h)
  · exact CharStream.size_lt_of_read _h

/-- A line comment leaves no more than there was. -/
theorem size_skipLineComment {s s' : Scanner} (h : s.skipLineComment = .ok () s') : s'.size ≤ s.size := by
  fun_induction skipLineComment s with
  | case1 => simp only [fail] at h; split at h <;> cases h
  | case2 s rest ended => cases h; exact CharStream.size_le_of_finished ended
  | case3 s c rest found => cases h; exact CharStream.size_unread_le_of_read found
  | case4 s c rest found _ ih =>
    exact Nat.le_trans (ih h) (Nat.le_of_lt (CharStream.size_lt_of_read found))

/-- A block comment leaves no more than there was. -/
theorem size_skipBlockComment {star : Bool} {s s' : Scanner} (h : s.skipBlockComment star = .ok () s') :
    s'.size ≤ s.size := by
  fun_induction skipBlockComment star s with
  | case1 => simp only [fail] at h; split at h <;> cases h
  | case2 => cases h
  | case3 => cases h
  | case4 star s c rest found _ u s1 counted ih =>
    exact Nat.le_trans (ih h) (Nat.le_trans (size_lineBreak counted)
      (Nat.le_of_lt (CharStream.size_lt_of_read found)))
  | case5 star s c rest found => cases h; exact Nat.le_of_lt (CharStream.size_lt_of_read found)
  | case6 star s c rest found _ _ ih =>
    exact Nat.le_trans (ih h) (Nat.le_of_lt (CharStream.size_lt_of_read found))

/-- Passes over blanks and comments and takes the character behind them, if there is one. -/
def skipBlank (s : Scanner) : Scan (Option Char) :=
  match _h : s.stream.read with
  | .failed cause => s.fail cause
  | .finished rest => .ok none (s.withStream rest)
  | .char c rest =>
    if isLineBreak c then
      match _counted : lineBreak c (s.withStream rest) with
      | .error e s' => .error e s'
      | .ok _ s' => skipBlank s'
    else if c ≤ ' ' then skipBlank (s.withStream rest)
    else if c = '/' then
      match _h' : rest.read with
      | .failed cause => (s.withStream rest).fail cause
      | .finished rest' => .ok (some c) (s.withStream rest')
      | .char d rest' =>
        if d = '/' then
          match _skipped : skipLineComment (s.withStream rest') with
          | .error e s' => .error e s'
          | .ok _ s' => skipBlank s'
        else if d = '*' then
          match _skipped : skipBlockComment false (s.withStream rest') with
          | .error e s' => .error e s'
          | .ok _ s' => skipBlank s'
        else .ok (some c) (s.withStream (rest'.unread d))
    else .ok (some c) (s.withStream rest)
termination_by s.size
decreasing_by
  · exact Nat.lt_of_le_of_lt (size_lineBreak _counted) (CharStream.size_lt_of_read _h)
  · exact CharStream.size_lt_of_read _h
  · exact Nat.lt_of_le_of_lt (size_skipLineComment _skipped)
      (Nat.lt_trans (CharStream.size_lt_of_read _h') (CharStream.size_lt_of_read _h))
  · exact Nat.lt_of_le_of_lt (size_skipBlockComment _skipped)
      (Nat.lt_trans (CharStream.size_lt_of_read _h') (CharStream.size_lt_of_read _h))

/-! ### Words and quoted strings -/

/-- Takes the rest of a word. -/
def readWord (s : Scanner) : Scan (List Char) :=
  match _h : s.stream.read with
  | .failed cause => s.fail cause
  | .finished rest => .ok [] (s.withStream rest)
  | .char c rest =>
    if isWordChar c then
      match readWord (s.withStream rest) with
      | .error e s' => .error e s'
      | .ok cs s' => .ok (c :: cs) s'
    else .ok [] (s.withStream (rest.unread c))
termination_by s.size
decreasing_by exact CharStream.size_lt_of_read _h

/-- Takes the rest of a quoted string with the quotation mark that ends it, and undoes its escapes. -/
def readQuoted (s : Scanner) : Scan (List Char) :=
  match _h : s.stream.read with
  | .failed cause => s.fail cause
  | .finished rest => (s.withStream rest).complain .unterminatedQuote
  | .char c rest =>
    if isLineBreak c then (s.withStream rest).complain .unterminatedQuote
    else if c = '"' then .ok [] (s.withStream rest)
    else if c = '\\' then
      match _h' : rest.read with
      | .failed cause => (s.withStream rest).fail cause
      | .finished rest' => (s.withStream rest').complain .unterminatedQuote
      | .char d rest' =>
        if isLineBreak d then (s.withStream rest').complain .unterminatedQuote
        else
          match readQuoted (s.withStream rest') with
          | .error e s' => .error e s'
          | .ok cs s' => .ok (unescape d :: cs) s'
    else
      match readQuoted (s.withStream rest) with
      | .error e s' => .error e s'
      | .ok cs s' => .ok (c :: cs) s'
termination_by s.size
decreasing_by
  · exact Nat.lt_trans (CharStream.size_lt_of_read _h') (CharStream.size_lt_of_read _h)
  · exact CharStream.size_lt_of_read _h

/-! ### What scanning leaves -/

/-- Blanks and comments leave no more than there was, and a character behind them leaves less. -/
theorem size_skipBlank {s s' : Scanner} {o : Option Char} (h : s.skipBlank = .ok o s') :
    s'.size ≤ s.size ∧ (o.isSome → s'.size < s.size) := by
  fun_induction skipBlank s with
  | case1 => simp only [fail] at h; split at h <;> cases h
  | case2 s rest ended =>
    cases h
    exact ⟨CharStream.size_le_of_finished ended, nofun⟩
  | case3 => cases h
  | case4 s c rest found _ u s1 counted ih =>
    have := size_lineBreak counted
    have := CharStream.size_lt_of_read found
    have := ih h
    simp only [size, withStream] at *
    omega
  | case5 s c rest found _ _ ih =>
    have := CharStream.size_lt_of_read found
    have := ih h
    simp only [size, withStream] at *
    omega
  | case6 => simp only [fail] at h; split at h <;> cases h
  | case7 s rest rest' ended found =>
    cases h
    have := CharStream.size_lt_of_read found
    have := CharStream.size_le_of_finished ended
    simp only [size, withStream]
    omega
  | case8 => cases h
  | case9 s rest rest' u s1 skipped found _ _ found' ih =>
    have := CharStream.size_lt_of_read found
    have := CharStream.size_lt_of_read found'
    have := size_skipLineComment skipped
    have := ih h
    simp only [size, withStream] at *
    omega
  | case10 => cases h
  | case11 s rest rest' u s1 skipped found _ _ found' _ ih =>
    have := CharStream.size_lt_of_read found
    have := CharStream.size_lt_of_read found'
    have := size_skipBlockComment skipped
    have := ih h
    simp only [size, withStream] at *
    omega
  | case12 s rest d rest' found' _ _ found =>
    cases h
    have := CharStream.size_lt_of_read found
    have := CharStream.size_unread_le_of_read (d := d) found'
    simp only [size, withStream]
    omega
  | case13 s c rest found =>
    cases h
    have := CharStream.size_lt_of_read found
    simp only [size, withStream]
    omega

/-- A word leaves no more than there was. -/
theorem size_readWord {s s' : Scanner} {cs : List Char} (h : s.readWord = .ok cs s') : s'.size ≤ s.size := by
  fun_induction readWord s generalizing cs with
  | case1 => simp only [fail] at h; split at h <;> cases h
  | case2 s rest ended => cases h; exact CharStream.size_le_of_finished ended
  | case3 => cases h
  | case4 s c rest found _ ds s1 _ ih =>
    cases h
    exact Nat.le_trans (ih ‹_›) (Nat.le_of_lt (CharStream.size_lt_of_read found))
  | case5 s c rest found => cases h; exact CharStream.size_unread_le_of_read found

/-- A quoted string leaves less than there was. -/
theorem size_readQuoted {s s' : Scanner} {cs : List Char} (h : s.readQuoted = .ok cs s') :
    s'.size < s.size := by
  fun_induction readQuoted s generalizing cs with
  | case1 => simp only [fail] at h; split at h <;> cases h
  | case2 => cases h
  | case3 => cases h
  | case4 s rest found => cases h; exact CharStream.size_lt_of_read found
  | case5 => simp only [fail] at h; split at h <;> cases h
  | case6 => cases h
  | case7 => cases h
  | case8 => cases h
  | case9 s rest d rest' found' _ ds s1 _ found _ _ ih =>
    cases h
    exact Nat.lt_trans (ih ‹_›)
      (Nat.lt_trans (CharStream.size_lt_of_read found') (CharStream.size_lt_of_read found))
  | case10 => cases h
  | case11 s c rest found _ _ _ ds s1 _ ih =>
    cases h
    exact Nat.lt_trans (ih ‹_›) (CharStream.size_lt_of_read found)

end Scanner

/-! ### Tokens -/

/-- A scanner that knows whether it has handed out the end of the input. -/
structure Lexer where
  scanner : Scanner
  ended : Bool
  deriving DecidableEq, Repr

namespace Lexer

/-- A lexer at the beginning of a stream. -/
def ofStream (stream : CharStream) : Lexer := ⟨⟨stream, 1⟩, false⟩

/-- The current line, counted from 1. -/
def line (l : Lexer) : Nat := l.scanner.line

/-- How many tokens are left at most. -/
def size (l : Lexer) : Nat := l.scanner.size + if l.ended then 0 else 1

/-- A string token that a scan has found. -/
def ofScan (before : List Char) : Scan (List Char) → Lexer × Computed InputFailure Token
  | .ok cs s => (⟨s, false⟩, .item (.string (String.ofList (before ++ cs))))
  | .error e s => (⟨s, false⟩, .failed e)

/-- The next token. -/
def compute (l : Lexer) : Lexer × Computed InputFailure Token :=
  if l.ended then (l, .finished)
  else
    match l.scanner.skipBlank with
    | .error e s => (⟨s, false⟩, .failed e)
    | .ok none s => (⟨s, true⟩, .item .endOfInput)
    | .ok (some c) s =>
      match Token.ofStructural? c with
      | some t => (⟨s, false⟩, .item t)
      | none =>
        if c = '"' then ofScan [] s.readQuoted
        else if isWordChar c then ofScan [c] s.readWord
        else (⟨s, false⟩, .failed (.parse ⟨.unknownCharacter c, s.line, none⟩))

/-- A token found by a scan leaves what the scan leaves. -/
theorem size_ofScan {before : List Char} {r : Scan (List Char)} {l : Lexer} {t : Token}
    (h : ofScan before r = (l, .item t)) : ∃ cs s, r = .ok cs s ∧ l = ⟨s, false⟩ := by
  unfold ofScan at h
  split at h
  · cases h
    exact ⟨_, _, rfl, rfl⟩
  · cases h

/-- A token leaves less than there was. -/
theorem size_lt_of_compute {l l' : Lexer} {t : Token} (h : l.compute = (l', .item t)) :
    l'.size < l.size := by
  unfold compute at h
  split at h
  · cases h
  · rename_i going
    have hl : l.size = l.scanner.size + 1 := by simp [size, going]
    rw [hl]
    split at h
    · cases h
    · rename_i blank
      cases h
      have := (Scanner.size_skipBlank blank).1
      simpa [size] using Nat.lt_succ_of_le this
    · rename_i blank
      have hb := (Scanner.size_skipBlank blank).2 rfl
      split at h
      · cases h
        simpa [size] using hb
      · split at h
        · obtain ⟨cs, s, scanned, rfl⟩ := size_ofScan h
          have := Scanner.size_readQuoted scanned
          simp only [size, Bool.false_eq_true, if_false]
          omega
        · split at h
          · obtain ⟨cs, s, scanned, rfl⟩ := size_ofScan h
            have := Scanner.size_readWord scanned
            simp only [size, Bool.false_eq_true, if_false]
            omega
          · cases h

end Lexer

end CommandTree
