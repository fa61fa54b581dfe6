import CommandTree.Proofs.Simulation
/-!
The lexer as a machine that takes one character at a time.

Between two accesses to the stream a lexer knows little: what it is in the midst of, the characters of the token so far, and
whether a character must be handed back. A machine makes these states explicit. Each step reads one character, or meets an
end or a failure, or hands one character back; so the number of steps is the number of accesses to the stream.

* `Machine.Mode` is what the machine is in the midst of, `Machine.Mode.reads` what it does with what is read next, and
  `Machine.step` a step;
* `Machine.outcome` is what a machine computes, as the scanners find it; `Machine.outcome_ofLexer`: at the beginning this is
  the next token of the lexer;
* `Machine.outcome_step`: **a step leaves it as it is**.
-/

namespace CommandTree

open Text

/-! ### The machine -/

/-- What a lexer is in the midst of. -/
inductive Machine.Mode where
  | blank
  | slash
  | lineComment
  -- a block comment; `star` tells whether the character before was a star of it
  | blockComment (star : Bool)
  -- what follows a carriage return, in a block comment or outside
  | carriage (inComment : Bool)
  -- a word that begins with the given characters
  | word (before : List Char)
  | quoted (before : List Char)
  | escape (before : List Char)

/-- What a machine does next. -/
inductive Machine.Task where
  | read (mode : Machine.Mode)
  | halt (found : Computed InputFailure Token) (ended : Bool)

/-- A lexer between two accesses to its stream. -/
structure Machine where
  task : Machine.Task
  -- the character to hand back before that, if there is one
  back : Option Char
  scanner : Scanner

namespace Machine.Mode

/-- What a line break stands in. -/
def around (inComment : Bool) : Mode := if inComment then .blockComment false else .blank

/-- The machine behind a character that begins a line break. -/
def lineBreak (inComment : Bool) (c : Char) (s : Scanner) : Machine :=
  ⟨.read (if c = '\r' then .carriage inComment else around inComment), none, { s with line := s.line + 1 }⟩

/-- What is to be done behind the first character of a token. -/
def begin (c : Char) (line : Nat) : Task :=
  match Token.ofStructural? c with
  | some t => .halt (.item t) false
  | none =>
    if c = '"' then .read (.quoted [])
    else if isWordChar c then .read (.word [c])
    else .halt (.failed (.parse ⟨.unknownCharacter c, line, none⟩)) false

/-- Stops with a complaint about the current line. -/
def complain (complaint : Complaint) (s : Scanner) : Machine :=
  ⟨.halt (.failed (.parse ⟨complaint, s.line, none⟩)) false, none, s⟩

/-- The machine behind a character, or behind an end. -/
def reads (s : Scanner) : Mode → Option Char → Machine
  | blank, none => ⟨.halt (.item .endOfInput) true, none, s⟩
  | blank, some c =>
    if isLineBreak c then lineBreak false c s
    else if c ≤ ' ' then ⟨.read .blank, none, s⟩
    else if c = '/' then ⟨.read .slash, none, s⟩
    else ⟨begin c s.line, none, s⟩
  | slash, none => ⟨.read (.word ['/']), none, s⟩
  | slash, some c =>
    if c = '/' then ⟨.read .lineComment, none, s⟩
    else if c = '*' then ⟨.read (.blockComment false), none, s⟩
    else ⟨.read (.word ['/']), some c, s⟩
  | lineComment, none => ⟨.read .blank, none, s⟩
  | lineComment, some c => if isLineBreak c then ⟨.read .blank, some c, s⟩ else ⟨.read .lineComment, none, s⟩
  | blockComment _, none => complain .unterminatedComment s
  | blockComment star, some c =>
    if isLineBreak c then lineBreak true c s
    else if star && c == '/' then ⟨.read .blank, none, s⟩
    else ⟨.read (.blockComment (c == '*')), none, s⟩
  | carriage inComment, none => ⟨.read (around inComment), none, s⟩
  | carriage inComment, some c => ⟨.read (around inComment), if c = '\n' then none else some c, s⟩
  | word before, none => ⟨.halt (.item (.string (String.ofList before))) false, none, s⟩
  | word before, some c =>
    if isWordChar c then ⟨.read (.word (before ++ [c])), none, s⟩
    else ⟨.halt (.item (.string (String.ofList before))) false, some c, s⟩
  | quoted _, none => complain .unterminatedQuote s
  | quoted before, some c =>
    if isLineBreak c then complain .unterminatedQuote s
    else if c = '"' then ⟨.halt (.item (.string (String.ofList before))) false, none, s⟩
    else if c = '\\' then ⟨.read (.escape before), none, s⟩
    else ⟨.read (.quoted (before ++ [c])), none, s⟩
  | escape _, none => complain .unterminatedQuote s
  | escape before, some c =>
    if isLineBreak c then complain .unterminatedQuote s else ⟨.read (.quoted (before ++ [unescape c])), none, s⟩

end Machine.Mode

namespace Machine

/-- A machine that begins to compute the next token of a lexer. -/
def ofLexer (l : Lexer) : Machine := ⟨if l.ended then .halt .finished true else .read .blank, none, l.scanner⟩

/-- The machine that has computed a token. -/
def ofComputed (r : Lexer × Computed InputFailure Token) : Machine := ⟨.halt r.2 r.1.ended, none, r.1.scanner⟩

/-- The scanner, once the character is handed back. -/
def settled (m : Machine) : Scanner :=
  match m.back with
  | none => m.scanner
  | some c => m.scanner.withStream (m.scanner.stream.unread c)

/-- One access to the stream. -/
def step (m : Machine) : Machine :=
  match m.back, m.task with
  | some _, task => ⟨task, none, m.settled⟩
  | none, .halt _ _ => m
  | none, .read mode =>
    match m.scanner.stream.read with
    | .failed cause => ⟨.halt (.failed (.ofCause cause m.scanner.line)) false, none, m.scanner⟩
    | .finished rest => mode.reads (m.scanner.withStream rest) none
    | .char c rest => mode.reads (m.scanner.withStream rest) (some c)

end Machine

/-! ### What the computation comes to -/

namespace Scanner

/-- Passes over a line feed, as it is behind a carriage return. -/
def skipFeed (s : Scanner) : Scan Unit :=
  match s.stream.read with
  | .failed cause => s.fail cause
  | .finished rest => .ok () (s.withStream rest)
  | .char c rest => .ok () (s.withStream (if c = '\n' then rest else rest.unread c))

/-- Passes over blanks and comments behind a slash, which may open the first of them or be the character behind them. -/
def skipSlash (s : Scanner) : Scan (Option Char) :=
  match s.stream.read with
  | .failed cause => s.fail cause
  | .finished rest => .ok (some '/') (s.withStream rest)
  | .char c rest =>
    if c = '/' then (s.withStream rest).skipLineComment.andThen fun _ s => s.skipBlank
    else if c = '*' then ((s.withStream rest).skipBlockComment false).andThen fun _ s => s.skipBlank
    else .ok (some '/') (s.withStream (rest.unread c))

/-- Takes the rest of a quoted string behind a backslash. -/
def readEscape (s : Scanner) : Scan (List Char) :=
  match s.stream.read with
  | .failed cause => s.fail cause
  | .finished rest => (s.withStream rest).complain .unterminatedQuote
  | .char c rest =>
    if isLineBreak c then (s.withStream rest).complain .unterminatedQuote
    else (s.withStream rest).readQuoted.andThen fun cs s => .ok (unescape c :: cs) s

/-- Goes on behind a line break. -/
def resume (inComment : Bool) (s : Scanner) : Scan (Option Char) :=
  if inComment then (s.skipBlockComment false).andThen fun _ s => s.skipBlank else s.skipBlank

lemma lineBreak_eq (c : Char) (s : Scanner) :
    s.lineBreak c = if c = '\r' then { s with line := s.line + 1 : Scanner }.skipFeed
      else .ok () { s with line := s.line + 1 } := by
  rw [lineBreak]
  rfl

end Scanner

namespace Machine.Mode

/-- What is computed in the midst of something, as the scanners find it. -/
def outcome (s : Scanner) : Mode → Lexer × Computed InputFailure Token
  | blank => Lexer.ofBlank s.skipBlank
  | slash => Lexer.ofBlank s.skipSlash
  | lineComment => Lexer.ofBlank (s.skipLineComment.andThen fun _ s => s.skipBlank)
  | blockComment star => Lexer.ofBlank ((s.skipBlockComment star).andThen fun _ s => s.skipBlank)
  | carriage inComment => Lexer.ofBlank (s.skipFeed.andThen fun _ s => s.resume inComment)
  | word before => Lexer.ofScan before s.readWord
  | quoted before => Lexer.ofScan before s.readQuoted
  | escape before => Lexer.ofScan before s.readEscape

end Machine.Mode

/-- What is computed by what is to be done. -/
def Machine.Task.outcome (s : Scanner) : Task → Lexer × Computed InputFailure Token
  | read mode => mode.outcome s
  | halt found ended => (⟨s, ended⟩, found)

/-- What a machine computes. -/
def Machine.outcome (m : Machine) : Lexer × Computed InputFailure Token := m.task.outcome m.settled

lemma Scan.andThen_assoc {α β γ : Type} (r : Scan α) (f : α → Scanner → Scan β) (g : β → Scanner → Scan γ) :
    (r.andThen f).andThen g = r.andThen fun a s => (f a s).andThen g := by
  cases r <;> rfl

namespace Machine

/-- The characters found behind one of a token belong to it. -/
lemma ofScan_andThen (before : List Char) (c : Char) (r : Scan (List Char)) :
    Lexer.ofScan before (r.andThen fun cs s => .ok (c :: cs) s) = Lexer.ofScan (before ++ [c]) r := by
  cases r with
  | error e s => rfl
  | ok cs s => simp only [Scan.andThen, Lexer.ofScan, List.append_assoc, List.singleton_append]

lemma outcome_lineBreak (inComment : Bool) (c : Char) (s : Scanner) :
    (Mode.lineBreak inComment c s).outcome =
      Lexer.ofBlank ((s.lineBreak c).andThen fun _ s => s.resume inComment) := by
  rw [Scanner.lineBreak_eq, Mode.lineBreak]
  split
  · rfl
  · cases inComment <;> rfl

lemma outcome_begin (c : Char) (s : Scanner) :
    (Mode.begin c s.line).outcome s = Lexer.tokenFrom (some c) s := by
  rw [Lexer.tokenFrom, Mode.begin]
  cases Token.ofStructural? c with
  | some t => rfl
  | none =>
      simp only
      split
      · rfl
      split <;> rfl

/-- A token ends behind its characters. -/
lemma ofScan_nil (before : List Char) (s : Scanner) :
    Lexer.ofScan before (.ok [] s) = (⟨s, false⟩, .item (.string (String.ofList before))) := by
  rw [Lexer.ofScan, List.append_nil]

/-- A mode computes what it does with what is read next. -/
lemma outcome_mode (mode : Mode) (s : Scanner) :
    mode.outcome s = match s.stream.read with
      | .failed cause => (⟨s, false⟩, .failed (.ofCause cause s.line))
      | .finished rest => (mode.reads (s.withStream rest) none).outcome
      | .char c rest => (mode.reads (s.withStream rest) (some c)).outcome := by
  cases mode with
  | blank =>
      rw [Mode.outcome, Scanner.skipBlank_eq]
      cases s.stream.read with
      | failed cause => simp only [Scanner.fail_eq, Lexer.ofBlank]
      | finished rest => rfl
      | char c rest =>
        simp only [Mode.reads]
        split
        · rw [outcome_lineBreak]
          rfl
        split
        · rfl
        split
        · rename_i isSlash
          subst isSlash
          rfl
        · rw [Lexer.ofBlank, ← outcome_begin]
          rfl
  | slash =>
      rw [Mode.outcome, Scanner.skipSlash]
      cases s.stream.read with
      | failed cause => simp only [Scanner.fail_eq, Lexer.ofBlank]
      | finished rest => rfl
      | char c rest =>
        simp only [Mode.reads]
        split
        · rfl
        split <;> rfl
  | lineComment =>
      rw [Mode.outcome, Scanner.skipLineComment_eq]
      cases s.stream.read with
      | failed cause => simp only [Scanner.fail_eq, Scan.andThen, Lexer.ofBlank]
      | finished rest => rfl
      | char c rest =>
        simp only [Mode.reads]
        split <;> rfl
  | blockComment star =>
      rw [Mode.outcome, Scanner.skipBlockComment_eq]
      cases s.stream.read with
      | failed cause => simp only [Scanner.fail_eq, Scan.andThen, Lexer.ofBlank]
      | finished rest => rfl
      | char c rest =>
        simp only [Mode.reads]
        split
        · rw [outcome_lineBreak, Scan.andThen_assoc]
          rfl
        split <;> rfl
  | carriage inComment =>
      rw [Mode.outcome, Scanner.skipFeed]
      cases s.stream.read with
      | failed cause => simp only [Scanner.fail_eq, Scan.andThen, Lexer.ofBlank]
      | finished rest => cases inComment <;> rfl
      | char c rest =>
        simp only [Mode.reads]
        split <;> cases inComment <;> rfl
  | word before =>
      rw [Mode.outcome, Scanner.readWord_eq]
      cases s.stream.read with
      | failed cause => simp only [Scanner.fail_eq, Lexer.ofScan]
      | finished rest => exact ofScan_nil before _
      | char c rest =>
        simp only [Mode.reads]
        split
        · rw [ofScan_andThen]
          rfl
        · exact ofScan_nil before _
  | quoted before =>
      rw [Mode.outcome, Scanner.readQuoted_eq]
      cases s.stream.read with
      | failed cause => simp only [Scanner.fail_eq, Lexer.ofScan]
      | finished rest => rfl
      | char c rest =>
        simp only [Mode.reads]
        split
        · rfl
        split
        · exact ofScan_nil before _
        split
        · rename_i isSlash
          subst isSlash
          rfl
        · rw [ofScan_andThen]
          rfl
  | escape before =>
      rw [Mode.outcome, Scanner.readEscape]
      cases s.stream.read with
      | failed cause => simp only [Scanner.fail_eq, Lexer.ofScan]
      | finished rest => rfl
      | char c rest =>
        simp only [Mode.reads]
        split
        · rfl
        · rw [ofScan_andThen]
          rfl

/-- **A step leaves what is computed as it is.** -/
lemma outcome_step (m : Machine) : m.step.outcome = m.outcome := by
  obtain ⟨task, back, s⟩ := m
  cases back with
  | some c => rfl
  | none =>
      cases task with
      | halt found ended => rfl
      | read mode =>
          have whole : Machine.outcome ⟨.read mode, none, s⟩ = mode.outcome s := rfl
          rw [whole, outcome_mode, step]
          cases s.stream.read <;> rfl

/-- What a lexer computes is what the machine does that begins with it. -/
lemma outcome_ofLexer (l : Lexer) : (ofLexer l).outcome = l.compute := by
  obtain ⟨s, ended⟩ := l
  cases ended with
  | true => exact (Lexer.compute_of_ended rfl).symm
  | false =>
      have going : Lexer.ended ⟨s, false⟩ = false := rfl
      exact (Lexer.compute_of_not_ended going).symm

end Machine

end CommandTree
