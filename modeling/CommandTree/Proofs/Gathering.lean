import CommandTree.Proofs.Simulation
/-!
Streams of characters and the texts that they deliver.

How a text is cut into chunks, and which of its characters are at hand already, makes no difference to a lexer. To see
this a stream is compared with the one that holds all of its characters at hand.

* `CharStream.text` is what a stream still delivers, `CharStream.gathered` the stream that holds it at hand;
* `CharStream.Dense`: no chunk is empty, so no end is met before the last one; then the text alone decides what is read
  (`CharStream.Dense.delivers`);
* `Scanner.gathering`: a scanner of a dense stream proceeds like that of the gathered one;
* `Lexer.gathers_compute`: so the tokens are the same.
-/

namespace CommandTree

open Text

/-! ### Streams -/

namespace CharStream

/-- The characters that a stream still delivers. -/
def text (s : CharStream) : List Char := s.pushback ++ s.chunks.flatten

/-- The stream that holds at hand all characters that another one still delivers. -/
def gathered (s : CharStream) : CharStream := ⟨s.text, [], s.failure⟩

/-- No chunk to come is empty. -/
def Dense (s : CharStream) : Prop := [] ∉ s.chunks

lemma dense_ofChars (cs : List Char) (failure : Option Cause) : (ofChars cs failure).Dense := by
  simp [Dense, ofChars, ofChunks]

lemma text_ofChars (cs : List Char) (failure : Option Cause) : (ofChars cs failure).text = cs := by
  simp [text, ofChars, ofChunks, ← List.flatMap_def]

lemma gathered_ofChars (cs : List Char) (failure : Option Cause) :
    (ofChars cs failure).gathered = ⟨cs, [], failure⟩ := by
  rw [gathered, text_ofChars]
  rfl

/-- What a stream reads is decided by its text: the first character, or behind the last one the end or the failure. -/
inductive Delivers (s : CharStream) : Prop
  | char {c : Char} {rest : CharStream} (found : s.read = .char c rest) (text : s.text = c :: rest.text)
      (dense : rest.Dense) (failure : rest.failure = s.failure)
  | finished (found : s.read = .finished s) (text : s.text = []) (failure : s.failure = none)
  | failed {cause : Cause} (found : s.read = .failed cause) (text : s.text = []) (failure : s.failure = some cause)

/-- **The text of a dense stream decides what is read.** -/
lemma Dense.delivers {s : CharStream} (h : s.Dense) : s.Delivers := by
  obtain ⟨pushback, chunks, failure⟩ := s
  cases pushback with
  | cons c rest =>
      let left : CharStream := ⟨rest, chunks, failure⟩
      have dense : left.Dense := h
      exact .char rfl rfl dense rfl
  | nil =>
      cases chunks with
      | nil =>
          cases failure with
          | none => exact .finished rfl rfl rfl
          | some cause => exact .failed rfl rfl rfl
      | cons chunk more =>
          cases chunk with
          | nil => exact absurd List.mem_cons_self h
          | cons c rest =>
              let left : CharStream := ⟨rest, more, failure⟩
              have dense : left.Dense := List.not_mem_of_not_mem_cons h
              refine .char rfl ?_ dense rfl
              simp [text]

/-- The first character of the text is read. -/
lemma Dense.read_of_text {s : CharStream} {c : Char} {cs : List Char} (h : s.Dense) (text : s.text = c :: cs) :
    ∃ rest, s.read = .char c rest ∧ rest.text = cs ∧ rest.Dense := by
  cases h.delivers with
  | char found text' dense _ =>
      rw [text, List.cons.injEq] at text'
      obtain ⟨rfl, rfl⟩ := text'
      exact ⟨_, found, rfl, dense⟩
  | finished _ none => cases text.symm.trans none
  | failed _ none => cases text.symm.trans none

end CharStream

/-- What was read, with the characters that are left gathered. -/
def Reading.gathered : Reading → Reading
  | char c rest => char c rest.gathered
  | finished rest => finished rest.gathered
  | failed cause => failed cause

/-- The gathered stream reads the same. -/
lemma CharStream.Dense.read_gathered {s : CharStream} (h : s.Dense) : s.gathered.read = s.read.gathered := by
  cases h.delivers with
  | char found text _ failure =>
      rw [found]
      simp only [Reading.gathered, gathered, text, failure, read]
  | finished found text failure =>
      rw [found]
      simp only [Reading.gathered, gathered, text, failure, read]
  | failed found text failure =>
      rw [found]
      simp only [Reading.gathered, gathered, text, failure, read]

/-! ### Scanners -/

/-- The scanner that holds at hand all characters that another one still scans. -/
def Scanner.gathered (s : Scanner) : Scanner := ⟨s.stream.gathered, s.line⟩

namespace Scanner

/-- A scanner of a dense stream, and the one that holds the characters at hand. -/
def IsGathered (s s' : Scanner) : Prop := s.stream.Dense ∧ s' = s.gathered

variable {s : Scanner}

/-- A line break is counted alike. -/
lemma lineBreak_gathered (h : s.stream.Dense) (c : Char) :
    Corresponds (fun _ => IsGathered) (fun s s' => s' = s.gathered) (fun _ => False) (s.lineBreak c)
      (s.gathered.lineBreak c) := by
  have found' : s.gathered.stream.read = s.stream.read.gathered := h.read_gathered
  unfold lineBreak
  by_cases hc : c = '\r'
  · simp only [hc, if_true, found']
    cases h.delivers with
    | @char d rest found _ dense _ =>
        simp only [found, Reading.gathered]
        by_cases feed : d = '\n'
        · simp only [feed, if_true]
          exact .ok ⟨dense, rfl⟩
        · simp only [feed, if_false]
          exact .ok ⟨dense, rfl⟩
    | finished found =>
        simp only [found, Reading.gathered]
        exact .ok ⟨h, rfl⟩
    | failed found =>
        simp only [found, Reading.gathered, fail_eq]
        exact .error rfl
  · simp only [hc, if_false]
    exact .ok ⟨h, rfl⟩

/-- **A scanner of a dense stream proceeds like the one that holds all characters at hand.** -/
def gathering : Simulation where
  related := IsGathered
  stopped s s' := s' = s.gathered
  excused _ := False
  ends := True
  stop h := h.2
  line_eq h := by rw [h]; rfl
  step {s s'} h := by
    obtain ⟨dense, rfl⟩ := h
    have found' : s.gathered.stream.read = s.stream.read.gathered := dense.read_gathered
    cases dense.delivers with
    | @char c rest found _ dense' _ =>
        rw [found] at found'
        by_cases breaking : isLineBreak c = true
        · exact .lineBreak found found' breaking breaking rfl ⟨dense', rfl⟩
            (lineBreak_gathered (s := s.withStream rest) dense' c)
        · exact .inLine found found' (by simpa using breaking) ⟨dense', rfl⟩ ⟨dense', rfl⟩
    | finished found =>
        rw [found] at found'
        exact .finished found found' trivial ⟨dense, rfl⟩
    | failed found =>
        rw [found] at found'
        exact .failed found found'

end Scanner

/-! ### Tokens -/

namespace Lexer

variable {l : Lexer}

/-- The lexer that holds at hand all characters that another one still scans. -/
def gathered (l : Lexer) : Lexer := ⟨l.scanner.gathered, l.ended⟩

/-- No chunk to come is empty. -/
def Dense (l : Lexer) : Prop := l.scanner.stream.Dense

/-- The computation of a token comes to the same as another one, up to gathering, and a token leaves a dense stream. -/
def Gathers (r r' : Lexer × Computed InputFailure Token) : Prop :=
  r' = (r.1.gathered, r.2) ∧ ∀ t, r.2 = .item t → r.1.Dense

lemma gathered_eq {l' : Lexer} (h : l'.scanner = l.scanner.gathered) (same : l.ended = l'.ended) : l' = l.gathered := by
  obtain ⟨s, ended⟩ := l'
  cases h
  cases same
  rfl

/-- **Gathering the characters of a dense stream changes no token.** -/
theorem gathers_compute (h : l.Dense) : Gathers l.compute l.gathered.compute := by
  have computes := @Scanner.gathering.compute l l.gathered ⟨h, rfl⟩ rfl
  generalize l.compute = r at computes
  generalize l.gathered.compute = r' at computes
  cases computes with
  | item related same => exact ⟨congrArg (·, _) (gathered_eq related.2 same), fun _ _ => related.1⟩
  | finished related same => exact ⟨congrArg (·, _) (gathered_eq related.2 same), nofun⟩
  | failed stopped same => exact ⟨congrArg (·, _) (gathered_eq stopped same), nofun⟩
  | excused no => exact no.elim

end Lexer

end CommandTree
