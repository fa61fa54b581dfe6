import CommandTree.Proofs.Grammar.Acceptance
import CommandTree.Proofs.Simulation.Streams
/-!
Streams that fail, and what a reader makes of the text in front of the failure.

A stream that delivers a text and then fails is compared with one that goes on behind the text in any way. As long as the
first one delivers characters both read the same; when it fails, all line breaks of its text are counted already. So a
reader notices nothing of the failure, or the failure is what it comes to.

* `Scanner.ahead`: a scanner of the failing stream proceeds like that of a longer text, up to the failure;
* `ReadError.ofFailure` is what the failure of a stream comes to;
* `Reader.parseStream_failing`: a reader of a failing stream comes to that, or to an error that is the same whatever
  follows the text.
-/

namespace CommandTree

open Text Lexicon

/-! ### Scanners in front of a failure -/

namespace Scanner

/-- The first scanner fails where the other one goes on with more text, and `last` is the line of the failure. -/
structure IsAhead (failure : Cause) (more : List Char) (last : Nat) (s s' : Scanner) : Prop where
  dense : s.stream.Dense
  dense' : s'.stream.Dense
  fails : s.stream.failure = some failure
  text : s'.stream.text = s.stream.text ++ more
  line : s.line = s'.line
  -- all line breaks that are left lie in front of the failure
  behind : s.line + breaks s.stream.text = last

variable {failure : Cause} {more : List Char} {last : Nat} {s s' : Scanner} {c : Char}

/-- A line break is counted alike, or the stream fails behind a carriage return that ends the last line. -/
lemma lineBreak_ahead (dense : s.stream.Dense) (dense' : s'.stream.Dense) (fails : s.stream.failure = some failure)
    (text : s'.stream.text = s.stream.text ++ more) (line : s.line = s'.line)
    (behind : s.line + breaks (c :: s.stream.text) = last) (breaking : isLineBreak c = true) :
    Corresponds (fun _ => IsAhead failure more last) (fun s s' => s.line = s'.line)
      (fun e => e = .ofCause failure last) (s.lineBreak c) (s'.lineBreak c) := by
  simp only [isLineBreak, Bool.or_eq_true, beq_iff_eq] at breaking
  rcases breaking with rfl | rfl
  · simp only [lineBreak, if_true]
    cases dense.delivers with
    | @char d rest found text1 denseRest sameFailure =>
        have fails1 : rest.failure = some failure := sameFailure.trans fails
        obtain ⟨rest', found', text2, denseRest'⟩ := dense'.read_of_text (text.trans (congrArg (· ++ more) text1))
        simp only [found, found']
        rw [text1] at behind
        by_cases feed : d = '\n'
        · subst feed
          have counted : s.line + 1 + breaks rest.text = last := by
            rw [← behind]
            simp [breaks, endsLine]
            omega
          simp only [if_true]
          exact .ok ⟨denseRest, denseRest', fails1, text2, congrArg (· + 1) line, counted⟩
        · have counted : s.line + 1 + breaks (d :: rest.text) = last := by
            rw [← behind]
            simp [breaks, endsLine, feed]
            omega
          have text3 : d :: rest'.text = (d :: rest.text) ++ more := congrArg (d :: ·) text2
          simp only [feed, if_false]
          exact .ok ⟨denseRest, denseRest', fails1, text3, congrArg (· + 1) line, counted⟩
    | finished _ _ lasting => cases fails.symm.trans lasting
    | failed found none same =>
        cases fails.symm.trans same
        simp only [found, fail_eq]
        refine .excused ?_
        rw [none] at behind
        rw [← behind]
        rfl
  · have counted : s.line + 1 + breaks s.stream.text = last := by
      rw [← behind]
      simp [breaks, endsLine]
      omega
    exact .ok ⟨dense, dense', fails, text, congrArg (· + 1) line, counted⟩

/-- **A scanner of a failing stream proceeds like that of a longer text**, as long as the stream does not fail. It never
meets an end. -/
def ahead (failure : Cause) (more : List Char) (last : Nat) : Simulation where
  related := IsAhead failure more last
  stopped s s' := s.line = s'.line
  excused e := e = .ofCause failure last
  ends := False
  stop h := h.line
  line_eq h := h
  step {s s'} h := by
    cases h.dense.delivers with
    | @char c rest found text dense sameFailure =>
        have fails : rest.failure = some failure := sameFailure.trans h.fails
        obtain ⟨rest', found', text', dense'⟩ := h.dense'.read_of_text (h.text.trans (congrArg (· ++ more) text))
        have behind : s.line + breaks (c :: rest.text) = last := text ▸ h.behind
        have back : IsAhead failure more last (s.withStream (rest.unread c)) (s'.withStream (rest'.unread c)) :=
          ⟨dense, dense', fails, congrArg (c :: ·) text', h.line, behind⟩
        by_cases breaking : isLineBreak c = true
        · exact .lineBreak found found' breaking breaking h.line back
            (lineBreak_ahead (s := s.withStream rest) dense dense' fails text' h.line behind breaking)
        · have plain : isLineBreak c = false := by simpa using breaking
          rw [← List.singleton_append, breaks_append_of_forall (List.forall_mem_singleton.2 plain)] at behind
          exact .inLine found found' plain ⟨dense, dense', fails, text', h.line, behind⟩ back
    | finished _ _ lasting => cases h.fails.symm.trans lasting
    | failed found none same =>
        cases h.fails.symm.trans same
        refine .excused found ?_
        rw [← h.behind, none]
        rfl

/-- A stream fails behind its text, where a longer one goes on. -/
lemma isAhead_ofChunks {chunks : List (List Char)} (full : [] ∉ chunks) (failure : Cause) (more : List Char) :
    IsAhead failure more (1 + breaks chunks.flatten) ⟨.ofChunks chunks (some failure), 1⟩
      ⟨.ofChars (chunks.flatten ++ more) none, 1⟩ where
  dense := full
  dense' := CharStream.dense_ofChars _ none
  fails := rfl
  text := CharStream.text_ofChars _ none
  line := rfl
  behind := rfl

end Scanner

/-! ### Readers -/

/-- What the failure of a stream at a line comes to: a failure of input and output is what it is, another failure of the
input is complained of at its line, and anything else interrupts the sequence of tokens. -/
def ReadError.ofFailure : Cause → Nat → ReadError
  | .io e, _ => io e
  | cause, line =>
    if cause.isUnreadable then tokens (.failed (.parse ⟨.unreadable cause, line, some cause⟩))
    else tokens (.failed (.interrupted cause))

lemma ReadError.ofTokenError_ofCause (cause : Cause) (line : Nat) :
    ofTokenError (.failed (.ofCause cause line)) = ofFailure cause line := by
  cases cause <;> rfl

/-- A parser of a failing stream goes on like that of any longer text. -/
lemma Parser.states_ahead {chunks : List (List Char)} (full : [] ∉ chunks) (failure : Cause) (more : List Char) :
    (Scanner.ahead failure more (1 + breaks chunks.flatten)).States (.ofStream (.ofChunks chunks (some failure)))
      (.ofStream (.ofChars (chunks.flatten ++ more) none)) where
  tokens := Scanner.Simulation.streams_ofStream (Scanner.isAhead_ofChunks full failure more)
  resolutions := rfl

namespace Reader

/-- **A reader of a failing stream gives no tree.** The stream delivers a text, in chunks of which none is empty, and then
fails. The reader comes to that failure, at the line behind all line breaks of the text, or to an error in which the
failure has no part: however the text goes on, reading it comes to the same error. -/
theorem parseStream_failing (r : Reader) {chunks : List (List Char)} (full : [] ∉ chunks) (failure : Cause) :
    (r.parseStream (.ofChunks chunks (some failure))).result =
        .error (.ofFailure failure (1 + breaks chunks.flatten)) ∨
      ∃ e, (r.parseStream (.ofChunks chunks (some failure))).result = .error e ∧
        ∀ more : String, (r.parseText (String.ofList chunks.flatten ++ more)).result = .error e := by
  -- one simulation for each text that may follow
  have parses (more : String) := (Scanner.ahead failure more.toList (1 + breaks chunks.flatten)).parse r.registry
    (Parser.states_ahead full failure more.toList)
  cases left : Parser.parse r.registry (.ofStream (.ofChunks chunks (some failure))) with
  | ok root s =>
      have parses := parses ""
      rw [left] at parses
      generalize Parser.parse r.registry (.ofStream (.ofChars (chunks.flatten ++ "".toList) none)) = right at parses
      cases parses with
      | ok behind => exact behind.2.elim
  | error e s =>
      simp only [parseText, parseStream, left, ReadReport.result_ofError]
      by_cases own : e = .failed (.ofCause failure (1 + breaks chunks.flatten))
      · left
        rw [own, ReadError.ofTokenError_ofCause]
      · right
        refine ⟨_, rfl, fun more => ?_⟩
        have parses := parses more
        rw [left] at parses
        rw [String.toList_append, String.toList_ofList]
        generalize Parser.parse r.registry (.ofStream (.ofChars (chunks.flatten ++ more.toList) none)) = right at parses
        cases parses with
        | error => simp only [ReadReport.result_ofError]
        | excused h =>
            obtain ⟨_, rfl, rfl⟩ := h
            exact absurd rfl own

/-- A stream may fail behind a carriage return, whose line has ended by then. -/
theorem parseStream_failing_behindReturn :
    let chunks : List (List Char) := ["root;\r".toList]
    [] ∉ chunks ∧ (((standard "utf-8").parseStream (.ofChunks chunks (some (.value "boom")))).result =
        .error (.ofFailure (.value "boom") 2) ∨
      ∃ e, ((standard "utf-8").parseStream (.ofChunks chunks (some (.value "boom")))).result = .error e ∧
        ∀ more : String, ((standard "utf-8").parseText (String.ofList chunks.flatten ++ more)).result = .error e) := by
  intro chunks
  have full : [] ∉ chunks := by decide
  exact ⟨full, parseStream_failing (standard "utf-8") full (.value "boom")⟩

end Reader

end CommandTree
