import CommandTree.Proofs.Conversation
import CommandTree.Proofs.Lexicon.Recognition
import CommandTree.Proofs.Simulation.Reading
/-!
The characters that end a line.

A line may end with a line feed, with a carriage return, or with both. Which of them a text uses makes no difference: a
scanner counts one line where it passes over any of them, and no other character of a token or a comment stands for one.

* `Lexicon.unifyBreaks` ends every line of a text with a line feed;
* `Scanner.lineBreak_return`: behind a carriage return the unified text goes on with a line feed, and then with what the
  scanner has left;
* `Scanner.unifying`: a scanner of a text proceeds like that of the unified text;
* `TokenStream.unifyBreaks_unseen`: **neither a caller nor a reader sees how the lines of a text end.**
-/

namespace CommandTree

open Text Lexicon

/-! ### Unified texts -/

namespace Lexicon

/-- A text with all lines ended by a line feed, where a carriage return and a line feed in a row end one line. -/
def unifyBreaks : List Char → List Char
  | [] => []
  | '\r' :: '\n' :: cs => '\n' :: unifyBreaks cs
  | '\r' :: cs => '\n' :: unifyBreaks cs
  | c :: cs => c :: unifyBreaks cs

example : unifyBreaks "a\r\r\n\n\rb\r".toList = "a\n\n\n\nb\n".toList := by decide

lemma unifyBreaks_return {cs : List Char} (h : cs.head? ≠ some '\n') :
    unifyBreaks ('\r' :: cs) = '\n' :: unifyBreaks cs := by
  rw [unifyBreaks]
  rintro rest rfl
  exact h rfl

lemma unifyBreaks_cons {c : Char} (h : c ≠ '\r') (cs : List Char) : unifyBreaks (c :: cs) = c :: unifyBreaks cs := by
  rw [unifyBreaks]
  · rintro rest rfl
    exact absurd rfl h
  · exact h

end Lexicon

/-! ### Scanners -/

namespace Scanner

/-- A scanner of a stream that ends, and the one that holds the unified text at hand, on the same line. -/
structure IsUnified (s s' : Scanner) : Prop where
  dense : s.stream.Dense
  sound : s.stream.failure = none
  same : s' = ofText (unifyBreaks s.stream.text) s.line

variable {s s' : Scanner}

/-- A carriage return is counted with the line feed behind it, if there is one. What is left is what follows the line feed
of the unified text. -/
lemma lineBreak_return (dense : s.stream.Dense) (sound : s.stream.failure = none) :
    ∃ left : CharStream, s.lineBreak '\r' = .ok () ⟨left, s.line + 1⟩ ∧ left.Dense ∧ left.failure = none ∧
      unifyBreaks ('\r' :: s.stream.text) = '\n' :: unifyBreaks left.text := by
  rw [lineBreak]
  simp only [if_true]
  cases dense.delivers with
  | @char d rest found text denseRest same =>
      simp only [found, text]
      by_cases feed : d = '\n'
      · subst feed
        exact ⟨rest, rfl, denseRest, same.trans sound, rfl⟩
      · have returned : (rest.unread d).text = d :: rest.text := rfl
        have unified : unifyBreaks ('\r' :: d :: rest.text) = '\n' :: unifyBreaks (d :: rest.text) :=
          unifyBreaks_return (by simpa using feed)
        simp only [feed, if_false]
        exact ⟨rest.unread d, rfl, denseRest, same.trans sound, by rw [unified, returned]⟩
  | finished found none =>
      simp only [found, none]
      exact ⟨s.stream, rfl, dense, sound, by rw [none]; rfl⟩
  | failed _ _ fails => cases sound.symm.trans fails

/-- **A scanner of a text proceeds like the one that holds the unified text at hand.** -/
def unifying : Simulation where
  related := IsUnified
  stopped s s' := s.line = s'.line
  excused _ := False
  ends := True
  stop h := by rw [h.same]; rfl
  line_eq h := h
  step {s s'} h := by
    obtain ⟨dense, sound, rfl⟩ := h
    cases dense.delivers with
    | @char c rest found text denseRest same =>
        have soundRest : rest.failure = none := same.trans sound
        have back : IsUnified (s.withStream (rest.unread c)) (ofText (unifyBreaks (c :: rest.text)) s.line) :=
          ⟨denseRest, soundRest, rfl⟩
        rw [text]
        by_cases returns : c = '\r'
        · -- the line feed of the unified text stands for the carriage return and what is counted with it
          subst returns
          obtain ⟨left, counted, denseLeft, soundLeft, goesOn⟩ :=
            lineBreak_return (s := s.withStream rest) denseRest soundRest
          have goesOn : unifyBreaks ('\r' :: rest.text) = '\n' :: unifyBreaks left.text := goesOn
          rw [goesOn] at back ⊢
          refine .lineBreak found read_ofText_cons rfl rfl rfl back ?_
          rw [counted]
          exact .ok ⟨denseLeft, soundLeft, rfl⟩
        · rw [unifyBreaks_cons returns] at back ⊢
          have after : IsUnified (s.withStream rest) (ofText (unifyBreaks rest.text) s.line) :=
            ⟨denseRest, soundRest, rfl⟩
          cases breaking : isLineBreak c with
          | false => exact .inLine found read_ofText_cons breaking after back
          | true =>
              obtain rfl : c = '\n' := by simpa [isLineBreak, returns] using breaking
              exact .lineBreak found read_ofText_cons rfl rfl rfl back (.ok ⟨denseRest, soundRest, rfl⟩)
    | finished found none =>
        rw [none]
        refine .finished found read_ofText_nil trivial ⟨dense, sound, ?_⟩
        rw [show (s.withStream s.stream).stream.text = [] from none]
        rfl
    | failed _ _ fails => cases sound.symm.trans fails

/-- The scanner of a text is related to the one that holds the unified text at hand. -/
lemma isUnified_ofChars (cs : List Char) : IsUnified ⟨.ofChars cs none, 1⟩ (ofText (unifyBreaks cs) 1) :=
  ⟨CharStream.dense_ofChars cs none, rfl, by rw [CharStream.text_ofChars]⟩

/-- The scanner of a text is related to the one that holds the text at hand. -/
lemma isGathered_ofChars (cs : List Char) : IsGathered ⟨.ofChars cs none, 1⟩ (ofText cs 1) :=
  ⟨CharStream.dense_ofChars cs none, by rw [gathered, CharStream.gathered_ofChars]; rfl⟩

end Scanner

/-! ### Texts -/

/-- **How the lines of a text end is not seen.** A text and the unified one lead to the same conversations: every call is
answered with the same token, or is refused with the same error, and the line behind it is the same. And every reader,
whatever its resolvers, makes the same of both: the same tree with the same log, or the same error at the same line. -/
theorem TokenStream.unifyBreaks_unseen (text : String) :
    let unified := String.ofList (unifyBreaks text.toList)
    (∀ calls, (ofText text).converse calls = (ofText unified).converse calls) ∧
      ∀ r : Reader, r.parseText text = r.parseText unified := by
  intro unified
  have left := Scanner.isUnified_ofChars text.toList
  have right := Scanner.isGathered_ofChars unified.toList
  rw [String.toList_ofList] at right
  refine ⟨fun calls => ?_, fun r => ?_⟩
  · rw [ofText, Scanner.unifying.converse_eq (fun _ no => no) left calls, ofText, String.toList_ofList,
      Scanner.gathering.converse_eq (fun _ no => no) right calls]
  · rw [Reader.parseText, Scanner.unifying.report_eq (fun _ no => no) left r, Reader.parseText, String.toList_ofList,
      Scanner.gathering.report_eq (fun _ no => no) right r]

end CommandTree
