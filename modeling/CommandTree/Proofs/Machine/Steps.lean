import Mathlib.Logic.Function.Iterate
import CommandTree.Proofs.Gathering
import CommandTree.Proofs.Lexicon
import CommandTree.Proofs.Machine
/-!
What the steps of a lexer come to.

* `Machine.Mode.turns` says what a machine does with what it reads: the character is used, or the machine is nearer to its
  end;
* `Machine.measure_step_lt`: a step leaves less than there was, so that the machine halts (`Machine.halts`);
* `Lexer.compute_halts`: **the computation of a token ends**, within a number of steps that the rest of the stream bounds;
* `CharStream.Uses`: from one moment to another characters are used and chunks are delivered, and what is left is the rest;
  `Machine.Since.step`: each step keeps account of them;
* `Lexer.computes`: a token other than the end of the input uses a character.
-/

namespace CommandTree

open Text

namespace Machine

/-! ### What a step does -/

/-- How far a mode is from its end, the characters to come apart. -/
def Mode.rank : Mode → Nat
  | slash | lineComment | carriage _ => 4
  | blank | blockComment _ | word _ | quoted _ | escape _ => 2

/-- How far a task is from its end, the characters to come apart. -/
def Task.rank : Task → Nat
  | read mode => mode.rank
  | halt _ _ => 0

lemma Mode.rank_le (mode : Mode) : mode.rank ≤ 4 := by
  cases mode <;> simp only [rank] <;> decide

lemma Mode.le_rank (mode : Mode) : 2 ≤ mode.rank := by
  cases mode <;> simp only [rank] <;> decide

lemma Task.rank_le (task : Task) : task.rank ≤ 4 := by
  cases task with
  | read mode => exact mode.rank_le
  | halt => exact Nat.zero_le _

/-- How far a machine is from its end. Three steps are counted for a character: it may be read, handed back and read
again. -/
def measure (m : Machine) : Nat := 3 * m.scanner.size + m.task.rank + if m.back.isSome then 4 else 0

/-- Whether the first character of a token may have been used. -/
def Mode.Begun : Mode → Prop
  | slash | word _ | quoted _ | escape _ => True
  | blank | lineComment | blockComment _ | carriage _ => False

/-- The characters used fit what is to be done: a token has at least one, and the end of the input is a token only where it
has been seen. -/
def Task.Fits (used : List Char) : Task → Prop
  | read mode => mode.Begun → used ≠ []
  | halt (.item t) ended => if t = .endOfInput then ended = true else ended = false ∧ used ≠ []
  | halt (.failed _) ended => ended = false
  | halt .finished _ => False

/-- What a machine comes to with what it has read. -/
inductive Mode.Turns (mode : Mode) (s : Scanner) : Option Char → Machine → Prop
  | used {c : Char} {task : Task} {line : Nat} (fits : ∀ cs, cs ≠ [] → task.Fits cs) :
      Turns mode s (some c) ⟨task, none, { s with line }⟩
  -- nothing is used, and the machine is nearer to its end
  | kept {o : Option Char} {task : Task} (lower : task.rank + 2 ≤ mode.rank)
      (fits : ∀ cs, (Task.read mode).Fits cs → task.Fits cs) : Turns mode s o ⟨task, o, s⟩

section Fits

variable {used cs : List Char} {c : Char}

lemma Task.fits_string (some : used ≠ []) : (Task.halt (.item (.string (String.ofList cs))) false).Fits used := by
  rw [Fits, if_neg Token.noConfusion]
  exact ⟨rfl, some⟩

/-- Behind its first character a token has begun. -/
lemma Task.fits_begin (line : Nat) (some : used ≠ []) : (Mode.begin c line).Fits used := by
  rw [Mode.begin]
  split
  · rename_i structural
    rcases Lexicon.structural_cases structural with ⟨-, rfl⟩ | ⟨-, rfl⟩ | ⟨-, rfl⟩
    · exact ⟨rfl, some⟩
    · exact ⟨rfl, some⟩
    · exact ⟨rfl, some⟩
  · split
    · exact fun _ => some
    · split
      · exact fun _ => some
      · rfl

end Fits

/-- Behind a character that is used anything may be read on. -/
lemma Mode.Turns.onward {mode : Mode} {s : Scanner} {c : Char} {line : Nat} (next : Mode) :
    mode.Turns s (some c) ⟨.read next, none, { s with line }⟩ :=
  .used fun _ some _ => some

/-- **What is read is used, or leads on without being used.** -/
lemma Mode.turns (mode : Mode) (s : Scanner) (o : Option Char) : mode.Turns s o (mode.reads s o) := by
  cases mode with
  | blank =>
      cases o with
      | none => exact .kept (Nat.le_refl 2) fun _ _ => rfl
      | some c =>
          rw [reads]
          split
          · exact .onward _
          split
          · exact .onward _
          split
          · exact .onward _
          · exact .used fun _ some => Task.fits_begin _ some
  | slash =>
      cases o with
      | none => exact .kept (Nat.le_refl 4) fun _ fits _ => fits trivial
      | some c =>
          rw [reads]
          split
          · exact .onward _
          split
          · exact .onward _
          · exact .kept (Nat.le_refl 4) fun _ fits _ => fits trivial
  | lineComment =>
      cases o with
      | none => exact .kept (Nat.le_refl 4) fun _ _ => False.elim
      | some c =>
          rw [reads]
          split
          · exact .kept (Nat.le_refl 4) fun _ _ => False.elim
          · exact .onward _
  | blockComment star =>
      cases o with
      | none => exact .kept (Nat.le_refl 2) fun _ _ => rfl
      | some c =>
          rw [reads]
          split
          · exact .onward _
          split
          · exact .onward _
          · exact .onward _
  | carriage inComment =>
      have lower : (Task.read (around inComment)).rank + 2 ≤ (carriage inComment).rank := by cases inComment <;> decide
      have fits : ∀ cs, (Task.read (around inComment)).Fits cs := by cases inComment <;> exact fun _ => False.elim
      cases o with
      | none => exact .kept lower fun cs _ => fits cs
      | some c =>
          rw [reads]
          split
          · exact .used fun cs _ => fits cs
          · exact .kept lower fun cs _ => fits cs
  | word before =>
      cases o with
      | none => exact .kept (Nat.le_refl 2) fun _ fits => Task.fits_string (fits trivial)
      | some c =>
          rw [reads]
          split
          · exact .onward _
          · exact .kept (Nat.le_refl 2) fun _ fits => Task.fits_string (fits trivial)
  | quoted before =>
      cases o with
      | none => exact .kept (Nat.le_refl 2) fun _ _ => rfl
      | some c =>
          rw [reads]
          split
          · exact .used fun _ _ => rfl
          split
          · exact .used fun _ some => Task.fits_string some
          split
          · exact .onward _
          · exact .onward _
  | escape before =>
      cases o with
      | none => exact .kept (Nat.le_refl 2) fun _ _ => rfl
      | some c =>
          rw [reads]
          split
          · exact .used fun _ _ => rfl
          · exact .onward _

/-! ### The end of a computation -/

/-- A character that is read pays for what the machine does with it. -/
lemma Mode.Turns.measure_lt {mode : Mode} {s : Scanner} {o : Option Char} {m : Machine} (h : mode.Turns s o m) :
    m.measure < 3 * (s.size + if o.isSome then 1 else 0) + mode.rank := by
  cases h with
  | @used c task =>
      have enough := mode.le_rank
      have small := task.rank_le
      simp only [measure, Scanner.size, Option.isSome_none, Option.isSome_some, if_true, Bool.false_eq_true, if_false]
      omega
  | kept lower =>
      cases o with
      | none =>
          simp only [measure, Option.isSome_none, Bool.false_eq_true, if_false]
          omega
      | some c =>
          simp only [measure, Option.isSome_some, if_true]
          omega

/-- **A step leaves less than there was**, unless the machine has halted. -/
lemma measure_step_lt (m : Machine) : m = ofComputed m.outcome ∨ m.step.measure < m.measure := by
  obtain ⟨task, back, s⟩ := m
  cases back with
  | some c =>
      have size := CharStream.size_unread c s.stream
      right
      simp only [step, settled, measure, Scanner.size, Scanner.withStream, size, Option.isSome_some, Option.isSome_none,
        if_true, Bool.false_eq_true, if_false]
      omega
  | none =>
      cases task with
      | halt found ended => exact .inl rfl
      | read mode =>
          right
          have whole : Machine.measure ⟨.read mode, none, s⟩ = 3 * s.size + mode.rank := rfl
          rw [whole, step]
          cases found : s.stream.read with
          | failed cause =>
              have enough := mode.le_rank
              simp only [measure, Task.rank, Option.isSome_none, Bool.false_eq_true, if_false]
              omega
          | finished rest =>
              have less := (mode.turns (s.withStream rest) none).measure_lt
              have left : (s.withStream rest).size ≤ s.size := CharStream.size_le_of_finished found
              simp only [Option.isSome_none, Bool.false_eq_true, if_false] at less ⊢
              omega
          | char c rest =>
              have less := (mode.turns (s.withStream rest) (some c)).measure_lt
              have left : (s.withStream rest).size < s.size := CharStream.size_lt_of_read found
              simp only [Option.isSome_some, if_true] at less ⊢
              omega

/-- A machine halts with what it computes. -/
lemma halts (m : Machine) : ∃ n ≤ m.measure, step^[n] m = ofComputed m.outcome := by
  induction size : m.measure using Nat.strong_induction_on generalizing m with
  | _ size ih =>
      subst size
      rcases m.measure_step_lt with halted | less
      · exact ⟨0, Nat.zero_le _, halted⟩
      · obtain ⟨n, within, computed⟩ := ih _ less m.step rfl
        exact ⟨n + 1, by omega, by rw [Function.iterate_succ_apply, computed, outcome_step]⟩

end Machine

/-- **The computation of a token ends.** From any state of a lexer and over any stream, the machine halts with what the
lexer computes, within three accesses to the stream for each character and chunk that are left, and two more. -/
lemma Lexer.compute_halts (l : Lexer) :
    ∃ n ≤ 3 * l.scanner.size + 2, Machine.step^[n] (.ofLexer l) = .ofComputed l.compute := by
  obtain ⟨n, within, computed⟩ := (Machine.ofLexer l).halts
  rw [Machine.outcome_ofLexer] at computed
  refine ⟨n, Nat.le_trans within ?_, computed⟩
  obtain ⟨s, ended⟩ := l
  cases ended with
  | true => exact Nat.le_add_right _ 2
  | false => exact Nat.le_refl _

/-! ### What a computation uses -/

namespace CharStream

/-- From one moment to another characters are used and chunks are delivered, and what is left is the rest. -/
structure Uses (s : CharStream) (used : List Char) (s' : CharStream) : Prop where
  text : s.text = used ++ s'.text
  chunks : ∃ delivered, s.chunks = delivered ++ s'.chunks

variable {s s' s'' rest : CharStream} {used more : List Char} {c : Char}

lemma Uses.refl (s : CharStream) : s.Uses [] s := ⟨rfl, [], rfl⟩

lemma Uses.trans (h : s.Uses used s') (h' : s'.Uses more s'') : s.Uses (used ++ more) s'' := by
  obtain ⟨text, delivered, chunks⟩ := h
  obtain ⟨text', delivered', chunks'⟩ := h'
  refine ⟨?_, delivered ++ delivered', ?_⟩
  · rw [text, text', List.append_assoc]
  · rw [chunks, chunks', List.append_assoc]

/-- Only characters that are at hand or have been delivered are used. -/
lemma Uses.length_le (h : s.Uses used s') {delivered : List (List Char)} (chunks : s.chunks = delivered ++ s'.chunks) :
    used.length ≤ s.pushback.length + delivered.flatten.length := by
  have whole := congrArg List.length h.text
  simp only [CharStream.text, chunks, List.flatten_append, List.length_append] at whole
  omega

/-- A character that is read is used. -/
lemma uses_of_read (h : s.read = .char c rest) : s.Uses [c] rest := by
  obtain ⟨pushback, chunks, failure⟩ := s
  cases pushback with
  | cons d more =>
      cases h
      exact ⟨rfl, [], rfl⟩
  | nil =>
      cases chunks with
      | nil => cases failure <;> cases h
      | cons chunk more =>
          cases chunk with
          | nil => cases h
          | cons d chunk =>
              cases h
              exact ⟨rfl, [_], rfl⟩

/-- Unless it is handed back. -/
lemma uses_unread (h : s.read = .char c rest) : s.Uses [] (rest.unread c) := by
  have read := uses_of_read h
  exact ⟨read.text, read.chunks⟩

/-- An end uses nothing. -/
lemma uses_of_finished (h : s.read = .finished rest) : s.Uses [] rest := by
  obtain ⟨pushback, chunks, failure⟩ := s
  cases pushback with
  | cons d more => cases h
  | nil =>
      cases chunks with
      | nil =>
          cases failure <;> cases h
          exact .refl _
      | cons chunk more =>
          cases chunk with
          | nil =>
              cases h
              exact ⟨rfl, [_], rfl⟩
          | cons d chunk => cases h

end CharStream

namespace Machine

/-- A machine has come from the given stream by using characters that fit what it does next. -/
def Since (s : CharStream) (m : Machine) : Prop :=
  ∃ used, s.Uses used m.settled.stream ∧ m.task.Fits used

variable {s : CharStream} {m : Machine}

/-- **Each step keeps account of the characters.** -/
lemma Since.step (h : Since s m) : Since s m.step := by
  obtain ⟨used, uses, fits⟩ := h
  obtain ⟨task, back, scanner⟩ := m
  cases back with
  | some c => exact ⟨used, uses, fits⟩
  | none =>
      cases task with
      | halt found ended => exact ⟨used, uses, fits⟩
      | read mode =>
          rw [Machine.step]
          cases found : scanner.stream.read with
          | failed cause => exact ⟨used, uses, rfl⟩
          | finished rest =>
              have turns := mode.turns (scanner.withStream rest) none
              simp only
              generalize mode.reads (scanner.withStream rest) none = m at turns
              have passed := uses.trans (CharStream.uses_of_finished found)
              rw [List.append_nil] at passed
              cases turns with
              | kept _ onward => exact ⟨used, passed, onward used fits⟩
          | char c rest =>
              have turns := mode.turns (scanner.withStream rest) (some c)
              simp only
              generalize mode.reads (scanner.withStream rest) (some c) = m at turns
              cases turns with
              | used begun =>
                  exact ⟨used ++ [c], uses.trans (CharStream.uses_of_read found), begun _ (by simp)⟩
              | kept _ onward =>
                  have passed := uses.trans (CharStream.uses_unread found)
                  rw [List.append_nil] at passed
                  exact ⟨used, passed, onward used fits⟩

/-- So does a run. -/
lemma Since.iterate (h : Since s m) (n : Nat) : Since s (Machine.step^[n] m) := by
  induction n generalizing m with
  | zero => exact h
  | succ n ih => exact ih h.step

end Machine

/-- What the computation of a token comes to, and what it uses. -/
inductive Lexer.Computes (l : Lexer) : Lexer × Computed InputFailure Token → Prop
  | finished (ended : l.ended = true) : Computes l (l, .finished)
  | endOfInput {used : List Char} {s : Scanner} (going : l.ended = false) (uses : l.scanner.stream.Uses used s.stream) :
      Computes l (⟨s, true⟩, .item .endOfInput)
  | token {used : List Char} {s : Scanner} {t : Token} (going : l.ended = false) (ordinary : t ≠ .endOfInput)
      (some : used ≠ []) (uses : l.scanner.stream.Uses used s.stream) : Computes l (⟨s, false⟩, .item t)
  | failed {used : List Char} {s : Scanner} {e : InputFailure} (going : l.ended = false)
      (uses : l.scanner.stream.Uses used s.stream) : Computes l (⟨s, false⟩, .failed e)

/-- A machine that has halted tells what its lexer has computed. -/
lemma Lexer.Computes.of_fits {l : Lexer} {r : Lexer × Computed InputFailure Token} {used : List Char}
    (going : l.ended = false) (uses : l.scanner.stream.Uses used r.1.scanner.stream)
    (fits : (Machine.Task.halt r.2 r.1.ended).Fits used) : l.Computes r := by
  obtain ⟨⟨s, ended⟩, found⟩ := r
  cases found with
  | finished => exact fits.elim
  | failed e =>
      obtain rfl : ended = false := fits
      exact .failed going uses
  | item t =>
      rw [Machine.Task.Fits] at fits
      split at fits
      · rename_i last
        subst last
        obtain rfl : ended = true := fits
        exact .endOfInput going uses
      · rename_i ordinary
        obtain ⟨plain, some⟩ := fits
        obtain rfl : ended = false := plain
        exact .token going ordinary some uses

/-- **A token other than the end of the input uses a character**, and the end of the input is seen once. -/
lemma Lexer.computes (l : Lexer) : l.Computes l.compute := by
  cases ended : l.ended with
  | true =>
      rw [compute_of_ended ended]
      exact .finished ended
  | false =>
      have start : (Machine.ofLexer l).Since l.scanner.stream := by
        simp only [Machine.ofLexer, ended]
        exact ⟨[], .refl _, False.elim⟩
      obtain ⟨n, -, computed⟩ := l.compute_halts
      have since := start.iterate n
      rw [computed] at since
      obtain ⟨used, uses, fits⟩ := since
      exact .of_fits ended uses fits

/-- A lexer that finds nothing more is left as it was. -/
lemma Lexer.eq_of_compute_finished {l m : Lexer} (h : l.compute = (m, .finished)) : m = l := by
  have computes := l.computes
  rw [h] at computes
  cases computes
  rfl

end CommandTree
