import Mathlib.Data.List.Basic
import CommandTree.Proofs.Failing
import CommandTree.Proofs.Lines
/-!
The account that a lexer keeps of the characters of its stream.

A lexer takes the rest of a chunk to the characters at hand, and puts a character on top of them that it hands back. So a
character may be at hand because it came with a chunk, or because it was read and not used. Between two accesses to the
stream this makes no difference: what has been consumed, what is at hand and what has not been asked for are the text.

* `Machine.account` is what an access to the stream does to the characters consumed, `Lexer.Passes` the moments between two
  accesses in the life of a lexer;
* `Machine.InOrder` is the account at such a moment: no character is lost, and the characters at hand are part of one
  chunk; `Machine.InOrder.step`: **an access keeps it in order**;
* `Scanner.Simulation.reaches`: lexers that proceed alike compute the same tokens, so that behind a token no more than its
  text is consumed, whether or not the stream fails later (`Lexer.Reaches.text_eq`);
* `Lexer.accounts` puts these together: **no character is lost, repeated or read too early**.
-/

namespace CommandTree

open Text Lexicon

/-! ### Moments between two accesses -/

/-- What the next access to the stream makes of the characters consumed so far, which are those that have been read and
not handed back. -/
def Machine.account (m : Machine) (consumed : List Char) : List Char :=
  match m.back, m.task with
  | some _, _ => consumed.dropLast
  | none, .halt _ _ => consumed
  | none, .read _ =>
    match m.scanner.stream.read with
    | .char c _ => consumed ++ [c]
    | .finished _ | .failed _ => consumed

/-- A lexer passes a moment between two accesses to its stream, at which it has consumed the given characters. Behind a
token it begins the next one. -/
inductive Lexer.Passes (l : Lexer) : List Char → Machine → Prop
  | start : Passes l [] (.ofLexer l)
  | access {consumed : List Char} {m : Machine} (before : Passes l consumed m) : Passes l (m.account consumed) m.step
  | token {consumed : List Char} {l' : Lexer} {t : Token} (before : Passes l consumed (.ofComputed (l', .item t))) :
      Passes l consumed (.ofLexer l')

lemma Machine.outcome_iterate (n : Nat) (m : Machine) : (step^[n] m).outcome = m.outcome := by
  induction n generalizing m with
  | zero => rfl
  | succ n ih => rw [Function.iterate_succ_apply, ih, outcome_step]

namespace Lexer

variable {l l' m : Lexer} {consumed : List Char} {ts : List Token} {t : Token}

lemma Passes.iterate {machine : Machine} (h : l.Passes consumed machine) (n : Nat) :
    ∃ consumed', l.Passes consumed' (Machine.step^[n] machine) := by
  induction n generalizing consumed machine with
  | zero => exact ⟨consumed, h⟩
  | succ n ih => exact ih h.access

/-- A lexer passes the moment at which a token is computed. -/
lemma Passes.compute (h : l.Passes consumed (.ofLexer m)) : ∃ consumed', l.Passes consumed' (.ofComputed m.compute) := by
  obtain ⟨n, -, computed⟩ := m.compute_halts
  rw [← computed]
  exact h.iterate n

/-- Where the machine halts tells what the lexer computes. -/
lemma compute_of_iterate {r : Lexer × Computed InputFailure Token} (n : Nat)
    (h : Machine.step^[n] (.ofLexer l) = .ofComputed r) : l.compute = r := by
  rw [← Machine.outcome_ofLexer, ← Machine.outcome_iterate n, h]
  rfl

/-- At each moment a token is being computed, behind those that are computed already. -/
lemma Passes.exists_reaches {machine : Machine} (h : l.Passes consumed machine) :
    ∃ ts m, l.Reaches ts m ∧ machine.outcome = m.compute := by
  induction h with
  | start => exact ⟨[], l, .start, Machine.outcome_ofLexer l⟩
  | access _ ih =>
      obtain ⟨ts, m, reached, outcome⟩ := ih
      exact ⟨ts, m, reached, (Machine.outcome_step _).trans outcome⟩
  | token _ ih =>
      obtain ⟨ts, m, reached, outcome⟩ := ih
      exact ⟨_, _, reached.step outcome.symm, Machine.outcome_ofLexer _⟩

/-- The moments lead through all tokens that a lexer computes. -/
lemma Reaches.passes (h : l.Reaches ts m) : ∃ consumed, l.Passes consumed (.ofLexer m) := by
  induction h with
  | start => exact ⟨[], .start⟩
  | step _ computed ih =>
      obtain ⟨_, passes⟩ := ih
      obtain ⟨consumed, passes⟩ := passes.compute
      rw [computed] at passes
      exact ⟨consumed, passes.token⟩

end Lexer

/-! ### The account -/

/-- A character that is read makes room among the characters at hand, or comes with a chunk and is not left at hand. -/
lemma CharStream.length_pushback_lt_of_read {s rest : CharStream} {c : Char} {longest : Nat} (h : s.read = .char c rest)
    (chunks : ∀ chunk ∈ s.chunks, chunk.length ≤ longest) (room : s.pushback.length ≤ longest) :
    rest.pushback.length < longest := by
  unfold read at h
  split at h
  · rename_i pushed
    cases h
    rw [pushed] at room
    exact room
  · split at h
    · rename_i delivered
      cases h
      exact chunks _ (delivered ▸ List.mem_cons_self)
    · cases h
    · split at h <;> cases h

namespace Machine

/-- The account of a stream of chunks is in order, at a moment at which some characters are consumed. -/
structure InOrder (chunks : List (List Char)) (consumed : List Char) (m : Machine) : Prop where
  whole : consumed ++ m.scanner.stream.text = chunks.flatten
  -- the character to hand back is the last one consumed
  last : ∀ c ∈ m.back, consumed.getLast? = some c
  undelivered : m.scanner.stream.chunks <:+ chunks
  -- the characters at hand, with the one to hand back, are no more than a chunk may have
  room : ∀ longest, (∀ chunk ∈ chunks, chunk.length ≤ longest) →
    m.scanner.stream.pushback.length + m.back.toList.length ≤ longest

variable {chunks : List (List Char)} {consumed : List Char} {m : Machine}

/-- In the beginning all characters are left. -/
lemma inOrder_ofStream (chunks : List (List Char)) (failure : Option Cause) :
    InOrder chunks [] (.ofLexer (.ofStream (.ofChunks chunks failure))) where
  whole := rfl
  last := nofun
  undelivered := List.suffix_refl chunks
  room _ _ := Nat.zero_le _

/-- What is to be done makes no difference. -/
lemma InOrder.congr {m' : Machine} (h : InOrder chunks consumed m) (back : m'.back = m.back)
    (stream : m'.scanner.stream = m.scanner.stream) : InOrder chunks consumed m' where
  whole := stream ▸ h.whole
  last := back ▸ h.last
  undelivered := stream ▸ h.undelivered
  room := by
    rw [back, stream]
    exact h.room

/-- A character that is handed back is no longer consumed. -/
lemma InOrder.handBack {task : Task} {c : Char} {s : Scanner} (h : InOrder chunks consumed ⟨task, some c, s⟩) :
    InOrder chunks consumed.dropLast ⟨task, none, s.withStream (s.stream.unread c)⟩ where
  whole := by
    have split : consumed.dropLast ++ [c] = consumed := List.dropLast_append_getLast? c (h.last c rfl)
    have whole : consumed ++ s.stream.text = chunks.flatten := h.whole
    rwa [← split, List.append_assoc] at whole
  last := nofun
  undelivered := h.undelivered
  room longest bound := by
    have room : s.stream.pushback.length + 1 ≤ longest := h.room longest bound
    exact room

/-- A character that is read is consumed, and it may be handed back. -/
lemma InOrder.char {task task' : Task} {c : Char} {back : Option Char} {s : Scanner} {rest : CharStream} {line : Nat}
    (h : InOrder chunks consumed ⟨task, none, s⟩) (found : s.stream.read = .char c rest) (own : ∀ d ∈ back, d = c) :
    InOrder chunks (consumed ++ [c]) ⟨task', back, ⟨rest, line⟩⟩ where
  whole := by
    have uses := CharStream.uses_of_read found
    have whole : consumed ++ s.stream.text = chunks.flatten := h.whole
    rwa [uses.text, ← List.append_assoc] at whole
  last d hd := by rw [own d hd, List.getLast?_concat]
  undelivered := by
    obtain ⟨delivered, more⟩ := (CharStream.uses_of_read found).chunks
    exact List.IsSuffix.trans ⟨delivered, more.symm⟩ h.undelivered
  room longest bound := by
    have less : rest.pushback.length < longest :=
      CharStream.length_pushback_lt_of_read found (fun chunk left => bound chunk (h.undelivered.subset left))
        (h.room longest bound)
    have one : back.toList.length ≤ 1 := by cases back <;> simp
    exact Nat.le_trans (Nat.add_le_add_left one _) less

/-- **An access to the stream keeps the account in order**, if no chunk is empty. -/
lemma InOrder.step (h : InOrder chunks consumed m) (full : [] ∉ chunks) : InOrder chunks (m.account consumed) m.step := by
  obtain ⟨task, back, s⟩ := m
  cases back with
  | some c => exact h.handBack
  | none =>
      cases task with
      | halt found ended => exact h
      | read mode =>
          have dense : s.stream.Dense := fun empty => full (h.undelivered.subset empty)
          rw [account, Machine.step]
          cases dense.delivers with
          | failed found =>
              simp only [found]
              exact h.congr rfl rfl
          | finished found =>
              have turns := mode.turns (s.withStream s.stream) none
              simp only [found]
              generalize mode.reads (s.withStream s.stream) none = m at turns
              cases turns with
              | kept => exact h.congr rfl rfl
          | @char c rest found =>
              have turns := mode.turns (s.withStream rest) (some c)
              simp only [found]
              generalize mode.reads (s.withStream rest) (some c) = m at turns
              cases turns with
              | used => exact h.char found (by simp)
              | kept => exact h.char found fun d own => (Option.some.inj own).symm

end Machine

/-- The account is in order at every moment, by induction on the accesses. -/
lemma Lexer.Passes.inOrder {chunks : List (List Char)} {failure : Option Cause} {consumed : List Char} {m : Machine}
    (h : (ofStream (.ofChunks chunks failure)).Passes consumed m) (full : [] ∉ chunks) :
    m.InOrder chunks consumed := by
  induction h with
  | start => exact Machine.inOrder_ofStream chunks failure
  | access _ ih => exact ih.step full
  | token _ ih => exact ih.congr rfl rfl

/-! ### Behind a token -/

/-- Lexers that proceed alike compute the same tokens. -/
lemma Scanner.Simulation.reaches (sim : Simulation) {l l' m : Lexer} {ts : List Token}
    (related : sim.related l.scanner l'.scanner) (same : l.ended = l'.ended) (h : l.Reaches ts m) :
    ∃ m', l'.Reaches ts m' ∧ sim.related m.scanner m'.scanner ∧ m.ended = m'.ended := by
  induction h with
  | start => exact ⟨l', .start, related, same⟩
  | step _ computed ih =>
      obtain ⟨m', reached, related, same⟩ := ih
      have computes := sim.compute related same
      rw [computed] at computes
      generalize found : m'.compute = r at computes
      cases computes with
      | item related same => exact ⟨_, reached.step found, related, same⟩

namespace Lexer

variable {chunks : List (List Char)} {failure : Option Cause} {cs : List Char} {ts : List Token} {t : Token} {l : Lexer}

/-- A lexer in front of a text has that text left. -/
lemma Before.text_eq {line : Nat} (h : l.Before cs line) : l.scanner.stream.text = cs :=
  congrArg (fun l : Lexer => l.scanner.stream.pushback) h.2

/-- Behind a token what is left is the text behind its last character. -/
lemma Stands.text_eq (h : Stands cs (ts ++ [t]) l) (ordinary : t ≠ .endOfInput) :
    ∃ front c, cs = front ++ c :: l.scanner.stream.text ∧ LastAt cs (ts ++ [t]) front.length := by
  generalize same : ts ++ [t] = us at h
  cases h with
  | atEnd =>
      obtain ⟨-, last⟩ := List.append_inj' same rfl
      exact absurd (List.singleton_inj.1 last) ordinary
  | inside _ segments place =>
      subst same
      obtain ⟨middle, first, later⟩ := segments_append_iff.1 segments
      obtain ⟨rest, opens, last⟩ := segments_cons_iff.1 later
      obtain rfl := segments_nil_iff.1 last
      obtain ⟨front, rfl⟩ := first.exists_front
      obtain ⟨lexeme, rfl⟩ := later.exists_front
      obtain ⟨before, c, rfl, -⟩ := opens.exists_last
      have whole : front ++ (before ++ [c] ++ rest) = (front ++ before) ++ c :: rest := by simp
      exact ⟨front ++ before, c, by rw [place.text_eq, whole], .lexeme whole segments⟩

/-- Whether or not a stream fails later, behind a token what is left is the text behind its last character. -/
lemma Reaches.text_eq (full : [] ∉ chunks) (h : (ofStream (.ofChunks chunks failure)).Reaches (ts ++ [t]) l)
    (ordinary : t ≠ .endOfInput) :
    ∃ front c, chunks.flatten = front ++ c :: l.scanner.stream.text ∧
      LastAt chunks.flatten (ts ++ [t]) front.length := by
  cases failure with
  | none =>
      have place : (ofStream (.ofChunks chunks none)).Before chunks.flatten 1 := ⟨full, rfl⟩
      have start : Stands chunks.flatten [] (ofStream (.ofChunks chunks none)) :=
        .inside (List.nil_append _).symm (.nil _) place
      exact (start.reaches h).text_eq ordinary
  | some failure =>
      let sim := Scanner.ahead failure [] (1 + breaks chunks.flatten)
      have start : sim.related (ofStream (.ofChunks chunks (some failure))).scanner
          (ofStream (.ofChars (chunks.flatten ++ []) none)).scanner := Scanner.isAhead_ofChunks full failure []
      obtain ⟨l', reached, related, -⟩ := sim.reaches start rfl h
      have same : l'.scanner.stream.text = l.scanner.stream.text := by rw [related.text, List.append_nil]
      rw [List.append_nil] at reached
      rw [← same]
      exact reached.stands.text_eq ordinary

/-- Behind a token the characters delivered beyond its last one are at hand. -/
lemma Reaches.length_delivered_le (full : [] ∉ chunks)
    (h : (ofStream (.ofChunks chunks failure)).Reaches (ts ++ [t]) l) (ordinary : t ≠ .endOfInput) :
    ∃ place delivered, LastAt chunks.flatten (ts ++ [t]) place ∧ chunks = delivered ++ l.scanner.stream.chunks ∧
      ∀ longest, (∀ chunk ∈ chunks, chunk.length ≤ longest) → delivered.flatten.length ≤ place + 1 + longest := by
  obtain ⟨consumed, passes⟩ := h.passes
  obtain ⟨whole, -, ⟨delivered, parted⟩, room⟩ := passes.inOrder full
  obtain ⟨front, c, text, last⟩ := h.text_eq full ordinary
  refine ⟨front.length, delivered, last, parted.symm, fun longest bound => ?_⟩
  have used : consumed = front ++ [c] := by
    rw [text, List.append_cons] at whole
    exact List.append_cancel_right whole
  have atHand : delivered.flatten = consumed ++ l.scanner.stream.pushback := by
    rw [← parted, List.flatten_append, CharStream.text, ← List.append_assoc] at whole
    exact (List.append_cancel_right whole).symm
  have few : l.scanner.stream.pushback.length ≤ longest := room longest bound
  rw [atHand, used, List.length_append, List.length_append, List.length_singleton]
  exact Nat.add_le_add_left few _

/-- **No character is lost, repeated or read too early.** Over every stream of which no chunk is empty, whether or not it
fails behind them:

* at every moment between two accesses to the stream the characters that the lexer has consumed, those at hand with the
  next one first, and those of the chunks that it has not asked for are the text, in this order;
* no more characters are at hand than the longest chunk has;
* at each of these moments a token is being computed, behind those that the lexer has computed already, and they lead
  through all tokens;
* behind a token other than the end of the input, no more characters have been delivered beyond the last one of the token
  than the longest chunk has, so over a stream of single characters at most one.
-/
theorem accounts (full : [] ∉ chunks) (failure : Option Cause) :
    let lexer := ofStream (.ofChunks chunks failure)
    (∀ consumed m, lexer.Passes consumed m →
      consumed ++ m.scanner.stream.pushback ++ m.scanner.stream.chunks.flatten = chunks.flatten ∧
        (∀ longest, (∀ chunk ∈ chunks, chunk.length ≤ longest) → m.scanner.stream.pushback.length ≤ longest) ∧
        ∃ ts l, lexer.Reaches ts l ∧ m.outcome = l.compute) ∧
    (∀ ts l, lexer.Reaches ts l → ∃ consumed, lexer.Passes consumed (.ofLexer l)) ∧
    ∀ ts t l, lexer.Reaches (ts ++ [t]) l → t ≠ .endOfInput →
      ∃ place delivered, LastAt chunks.flatten (ts ++ [t]) place ∧ chunks = delivered ++ l.scanner.stream.chunks ∧
        ∀ longest, (∀ chunk ∈ chunks, chunk.length ≤ longest) → delivered.flatten.length ≤ place + 1 + longest := by
  intro lexer
  refine ⟨fun consumed m passes => ?_, fun _ _ => Reaches.passes, fun _ _ _ reached => reached.length_delivered_le full⟩
  obtain ⟨whole, -, -, room⟩ := passes.inOrder full
  rw [CharStream.text, ← List.append_assoc] at whole
  exact ⟨whole, fun longest bound => Nat.le_trans (Nat.le_add_right _ _) (room longest bound), passes.exists_reaches⟩

/-- Behind a word of two characters, which begins like a comment, a third one has been delivered and is at hand. -/
theorem accounts_word :
    let chunks : List (List Char) := [['/'], ['a'], [';']]
    let lexer := ofStream (.ofChunks chunks none)
    let behind : Lexer := ⟨⟨⟨[';'], [], none⟩, 1⟩, false⟩
    [] ∉ chunks ∧ lexer.Reaches ([] ++ [.string "/a"]) behind ∧
      (∃ consumed, lexer.Passes consumed (.ofLexer behind) ∧ consumed ++ [';'] = ['/', 'a', ';']) ∧
      ∃ place delivered, LastAt chunks.flatten ([] ++ [.string "/a"]) place ∧ chunks = delivered ++ [] ∧
        delivered.flatten.length ≤ place + 1 + 1 := by
  intro chunks lexer behind
  have full : [] ∉ chunks := by decide
  have computed : lexer.compute = (behind, .item (.string "/a")) := compute_of_iterate 6 rfl
  have reached : lexer.Reaches ([] ++ [.string "/a"]) behind := .step .start computed
  obtain ⟨moments, through, beyond⟩ := accounts full none
  obtain ⟨consumed, passes⟩ := through _ _ reached
  obtain ⟨place, delivered, last, parted, few⟩ := beyond _ _ _ reached (by decide)
  refine ⟨full, reached, ⟨consumed, passes, ?_⟩, place, delivered, last, parted, few 1 (by decide)⟩
  simpa [Machine.ofLexer, behind, chunks] using (moments _ _ passes).1

end Lexer

end CommandTree
