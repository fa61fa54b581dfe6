import Mathlib.Tactic.Common
import CommandTree.Encoding.Decoder
/-!
How bytes are cut into blocks makes no difference to the characters.

A character decoder is stable if the bytes behind a character, or behind an error, have no part in it. What a stable
decoder makes of some bytes can then be put together from what it makes of their beginning, and of the rest with the
bytes that were left over in front. Blocks of any sizes come to the same, and a carriage return that is held back
between them is neither lost nor doubled.

* `CharDecoder.Reads`: the characters of some bytes, and the bytes at the end that complete none;
* `CharDecoder.Stable.append`, `CharDecoder.Stable.split`, `CharDecoder.Stable.behind`: the rules for bytes that are cut
  in two;
* `CharDecoder.Stable.decodeSteps_iff`: an input of which no more is read than characters take decodes if its bytes do,
  whatever is left at its end;
* `CharDecoder.Stable.decodeBlocks_iff`: an input that is read in blocks decodes if its bytes do, and nothing is left.
-/

namespace CommandTree

/-! ### What a decoder reads -/

namespace CharDecoder

/-- Bytes are these characters one after the other, and then bytes that do not complete a character. -/
inductive Reads (d : CharDecoder) : List UInt8 → List Char → List UInt8 → Prop
  | nil : Reads d [] [] []
  | char {b : UInt8} {bs rest left : List UInt8} {c : Char} {cs : List Char} (first : d.step b bs = .char c rest)
    (more : Reads d rest cs left) : Reads d (b :: bs) (c :: cs) left
  | inside {b : UInt8} {bs : List UInt8} {length : Nat} {problem : DecodeProblem}
    (first : d.step b bs = .incomplete length problem) : Reads d (b :: bs) [] (b :: bs)

variable {d : CharDecoder} {stop : Nat} {bytes left : List UInt8} {cs : List Char}

/-- Induction along the characters: what holds behind the first character, if there is one, holds of all bytes. -/
@[elab_as_elim]
lemma induction_on (d : CharDecoder) {motive : List UInt8 → Prop} (bytes : List UInt8) (nil : motive [])
    (cons : ∀ b bs, (∀ c rest, d.step b bs = .char c rest → motive rest) → motive (b :: bs)) : motive bytes :=
  match bytes with
  | [] => nil
  | b :: bs => cons b bs fun _ rest first =>
    have _ : rest.length ≤ bs.length := d.step_le first
    induction_on d rest nil cons
termination_by bytes.length

/-- A block begins with its first character. -/
lemma block_cons (final : Bool) (b : UInt8) (bs : List UInt8) :
    d.block final stop (b :: bs) = match d.step b bs with
      | .char c rest => (d.block final stop rest).map fun behind => (c :: behind.1, behind.2)
      | .incomplete length problem =>
        if final then .error (d.error stop length (b :: bs) problem) else .ok ([], b :: bs)
      | .invalid length problem => .error (d.error stop length (b :: bs) problem) := by
  rw [block]
  split
  · rename_i first
    simp only [first]
    cases d.block final stop _ <;> rfl
  · rename_i first
    simp only [first]
  · rename_i first
    simp only [first]

/-- What is read of a block. Nothing is left of the last one. -/
lemma block_iff (final : Bool) :
    d.block final stop bytes = .ok (cs, left) ↔ d.Reads bytes cs left ∧ (final = true → left = []) := by
  constructor
  · intro decoded
    induction bytes using d.induction_on generalizing cs with
    | nil =>
        rw [block] at decoded
        cases decoded
        exact ⟨.nil, fun _ => rfl⟩
    | cons b bs ih =>
        rw [block_cons] at decoded
        split at decoded
        · rename_i c rest first
          cases more : d.block final stop rest with
          | error e => rw [more] at decoded; cases decoded
          | ok behind =>
              rw [more] at decoded
              cases decoded
              have reads := ih c rest first more
              exact ⟨.char first reads.1, reads.2⟩
        · rename_i first
          split at decoded
          · cases decoded
          · rename_i goes_on
            cases decoded
            exact ⟨.inside first, fun final => absurd final goes_on⟩
        · cases decoded
  · rintro ⟨reads, ends⟩
    induction reads with
    | nil => rw [block]
    | char first _ ih =>
        rw [block_cons, first]
        simp only [ih ends, Except.map]
    | inside first =>
        rw [block_cons, first]
        cases final with
        | false => rfl
        | true => cases ends rfl

/-! ### Bytes that are cut in two -/

/-- What follows a character or an error has no part in it. -/
structure Stable (d : CharDecoder) : Prop where
  char : ∀ {b bs c rest}, d.step b bs = .char c rest → ∀ more, d.step b (bs ++ more) = .char c (rest ++ more)
  invalid : ∀ {b bs length problem}, d.step b bs = .invalid length problem →
    ∀ more, d.step b (bs ++ more) = .invalid length problem

/-- Bytes are read in one way. -/
lemma Reads.unique {cs' : List Char} {left' : List UInt8} (h : d.Reads bytes cs left) (h' : d.Reads bytes cs' left') :
    cs = cs' ∧ left = left' := by
  have one := (@block_iff d 0 _ _ _ false).2 ⟨h, nofun⟩
  have other := (@block_iff d 0 _ _ _ false).2 ⟨h', nofun⟩
  rw [one] at other
  cases other
  exact ⟨rfl, rfl⟩

/-- Bytes that complete no character are read as such. -/
lemma Reads.of_left (h : d.Reads bytes cs left) : d.Reads left [] left := by
  induction h with
  | nil => exact .nil
  | char _ _ ih => exact ih
  | inside first => exact .inside first

namespace Stable

variable {u v mid : List UInt8} {cs' : List Char}

/-- What is left of the first part is read with the second. -/
lemma append (stable : d.Stable) (h : d.Reads u cs mid) (h' : d.Reads (mid ++ v) cs' left) :
    d.Reads (u ++ v) (cs ++ cs') left := by
  induction h with
  | nil => exact h'
  | char first _ ih => exact .char (stable.char first v) (ih h')
  | inside => exact h'

/-- Bytes that are read can be cut anywhere. -/
lemma split (stable : d.Stable) (v : List UInt8) (h : d.Reads (u ++ v) cs left) :
    ∃ cs₁ mid cs₂, d.Reads u cs₁ mid ∧ d.Reads (mid ++ v) cs₂ left ∧ cs = cs₁ ++ cs₂ := by
  induction u using d.induction_on generalizing cs with
  | nil => exact ⟨[], [], cs, .nil, h, rfl⟩
  | cons b bs ih =>
      cases first : d.step b bs with
      | char c rest =>
          have same := stable.char first v
          cases h with
          | char first' more =>
              cases same.symm.trans first'
              obtain ⟨cs₁, mid, cs₂, front, back, rfl⟩ := ih c rest first more
              exact ⟨c :: cs₁, mid, cs₂, .char first front, back, rfl⟩
          | inside first' => cases same.symm.trans first'
      | incomplete length problem => exact ⟨[], b :: bs, cs, .inside first, h, rfl⟩
      | invalid length problem =>
          have same := stable.invalid first v
          cases h with
          | char first' => cases same.symm.trans first'
          | inside first' => cases same.symm.trans first'

/-- What is left of the first part is read with the second in one way. -/
lemma behind (stable : d.Stable) {cs₁ : List Char} (front : d.Reads u cs₁ mid) (h : d.Reads (u ++ v) cs left) :
    ∃ cs₂, d.Reads (mid ++ v) cs₂ left ∧ cs = cs₁ ++ cs₂ := by
  obtain ⟨cs₁', mid', cs₂, front', back, rfl⟩ := stable.split v h
  obtain ⟨rfl, rfl⟩ := front.unique front'
  exact ⟨cs₂, back, rfl⟩

end Stable

end CharDecoder

/-! ### Whole inputs -/

namespace Decoder

open CharDecoder

variable {d : CharDecoder} {kept : List UInt8} {cs : List Char} {held : Bool}

/-- A block is read behind the bytes that an earlier one has left. -/
lemma feed_chars_iff {bytes : List UInt8} {s : Decoder × List UInt8} :
    feed bytes (chars d, kept) = .ok (cs, s) ↔ ∃ left, d.Reads (kept ++ bytes) cs left ∧ s = (chars d, left) := by
  have reads (left : List UInt8) := @block_iff d (0 + (kept ++ bytes).length) (kept ++ bytes) left cs false
  simp only [Bool.false_eq_true, false_imp_iff, and_true] at reads
  simp only [← reads, feed, block, charBlock]
  cases d.block false (0 + (kept ++ bytes).length) (kept ++ bytes) with
  | error e => simp
  | ok r => simp [Prod.ext_iff, eq_comm, and_assoc]

/-- At the end of the input nothing must be left. -/
lemma finish_chars_iff : finish (chars d, kept) = .ok cs ↔ d.Reads kept cs [] := by
  have reads (left : List UInt8) := @block_iff d (0 + kept.length) kept left cs true
  simp only [true_imp_iff] at reads
  simp only [finish, block, charBlock]
  cases decoded : d.block true (0 + kept.length) kept with
  | error e =>
      refine ⟨nofun, fun whole => ?_⟩
      cases decoded.symm.trans ((reads []).2 ⟨whole, rfl⟩)
  | ok r =>
      obtain ⟨cs', left⟩ := r
      constructor
      · intro same
        cases same
        obtain ⟨whole, rfl⟩ := (reads left).1 decoded
        exact whole
      · intro whole
        cases decoded.symm.trans ((reads []).2 ⟨whole, rfl⟩)
        rfl

end Decoder

lemma withHeld_append (held : Bool) (cs cs' : List Char) : withHeld held cs ++ cs' = withHeld held (cs ++ cs') := by
  cases held <;> rfl

namespace CharDecoder.Stable

variable {d : CharDecoder} {kept left : List UInt8} {cs : List Char} {held : Bool}

/-- A block does not fail if it is in front of bytes with which it is read. -/
lemma feed_ne_error (stable : d.Stable) {bytes more : List UInt8} {e : DecodeStop}
    (reads : d.Reads (kept ++ bytes ++ more) cs left) : Decoder.feed bytes (.chars d, kept) ≠ .error e := by
  obtain ⟨cs₁, mid, cs₂, front, -, -⟩ := stable.split _ reads
  rw [Decoder.feed_chars_iff.2 ⟨mid, front, rfl⟩]
  nofun

/-- **An input of which no more is read than characters take** decodes if its bytes do, and it does not fail. What is left
at its end is dropped. -/
theorem decodeSteps_iff (stable : d.Stable) (failure : Option Cause) (blocks : List (List UInt8))
    (pending : d.Reads kept [] kept) :
    (Decoder.chars d).stepwise.decodeSteps failure (.chars d, kept) blocks = (cs, none) ↔
      failure = none ∧ ∃ left, d.Reads (kept ++ blocks.flatten) cs left := by
  induction blocks generalizing kept cs with
  | nil =>
      rw [List.flatten_nil, List.append_nil]
      cases failure with
      | some cause => simp [ByteDecoder.decodeSteps]
      | none =>
          simp only [true_and]
          constructor
          · intro decoded
            cases decoded
            exact ⟨kept, pending⟩
          · rintro ⟨left, reads⟩
            rw [(reads.unique pending).1]
            rfl
  | cons bytes blocks ih =>
      rw [List.flatten_cons, ← List.append_assoc, ByteDecoder.decodeSteps]
      cases decoded : (Decoder.chars d).stepwise.feed bytes (.chars d, kept) with
      | error e => exact ⟨nofun, fun ⟨_, left, reads⟩ => absurd decoded (stable.feed_ne_error reads)⟩
      | ok r =>
          obtain ⟨cs₁, s⟩ := r
          obtain ⟨mid, front, rfl⟩ := Decoder.feed_chars_iff.1 decoded
          constructor
          · intro whole
            rcases rest : (Decoder.chars d).stepwise.decodeSteps failure (.chars d, mid) blocks with ⟨more, stop⟩
            simp only [rest] at whole
            cases whole
            obtain ⟨ends, left, back⟩ := (ih front.of_left).1 rest
            exact ⟨ends, left, stable.append front back⟩
          · rintro ⟨ends, left, reads⟩
            obtain ⟨cs₂, back, rfl⟩ := stable.behind front reads
            simp only [(ih front.of_left).2 ⟨ends, left, back⟩]

/-- **An input that is read in blocks** decodes if its bytes do, nothing is left, and it does not fail. -/
theorem decodeBlocks_iff (stable : d.Stable) (failure : Option Cause) (blocks : List (List UInt8)) :
    (Decoder.chars d).inBlocks.decodeBlocks failure held (.chars d, kept) blocks = (cs, none) ↔
      failure = none ∧ ∃ cs', d.Reads (kept ++ blocks.flatten) cs' [] ∧ cs = withHeld held cs' := by
  induction blocks generalizing kept cs held with
  | nil =>
      rw [List.flatten_nil, List.append_nil]
      cases failure with
      | some cause => simp [ByteDecoder.decodeBlocks]
      | none =>
          simp only [ByteDecoder.decodeBlocks, true_and]
          cases decoded : Decoder.finish (.chars d, kept) with
          | error e =>
              refine ⟨nofun, fun ⟨cs', reads, _⟩ => ?_⟩
              cases decoded.symm.trans (Decoder.finish_chars_iff.2 reads)
          | ok cs' =>
              have reads := Decoder.finish_chars_iff.1 decoded
              constructor
              · intro whole
                cases whole
                exact ⟨cs', reads, rfl⟩
              · rintro ⟨_, reads', rfl⟩
                rw [(reads.unique reads').1]
  | cons bytes blocks ih =>
      rw [List.flatten_cons, ← List.append_assoc, ByteDecoder.decodeBlocks]
      cases decoded : (Decoder.chars d).inBlocks.feed bytes (.chars d, kept) with
      | error e => exact ⟨nofun, fun ⟨_, cs', reads, _⟩ => absurd decoded (stable.feed_ne_error reads)⟩
      | ok r =>
          obtain ⟨cs₁, s⟩ := r
          obtain ⟨mid, front, rfl⟩ := Decoder.feed_chars_iff.1 decoded
          -- what is held back now comes in front of the next characters
          have carried (cs₂ : List Char) :
              (holdBack held cs₁).1 ++ withHeld (holdBack held cs₁).2 cs₂ = withHeld held (cs₁ ++ cs₂) := by
            rw [← withHeld_append held, ← holdBack_append held, List.append_assoc, withHeld_append, List.nil_append]
          constructor
          · intro whole
            rcases rest : (Decoder.chars d).inBlocks.decodeBlocks failure (holdBack held cs₁).2 (.chars d, mid) blocks
              with ⟨more, stop⟩
            simp only [rest] at whole
            cases whole
            obtain ⟨ends, cs₂, back, rfl⟩ := ih.1 rest
            exact ⟨ends, cs₁ ++ cs₂, stable.append front back, carried cs₂⟩
          · rintro ⟨ends, cs', reads, rfl⟩
            obtain ⟨cs₂, back, rfl⟩ := stable.behind front reads
            simp only [ih.2 ⟨ends, cs₂, back, rfl⟩, carried]

end CharDecoder.Stable

end CommandTree
