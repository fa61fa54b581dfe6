import CommandTree.Cause
/-!
Streams of bytes that are delivered in blocks.

A block has one byte at least. Behind the last block the stream is at its end, or fails.

* `ByteStream.Holds` tells which bytes a stream delivers that does not fail;
* `ByteStream.cut` delivers bytes in blocks of one length, of which only the last may be shorter.
-/

namespace CommandTree

/-- A stream of bytes. -/
structure ByteStream where
  -- what happens behind the blocks, if it is not the end
  failure : Option Cause
  blocks : List (List UInt8)
  full : [] ∉ blocks

namespace ByteStream

/-- Whether a stream delivers some bytes and then ends. -/
def Holds (s : ByteStream) (bytes : List UInt8) : Prop := s.failure = none ∧ s.blocks.flatten = bytes

/-- Cuts a list into pieces of a positive length; the last one may be shorter. -/
def pieces (length : Nat) (bytes : List UInt8) : List (List UInt8) :=
  match bytes with
  | [] => []
  | b :: bs => (b :: bs.take (length - 1)) :: pieces length (bs.drop (length - 1))
termination_by bytes.length
decreasing_by
  simp only [List.length_drop, List.length_cons]
  omega

/-- No piece is empty. -/
theorem nil_notMem_pieces (length : Nat) (bytes : List UInt8) : [] ∉ pieces length bytes := by
  induction bytes using pieces.induct length with
  | case1 => rw [pieces]; exact List.not_mem_nil
  | case2 b bs ih =>
      rw [pieces, List.mem_cons, not_or]
      exact ⟨nofun, ih⟩

/-- Pieces put together again. -/
theorem flatten_pieces (length : Nat) (bytes : List UInt8) : (pieces length bytes).flatten = bytes := by
  induction bytes using pieces.induct length with
  | case1 => rw [pieces]; rfl
  | case2 b bs ih => rw [pieces, List.flatten_cons, ih, List.cons_append, List.take_append_drop]

/-- The stream that delivers bytes in blocks of the given length. -/
def cut (length : Nat) (bytes : List UInt8) : ByteStream := ⟨none, pieces length bytes, nil_notMem_pieces length bytes⟩

/-- A stream holds the bytes that it was cut from. -/
theorem holds_cut (length : Nat) (bytes : List UInt8) : (cut length bytes).Holds bytes :=
  ⟨rfl, flatten_pieces length bytes⟩

end ByteStream

end CommandTree
