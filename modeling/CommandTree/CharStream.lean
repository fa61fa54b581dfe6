import CommandTree.Cause
/-!
Streams of characters that are delivered in chunks.

A stream holds the chunks that are still to be delivered and the characters that have been delivered but not used:
the rest of a chunk, and characters that were handed back. An empty chunk is a momentary end: more may follow it.
When the chunks are used up the stream is at its final end, or fails, at every attempt to read on.

* `CharStream.read` takes the next character, `CharStream.unread` hands one back;
* `read_unread`: a character that was handed back is read next;
* `size_lt_of_read`: a character read leaves less, even when it is handed back later (`size_unread_le_of_read`).
-/

namespace CommandTree

-- Sums start from the core zero, also where a module beside this one brings another.
attribute [local instance (high)] Zero.ofOfNat0

/-- A stream of characters: those in front of all chunks, the chunks that have not been asked for, and what happens behind
the last one, if it is not the end. -/
structure CharStream where
  -- characters that come before all chunks, the next one first
  pushback : List Char
  chunks : List (List Char)
  failure : Option Cause
  deriving DecidableEq, Repr

/-- What an attempt to read a character comes to. -/
inductive Reading where
  | char (c : Char) (rest : CharStream)
  -- the end, for the moment or for good
  | finished (rest : CharStream)
  | failed (cause : Cause)

namespace CharStream

/-! ### Operations -/

/-- The stream that delivers the given chunks. -/
def ofChunks (chunks : List (List Char)) (failure : Option Cause) : CharStream := ⟨[], chunks, failure⟩

/-- The stream that delivers a text character by character and then fails, if a failure is given. -/
def ofChars (cs : List Char) (failure : Option Cause) : CharStream := ofChunks (cs.map ([·])) failure

/-- Takes the next character. -/
def read (s : CharStream) : Reading :=
  match s.pushback with
  | c :: rest => .char c { s with pushback := rest }
  | [] =>
    match s.chunks with
    | (c :: rest) :: more => .char c { s with pushback := rest, chunks := more }
    | [] :: more => .finished { s with chunks := more }
    | [] => match s.failure with
      | none => .finished s
      | some cause => .failed cause

/-- Hands a character back. -/
def unread (c : Char) (s : CharStream) : CharStream := { s with pushback := c :: s.pushback }

/-- A character that was handed back is read next. -/
theorem read_unread (c : Char) (s : CharStream) : (s.unread c).read = .char c s := rfl

/-! ### What is left -/

/-- How much a stream still delivers at most: its characters, and one for every chunk. -/
def size (s : CharStream) : Nat :=
  s.pushback.length + (s.chunks.map fun chunk => chunk.length + 1).sum

/-- Handing a character back adds one. -/
theorem size_unread (c : Char) (s : CharStream) : (s.unread c).size = s.size + 1 := by
  simp only [size, unread, List.length_cons]
  omega

/-- A character read leaves less. -/
theorem size_lt_of_read {s s' : CharStream} {c : Char} (h : s.read = .char c s') : s'.size < s.size := by
  unfold read at h
  split at h
  · rename_i pushed
    cases h
    simp only [size, pushed, List.length_cons]
    omega
  · rename_i pushed
    split at h
    · rename_i delivered
      cases h
      simp only [size, pushed, delivered, List.map_cons, List.sum_cons, List.length_cons, List.length_nil]
      omega
    · cases h
    · split at h <;> cases h

/-- An end leaves no more than there was. -/
theorem size_le_of_finished {s s' : CharStream} (h : s.read = .finished s') : s'.size ≤ s.size := by
  unfold read at h
  split at h
  · cases h
  · split at h
    · cases h
    · rename_i delivered
      cases h
      simp only [size, delivered, List.map_cons, List.sum_cons]
      omega
    · split at h <;> cases h
      exact Nat.le_refl _

/-- A character read and handed back leaves no more than there was. -/
theorem size_unread_le_of_read {s s' : CharStream} {c d : Char} (h : s.read = .char c s') :
    (s'.unread d).size ≤ s.size := by
  rw [size_unread]
  exact size_lt_of_read h

end CharStream

end CommandTree
