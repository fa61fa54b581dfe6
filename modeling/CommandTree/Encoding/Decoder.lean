import CommandTree.Codec
import CommandTree.Encoding
/-!
Decoding bytes into characters, block by block.

A character decoder takes one character off the front of some bytes, or finds that they end inside a character or
that no character begins there. A block of bytes is decoded as a whole: one error in it spoils all of it. Bytes at
the end of a block that do not complete a character are kept for the next block.

* `CharDecoder.block` decodes a block, and `Decoder.block` minds signatures and byte order marks too;
* `Decoder.inBlocks` refuses an incomplete character at the end of the input, and `Decoder.stepwise` drops it.
-/

namespace CommandTree

/-! ### Single characters -/

/-- What bytes begin with. -/
inductive CharStep where
  | char (c : Char) (rest : List UInt8)
  -- a character that the bytes do not complete; where the input ends with them, the first so many offend
  | incomplete (length : Nat) (problem : DecodeProblem)
  | invalid (length : Nat) (problem : DecodeProblem)

/-- A way to decode one character after the other. -/
structure CharDecoder where
  codec : String
  step : UInt8 → List UInt8 → CharStep
  step_le : ∀ {b bs c rest}, step b bs = .char c rest → rest.length ≤ bs.length

/-- A decoding error where the first `length` of the given bytes offend, which end at the position `stop`. -/
def CharDecoder.error (d : CharDecoder) (stop length : Nat) (bytes : List UInt8) (problem : DecodeProblem) :
    DecodeError :=
  ⟨d.codec, stop - bytes.length, bytes.take length, problem⟩

/-- Decodes a block, which ends at the position `stop`: the characters, and the bytes at the end that do not complete
one. At the final end of the input there must be no such bytes. -/
def CharDecoder.block (d : CharDecoder) (final : Bool) (stop : Nat) (bytes : List UInt8) :
    Except DecodeError (List Char × List UInt8) :=
  match bytes with
  | [] => .ok ([], [])
  | b :: bs =>
    match _h : d.step b bs with
    | .char c rest =>
      match d.block final stop rest with
      | .ok (cs, left) => .ok (c :: cs, left)
      | .error e => .error e
    | .incomplete length problem =>
      if final then .error (d.error stop length (b :: bs) problem) else .ok ([], b :: bs)
    | .invalid length problem => .error (d.error stop length (b :: bs) problem)
termination_by bytes.length
decreasing_by exact Nat.lt_succ_of_le (d.step_le _h)

/-! ### The encodings -/

namespace CharDecoder

/-- Whether a byte of UTF-8 continues a character. -/
def continues (b : UInt8) : Bool := 0x80 ≤ b && b < 0xC0

/-- The low six bits of a byte that continues a character. -/
def payload (b : UInt8) : Nat := b.toNat % 0x40

/-- The character of a code point. -/
def charOf (n : Nat) : Char := Char.ofNat n

/-- Whether the second byte of a character of UTF-8 is admitted behind the first: no character has a longer form than it
needs, none is a surrogate, and none is beyond the last code point. -/
def admitsSecond (first second : UInt8) : Bool :=
  continues second && !(first == 0xE0 && second < 0xA0) && !(first == 0xED && 0xA0 ≤ second)
    && !(first == 0xF0 && second < 0x90) && !(first == 0xF4 && 0x90 ≤ second)

/-- Whether two bytes of UTF-8 would begin a surrogate. They are refused only where a third byte or the end of the input
follows. -/
def beginsSurrogate (first second : UInt8) : Bool := first == 0xED && 0xA0 ≤ second && continues second

/-- What bytes of UTF-8 begin with. -/
def utf8Step (b : UInt8) (bs : List UInt8) : CharStep :=
  if b < 0x80 then .char (charOf b.toNat) bs
  else if b < 0xC2 then .invalid 1 .invalidStart
  else if b < 0xE0 then
    match bs with
    | [] => .incomplete 1 .unexpectedEnd
    | b1 :: rest =>
      if continues b1 then .char (charOf (b.toNat % 0x20 * 0x40 + payload b1)) rest
      else .invalid 1 .invalidContinuation
  else if b < 0xF0 then
    match bs with
    | [] => .incomplete 1 .unexpectedEnd
    | b1 :: bs =>
      if beginsSurrogate b b1 && bs.isEmpty then .incomplete 1 .invalidContinuation
      else if !admitsSecond b b1 then .invalid 1 .invalidContinuation
      else match bs with
        | [] => .incomplete 2 .unexpectedEnd
        | b2 :: rest =>
          if continues b2 then .char (charOf ((b.toNat % 0x10 * 0x40 + payload b1) * 0x40 + payload b2)) rest
          else .invalid 2 .invalidContinuation
  else if b < 0xF5 then
    match bs with
    | [] => .incomplete 1 .unexpectedEnd
    | b1 :: bs =>
      if !admitsSecond b b1 then .invalid 1 .invalidContinuation
      else match bs with
        | [] => .incomplete 2 .unexpectedEnd
        | b2 :: bs =>
          if !continues b2 then .invalid 2 .invalidContinuation
          else match bs with
            | [] => .incomplete 3 .unexpectedEnd
            | b3 :: rest =>
              if continues b3 then
                .char (charOf (((b.toNat % 0x08 * 0x40 + payload b1) * 0x40 + payload b2) * 0x40 + payload b3)) rest
              else .invalid 3 .invalidContinuation
  else .invalid 1 .invalidStart

/-- What bytes of UTF-16 begin with, where `unit` puts the two bytes of a unit together. -/
def utf16Step (unit : UInt8 → UInt8 → Nat) (b : UInt8) (bs : List UInt8) : CharStep :=
  match bs with
  | [] => .incomplete 1 .truncated
  | b1 :: rest =>
    let high := unit b b1
    if high < 0xD800 || 0xE000 ≤ high then .char (charOf high) rest
    else if 0xDC00 ≤ high then .invalid 2 .illegalEncoding
    else match rest with
      | b2 :: b3 :: rest =>
        let low := unit b2 b3
        if 0xDC00 ≤ low && low < 0xE000 then
          .char (charOf (0x10000 + (high - 0xD800) * 0x400 + (low - 0xDC00))) rest
        else .invalid 2 .illegalSurrogate
      | [] => .incomplete 2 .unexpectedEnd
      | [_] => .incomplete 3 .unexpectedEnd

/-- The decoder of UTF-8. -/
def utf8 : CharDecoder where
  codec := "utf-8"
  step := utf8Step
  step_le {b bs c rest} h := by
    unfold utf8Step at h
    repeat' split at h
    all_goals cases h
    all_goals simp +arith

/-- A character of UTF-16 takes at least the first byte. -/
theorem utf16Step_le {unit : UInt8 → UInt8 → Nat} {b : UInt8} {bs : List UInt8} {c : Char} {rest : List UInt8}
    (h : utf16Step unit b bs = .char c rest) : rest.length ≤ bs.length := by
  unfold utf16Step at h
  split at h
  · cases h
  · simp only at h
    split at h
    · simp only [CharStep.char.injEq] at h
      obtain ⟨_, rfl⟩ := h
      simp
    · split at h
      · cases h
      · split at h
        · split at h
          · simp only [CharStep.char.injEq] at h
            obtain ⟨_, rfl⟩ := h
            simp only [List.length_cons]
            omega
          · cases h
        · cases h
        · cases h

/-- The decoder of UTF-16 with the low byte first. -/
def utf16Little : CharDecoder where
  codec := "utf-16-le"
  step := utf16Step fun low high => high.toNat * 0x100 + low.toNat
  step_le := utf16Step_le

/-- The decoder of UTF-16 with the high byte first. -/
def utf16Big : CharDecoder where
  codec := "utf-16-be"
  step := utf16Step fun high low => high.toNat * 0x100 + low.toNat
  step_le := utf16Step_le

/-- The decoder of the first 256 code points. -/
def latin1 : CharDecoder where
  codec := "latin-1"
  step b bs := .char (charOf b.toNat) bs
  step_le h := by cases h; exact Nat.le_refl _

/-- The decoder of the first 128 code points. -/
def ascii : CharDecoder where
  codec := "ascii"
  step b bs := if b < 0x80 then .char (charOf b.toNat) bs else .invalid 1 .notAscii
  step_le h := by
    split at h <;> cases h
    exact Nat.le_refl _

end CharDecoder

/-! ### Signatures and byte order marks -/

/-- A decoder between two blocks. -/
inductive Decoder where
  | chars (d : CharDecoder)
  -- it has not seen whether the text in UTF-8 has a signature
  | signature
  -- it has not seen the byte order of a text in UTF-16
  | byteOrder

namespace Decoder

/-- The bytes that sign a text in UTF-8. -/
def signatureBytes : List UInt8 := [0xEF, 0xBB, 0xBF]

/-- Decodes characters from the position `start` on, and stays a decoder of characters. -/
def charBlock (d : CharDecoder) (final : Bool) (start : Nat) (bytes : List UInt8) :
    Except Cause (List Char × List UInt8 × Decoder) :=
  match d.block final (start + bytes.length) bytes with
  | .error e => .error (.undecodable e)
  | .ok (cs, left) => .ok (cs, left, chars d)

/-- Decodes a block: the characters, the bytes that are left, and the decoder for the next block. Bytes that might
become a signature are left, even at the final end. Positions are counted from behind a signature, but from a byte
order mark itself. -/
def block (final : Bool) (bytes : List UInt8) : Decoder → Except Cause (List Char × List UInt8 × Decoder)
  | chars d => charBlock d final 0 bytes
  | signature =>
    if bytes.length < 3 && bytes.isPrefixOf signatureBytes then .ok ([], bytes, signature)
    else if signatureBytes.isPrefixOf bytes then charBlock .utf8 final 0 (bytes.drop 3)
    else charBlock .utf8 final 0 bytes
  | byteOrder =>
    match bytes with
    | 0xFF :: 0xFE :: rest => charBlock .utf16Little final 2 rest
    | 0xFE :: 0xFF :: rest => charBlock .utf16Big final 2 rest
    | _ =>
      match CharDecoder.utf16Little.block final bytes.length bytes with
      | .error e => .error (.undecodable e)
      | .ok (_, left) =>
        if left.length + 2 ≤ bytes.length then .error .noByteOrderMark else .ok ([], left, byteOrder)

/-! ### Whole inputs -/

/-- Decodes a block behind the bytes that an earlier one has left. -/
def feed (bytes : List UInt8) : Decoder × List UInt8 → Except DecodeStop (List Char × Decoder × List UInt8)
  | (d, kept) =>
    match d.block false (kept ++ bytes) with
    | .error e => .error (.failed e)
    | .ok (cs, left, d) => .ok (cs, d, left)

/-- Decodes what an earlier block has left at the end of the input. -/
def finish : Decoder × List UInt8 → Except DecodeStop (List Char)
  | (d, kept) =>
    match d.block true kept with
    | .error e => .error (.failed e)
    | .ok (cs, _, _) => .ok cs

/-- The decoder of an input that is read in blocks. -/
abbrev inBlocks (d : Decoder) : ByteDecoder := ⟨Decoder × List UInt8, (d, []), feed, finish⟩

/-- The decoder of an input of which no more is read than the next character takes. It drops what is left at the end. -/
abbrev stepwise (d : Decoder) : ByteDecoder := ⟨Decoder × List UInt8, (d, []), feed, fun _ => .ok []⟩

end Decoder

namespace Encoding

/-- The decoder at the beginning of a text. -/
def decoder : Encoding → Decoder
  | utf8 => .chars .utf8
  | utf8Signed => .signature
  | utf16 => .byteOrder
  | utf16Little => .chars .utf16Little
  | utf16Big => .chars .utf16Big
  | latin1 => .chars .latin1
  | ascii => .chars .ascii

end Encoding

end CommandTree
