import CommandTree.ByteStream
/-!
Codecs and their names.

Which codecs there are is not fixed here: a name is looked up, and what is found decodes bytes and encodes characters. A
decoder is fed with the bytes of an input as they come, keeps what does not complete a character, and is told where the
input ends. A codec has one decoder for inputs that are read in blocks, and one for inputs of which no more is read than
the next character takes. Not every codec is a text encoding: some transform bytes into bytes, or text into text.

* `ByteDecoder.decodeBlocks` decodes the blocks of an input, and holds a carriage return at the end of a block back;
* `holdBack_append`: what is held back is delivered with the next characters, so nothing is lost between blocks that
  decode;
* `ByteDecoder.decodeSteps` decodes as far as bytes come;
* `Codecs.lookup` looks a codec up, `Codecs.textCodec` one that is a text encoding.
-/

namespace CommandTree

/-! ### Decoders -/

/-- Why no more characters come of an input: it fails or does not decode, or it comes to something that is no text, such
as a lone surrogate or, in a codec that is no text encoding, other bytes. -/
inductive DecodeStop where
  | failed (cause : Cause)
  | noText
  deriving DecidableEq, Repr

/-- A decoder that is fed with the bytes of an input, and told where they end. -/
structure ByteDecoder where
  State : Type
  start : State
  feed : List UInt8 → State → Except DecodeStop (List Char × State)
  finish : State → Except DecodeStop (List Char)

/-- The characters of a block behind a carriage return that was held back, if one was. -/
def withHeld (held : Bool) (cs : List Char) : List Char := if held then '\r' :: cs else cs

/-- The characters of a block that are delivered with it, and whether a carriage return is held back after it. One at
the end of the block waits for what follows, so that both characters of a line break are delivered together. -/
def holdBack (held : Bool) (cs : List Char) : List Char × Bool :=
  if cs.isEmpty then ([], held)
  else
    let cs := withHeld held cs
    if cs.getLast? = some '\r' then (cs.dropLast, true) else (cs, false)

/-- What is delivered with a block and what is held back after it are its characters behind the one held before. -/
theorem holdBack_append (held : Bool) (cs : List Char) :
    (holdBack held cs).1 ++ withHeld (holdBack held cs).2 [] = withHeld held cs := by
  unfold holdBack
  split
  · rename_i none_
    rw [List.isEmpty_iff.1 none_, List.nil_append]
  · simp only
    split
    · rename_i ends
      obtain ⟨front, whole⟩ := List.getLast?_eq_some_iff.1 ends
      rw [whole, List.dropLast_concat]
      rfl
    · exact List.append_nil _

namespace ByteDecoder

/-- Decodes what is left of an input that is read in blocks, where a carriage return may have been held back. The
characters before the first block that does not decode are delivered, and then the error; a carriage return that is held
back then, or before a failure, is lost. -/
def decodeBlocks (d : ByteDecoder) (failure : Option Cause) (held : Bool) (s : d.State) :
    List (List UInt8) → List Char × Option DecodeStop
  | [] =>
    match failure with
    | some cause => ([], some (.failed cause))
    | none =>
      match d.finish s with
      | .error e => ([], some e)
      | .ok cs => (withHeld held cs, none)
  | bytes :: blocks =>
    match d.feed bytes s with
    | .error e => ([], some e)
    | .ok (cs, s) =>
      let (ready, held) := holdBack held cs
      let (more, stop) := decodeBlocks d failure held s blocks
      (ready ++ more, stop)

/-- Decodes what is left of an input of which no more is read than the next character takes. -/
def decodeSteps (d : ByteDecoder) (failure : Option Cause) (s : d.State) :
    List (List UInt8) → List Char × Option DecodeStop
  | [] =>
    match failure with
    | some cause => ([], some (.failed cause))
    | none =>
      match d.finish s with
      | .error e => ([], some e)
      | .ok cs => (cs, none)
  | bytes :: blocks =>
    match d.feed bytes s with
    | .error e => ([], some e)
    | .ok (cs, s) =>
      let (more, stop) := decodeSteps d failure s blocks
      (cs ++ more, stop)

end ByteDecoder

/-! ### Codecs -/

/-- A codec. -/
structure Codec where
  isText : Bool
  inBlocks : ByteDecoder
  stepwise : ByteDecoder
  encode? : List Char → Option (List UInt8)

namespace Codec

/-- The characters of a stream that is read in blocks, and why they end if not at the end of the stream. -/
def decodeBuffered (c : Codec) (s : ByteStream) : List Char × Option DecodeStop :=
  c.inBlocks.decodeBlocks s.failure false c.inBlocks.start s.blocks

/-- The characters of a stream of which no more is read than the next one takes, and why they end if not at the end of
the stream. -/
def decodePulled (c : Codec) (s : ByteStream) : List Char × Option DecodeStop :=
  c.stepwise.decodeSteps s.failure c.stepwise.start s.blocks

end Codec

/-! ### Names -/

/-- The codecs by their names. -/
structure Codecs where
  find? : String → Option Codec

/-- Why a name stands for no codec, or for none that is a text encoding. -/
inductive EncodingProblem where
  | unknown (name : String)
  | notText (name : String)
  | nullInName
  deriving DecidableEq, Repr

/-- The wording of a problem with the name of an encoding. -/
def EncodingProblem.message : EncodingProblem → String
  | unknown name => "unknown encoding: " ++ name
  | notText name =>
    "'" ++ name ++ "' is not a text encoding; use codecs.open() to handle arbitrary codecs"
  | nullInName => "embedded null character"

namespace Codecs

/-- The codec of a name. -/
def lookup (codecs : Codecs) (name : String) : Except EncodingProblem Codec :=
  if name.toList.contains '\x00' then .error .nullInName
  else match codecs.find? name with
    | none => .error (.unknown name)
    | some codec => .ok codec

/-- The codec of a name, if it is a text encoding. -/
def textCodec (codecs : Codecs) (name : String) : Except EncodingProblem Codec :=
  match codecs.lookup name with
  | .error problem => .error problem
  | .ok codec => if codec.isText then .ok codec else .error (.notText name)

end Codecs

end CommandTree
