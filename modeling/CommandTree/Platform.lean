import CommandTree.CommandLine.Options
import CommandTree.Console
import CommandTree.Reader
import CommandTree.Settings
/-!
What a program runs on, and what is relied on of it.

* `Platform` bundles the codecs, the loader of settings, the reader of arguments, the console and the call stack;
* `Platform.IsLawful` is what is relied on: decoders fail in the ways of bytes alone, an encoding is checked before it is
  loaded, an argument that is no option ends the options, and nothing but faulty markup is refused.
-/

namespace CommandTree

/-! ### Decoders that fail -/

/-- The failures to decode bytes: bytes that are no characters, a missing mark of their order, or another failure of the
value that they are. -/
inductive Cause.OfBytes : Cause → Prop
  | undecodable (e : DecodeError) : OfBytes (.undecodable e)
  | noByteOrderMark : OfBytes .noByteOrderMark
  | value (message : String) : OfBytes (.value message)

/-- A decoder fails as bytes do, if it fails. -/
structure ByteDecoder.FailsAsBytes (d : ByteDecoder) : Prop where
  feed : ∀ {bytes s cause}, d.feed bytes s = .error (.failed cause) → cause.OfBytes
  finish : ∀ {s cause}, d.finish s = .error (.failed cause) → cause.OfBytes

/-- The standard encoding is a text encoding, and the decoders of text encodings fail as bytes do. -/
structure Codecs.IsLawful (codecs : Codecs) : Prop where
  standard : ∃ codec, codecs.textCodec Settings.standard.encoding = .ok codec
  fails : ∀ {name codec}, codecs.textCodec name = .ok codec → codec.inBlocks.FailsAsBytes

/-! ### Platforms -/

/-- What a program runs on. -/
structure Platform where
  codecs : Codecs
  loader : SettingsLoader
  arguments : ArgumentReader
  console : Console
  stack : CallStack

namespace Platform

/-- The settings that the environment holds. -/
def settings (p : Platform) (env : Environment) : Except SettingsError Settings := p.loader.load (Settings.form p.codecs) env

/-- What is relied on. -/
structure IsLawful (p : Platform) : Prop where
  codecs : p.codecs.IsLawful
  loader : p.loader.ChecksEncoding
  arguments : p.arguments.StopsAtOther
  console : p.console.TakesPlain

end Platform

end CommandTree
