import CommandTree.Encoding.Decoder
import CommandTree.Encoding.Encoder
/-!
The codecs that are known, by their names.

Names are compared by their ASCII letters, digits and points alone: letter case does not matter, and any run of other
characters between them counts as one separator. Some codecs that can be named are no text encodings.

* `Encoding.codec` is the codec of an encoding;
* `KnownCodec.ofName?` is what a name stands for, and `KnownCodec.codec` its codec;
* `Codecs.standard` are these codecs by their names.
-/

namespace CommandTree

/-- The codec of an encoding. -/
def Encoding.codec (e : Encoding) : Codec := ⟨true, e.decoder.inBlocks, e.decoder.stepwise, e.encode?⟩

/-- What the name of a codec can stand for. -/
inductive KnownCodec where
  | text (encoding : Encoding)
  | transformation
  deriving DecidableEq, Repr

namespace KnownCodec

/-- The significant characters of a name in lower case, with one low line for each run of other characters between
them; `inside` tells whether a significant character came before, and `gap` whether another one came since. -/
def normalize (inside gap : Bool) : List Char → List Char
  | [] => []
  | c :: cs =>
    if c.isAlphanum || c == '.' then
      if inside && gap then '_' :: c.toLower :: normalize true false cs
      else c.toLower :: normalize true false cs
    else normalize inside true cs

/-- The codecs by their full names. -/
def fullNames : List (String × KnownCodec) :=
  [("utf_8", .text .utf8), ("utf_8_sig", .text .utf8Signed), ("utf_16", .text .utf16),
    ("utf_16_le", .text .utf16Little), ("utf_16_be", .text .utf16Big), ("latin_1", .text .latin1),
    ("iso8859_1", .text .latin1), ("ascii", .text .ascii),
    ("base64_codec", .transformation), ("bz2_codec", .transformation), ("hex_codec", .transformation),
    ("quopri_codec", .transformation), ("rot_13", .transformation), ("uu_codec", .transformation),
    ("zlib_codec", .transformation)]

/-- Other names of the codecs. -/
def aliases : List (List String × KnownCodec) :=
  [(["u8", "utf", "utf8", "utf8_ucs2", "utf8_ucs4", "cp65001"], .text .utf8),
    (["u16", "utf16"], .text .utf16),
    (["unicodelittleunmarked", "utf_16le"], .text .utf16Little),
    (["unicodebigunmarked", "utf_16be"], .text .utf16Big),
    (["8859", "cp819", "csisolatin1", "ibm819", "iso8859", "iso8859_1", "iso_8859_1", "iso_8859_1_1987",
      "iso_ir_100", "l1", "latin", "latin1"], .text .latin1),
    (["646", "ansi_x3.4_1968", "ansi_x3_4_1968", "ansi_x3.4_1986", "cp367", "csascii", "ibm367", "iso646_us",
      "iso_646.irv_1991", "iso_ir_6", "us", "us_ascii"], .text .ascii),
    (["base64", "base_64", "bz2", "hex", "quopri", "quoted_printable", "quotedprintable", "rot13", "uu", "zip",
      "zlib"], .transformation)]

/-- The codec of which a normalized name is another name. -/
def ofAlias? (name : String) : Option KnownCodec :=
  (aliases.find? fun entry => entry.1.contains name).map Prod.snd

/-- The codec that a name stands for. A point in another name may stand for a separator, one in a full name not. -/
def ofName? (name : String) : Option KnownCodec :=
  let chars := normalize false false name.toList
  let plain := String.ofList chars
  let separated := String.ofList (chars.map fun c => if c = '.' then '_' else c)
  (ofAlias? plain <|> ofAlias? separated) <|> fullNames.lookup plain

/-- The codec itself. What a transformation makes of bytes is no text. -/
def codec : KnownCodec → Codec
  | text e => e.codec
  | transformation =>
    let decoder : ByteDecoder := ⟨Unit, (), fun _ _ => .error .noText, fun _ => .error .noText⟩
    ⟨false, decoder, decoder, fun _ => none⟩

end KnownCodec

/-- The codecs that have these names. -/
def Codecs.standard : Codecs := ⟨fun name => (KnownCodec.ofName? name).map KnownCodec.codec⟩

/-- A name that is known stands for its codec. -/
theorem Codecs.lookup_standard {name : String} {known : KnownCodec} (plain : name.toList.contains '\x00' = false)
    (named : KnownCodec.ofName? name = some known) : standard.lookup name = .ok known.codec := by
  have found : standard.find? name = some known.codec := congrArg (Option.map KnownCodec.codec) named
  rw [lookup, plain, if_neg Bool.false_ne_true, found]

end CommandTree
