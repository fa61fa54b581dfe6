import CommandTree.CommandLine
import CommandTree.Platform.Standard
import CommandTree.Proofs.Sources
/-!
Which settings are usable: whatever bytes a command file holds, a command gets a tree or ends with a message.

A text that is no command file is complained of, and so are bytes that do not decode, for the decoders of text encodings
fail in no other way. But the settings admit the name of any codec, and some codecs are no text encodings. With one of
these no file is read.

* `Platform.isLawful_standard`: what is relied on holds of the platform of the program;
* `Reader.reports_parse`: a reader with a text encoding makes a tree or a complaint of all bytes that come to text;
* `Settings.usable_or_transforms`: **settings are usable, or their codec is no text encoding and no file is read**.
-/

namespace CommandTree

variable {failure : Cause}

/-! ### Decoders -/

namespace Decoder

/-- A block of characters fails to decode as bytes do. -/
lemma charBlock_failure {d : CharDecoder} {final : Bool} {start : Nat} {bytes : List UInt8}
    (h : charBlock d final start bytes = .error failure) : failure.OfBytes := by
  unfold charBlock at h
  split at h <;> cases h
  exact .undecodable _

/-- A block fails to decode as bytes do. -/
lemma block_failure {d : Decoder} {final : Bool} {bytes : List UInt8} (h : d.block final bytes = .error failure) :
    failure.OfBytes := by
  cases d with
  | chars d => exact charBlock_failure h
  | signature =>
      simp only [block] at h
      split at h
      · cases h
      split at h
      · exact charBlock_failure h
      · exact charBlock_failure h
  | byteOrder =>
      simp only [block] at h
      split at h
      · exact charBlock_failure h
      · exact charBlock_failure h
      split at h
      · cases h
        exact .undecodable _
      split at h <;> cases h
      exact .noByteOrderMark

lemma feed_failure {bytes : List UInt8} {s : Decoder × List UInt8} (h : feed bytes s = .error (.failed failure)) :
    failure.OfBytes := by
  obtain ⟨d, kept⟩ := s
  simp only [feed] at h
  split at h <;> cases h
  exact block_failure ‹_›

lemma finish_failure {s : Decoder × List UInt8} (h : finish s = .error (.failed failure)) : failure.OfBytes := by
  obtain ⟨d, kept⟩ := s
  simp only [finish] at h
  split at h <;> cases h
  exact block_failure ‹_›

/-- A decoder fails as bytes do. -/
lemma failsAsBytes (d : Decoder) : d.inBlocks.FailsAsBytes := ⟨feed_failure, finish_failure⟩

end Decoder

namespace ByteDecoder.FailsAsBytes

variable {d : ByteDecoder} {s : d.State} {held : Bool} {blocks : List (List UInt8)}

/-- Blocks that end fail to decode as bytes do. -/
lemma decodeBlocks (fails : d.FailsAsBytes) (h : (d.decodeBlocks none held s blocks).2 = some (.failed failure)) :
    failure.OfBytes := by
  induction blocks generalizing s held with
  | nil =>
      rw [ByteDecoder.decodeBlocks] at h
      split at h
      · rename_i decoded
        cases h
        exact fails.finish decoded
      · cases h
  | cons bytes blocks ih =>
      rw [ByteDecoder.decodeBlocks] at h
      split at h
      · rename_i decoded
        cases h
        exact fails.feed decoded
      · exact ih h

end ByteDecoder.FailsAsBytes

/-! ### Codecs -/

namespace Codecs

variable {codecs : Codecs} {codec : Codec} {name : String}

/-- A text encoding is found among the codecs. -/
lemma textCodec_eq_ok_iff :
    codecs.textCodec name = .ok codec ↔ codecs.lookup name = .ok codec ∧ codec.isText = true := by
  unfold textCodec
  cases codecs.lookup name with
  | error problem => simp
  | ok found =>
      simp only [Except.ok.injEq]
      by_cases text : found.isText = true
      · rw [if_pos text, Except.ok.injEq]
        exact ⟨fun same => ⟨same, same ▸ text⟩, And.left⟩
      · rw [if_neg text]
        exact ⟨nofun, fun ⟨same, text'⟩ => absurd (same ▸ text') text⟩

/-- The name of another codec is refused. -/
lemma textCodec_of_not_isText (named : codecs.lookup name = .ok codec) (other : codec.isText = false) :
    codecs.textCodec name = .error (.notText name) := by
  rw [textCodec, named]
  simp only [other, Bool.false_eq_true, if_false]

/-- The codecs that are known are as is relied on. -/
lemma isLawful_standard : Codecs.standard.IsLawful where
  standard := ⟨_, Reader.textCodec_of_utf8 Reader.lookup_standard⟩
  fails {name codec} named := by
    obtain ⟨named, text⟩ := textCodec_eq_ok_iff.1 named
    unfold lookup at named
    split at named
    · cases named
    · split at named <;> cases named
      rename_i found
      obtain ⟨known, -, rfl⟩ := Option.map_eq_some_iff.1 found
      cases known with
      | text e => exact e.decoder.failsAsBytes
      | transformation => cases text

end Codecs

/-- **What is relied on holds of the platform of the program.** -/
theorem Platform.isLawful_standard : Platform.standard.IsLawful where
  codecs := Codecs.isLawful_standard
  loader := SettingsLoader.checksEncoding_standard
  arguments := ArgumentReader.stopsAtOther_standard
  console := Console.takesPlain_terminal

/-! ### Readers with a text encoding -/

/-- What reading comes to can be told: it is a tree, or a complaint of a line. -/
def Reader.Reports (result : Except ReadError Node) : Prop :=
  (∃ root, result = .ok root) ∨ ∃ e : ParseError, result = .error (.tokens (.failed (.parse e)))

/-- A source holds these bytes: it is a stream that delivers them in blocks, or a file of the given folder. -/
inductive Source.HoldsBytes (folder : Folder) (bs : List UInt8) : Source → Prop
  | bytes {stream : ByteStream} (holds : stream.Holds bs) : HoldsBytes folder bs (.bytes stream)
  | path {p : Path} (holds : folder.read p = .ok bs) : HoldsBytes folder bs (.path p)

namespace Reader

variable {encoding : String} {codecs : Codecs} {codec : Codec} {folder : Folder} {bs : List UInt8} {source : Source}

/-- A text gives a tree or a complaint. -/
lemma reports_text (cs : List Char) : Reports ((standard encoding).parseStream (.ofChars cs none)).result :=
  (reads_or_complains encoding cs).imp_left fun ⟨root, _, read, _⟩ => ⟨root, read⟩

/-- A text that ends where bytes do not decode gives a tree or a complaint. -/
lemma reports_undecodable (cs : List Char) (bytes : failure.OfBytes) :
    Reports ((standard encoding).parseStream (.ofChars cs (some failure))).result := by
  have full : [] ∉ cs.map ([·]) := CharStream.dense_ofChars cs none
  have ahead := (Parser.states_ahead full failure []).tokens
  -- the text is read as if it ended in place of the failure, or the failure is met
  rcases TokenStream.Simulation.report_cases (standard encoding) (standard encoding) (Scanner.Simulation.keepsLines_tokens _)
    ((Scanner.Simulation.keepsLines_tokens _).agree_refl _) ahead with same | ⟨_, ⟨_, rfl, rfl⟩, met⟩
  · rw [CharStream.ofChars, same]
    exact reports_text _
  · rw [CharStream.ofChars, met, ReadError.ofTokenError_ofCause]
    cases bytes with
    | undecodable => exact .inr ⟨_, rfl⟩
    | noByteOrderMark => exact .inr ⟨_, rfl⟩
    | value => exact .inr ⟨_, rfl⟩

/-- A stream that ends gives a tree or a complaint, unless it comes to something that is no text. -/
lemma reports_parseBytes {stream : ByteStream} (named : codecs.textCodec encoding = .ok codec)
    (fails : codec.inBlocks.FailsAsBytes) (ends : stream.failure = none)
    (text : ((standard encoding).parseBytes codecs stream).result ≠ .error .noText) :
    Reports ((standard encoding).parseBytes codecs stream).result := by
  have whole : (standard encoding).parseBytes codecs stream =
      (standard encoding).parseDecoded (codec.decodeBuffered stream) := by rw [parseBytes, standard, named]
  rw [whole] at text ⊢
  rcases decoded : codec.decodeBuffered stream with ⟨cs, _ | failure | _⟩
  · exact reports_text cs
  · have stopped : (codec.inBlocks.decodeBlocks none false codec.inBlocks.start stream.blocks).2 = some (.failed failure) := by
      rw [← ends]
      exact congrArg Prod.snd decoded
    exact reports_undecodable cs (fails.decodeBlocks stopped)
  · rw [decoded] at text
    exact absurd rfl text

/-- **A reader with a text encoding makes a tree or a complaint of all bytes** that come to text, from streams and from
files. -/
theorem reports_parse (named : codecs.textCodec encoding = .ok codec) (fails : codec.inBlocks.FailsAsBytes)
    (holds : source.HoldsBytes folder bs)
    (text : ((standard encoding).parse codecs folder source).result ≠ .error .noText) :
    Reports ((standard encoding).parse codecs folder source).result := by
  cases holds with
  | bytes holds => exact reports_parseBytes named fails holds.1 text
  | path holds =>
      have same := result_parsePath (r := standard encoding) (Codecs.textCodec_eq_ok_iff.1 named).1 holds
      rw [parse, same] at text ⊢
      exact reports_parseBytes named fails (ByteStream.holds_cut _ _).1 text

/-- A reader whose codec is no text encoding reads no bytes. -/
lemma result_parse_of_not_isText (named : codecs.lookup encoding = .ok codec) (other : codec.isText = false)
    (holds : source.HoldsBytes folder bs) :
    ((standard encoding).parse codecs folder source).result = .error (.encoding (.notText encoding)) := by
  have refused (stream : ByteStream) :
      ((standard encoding).parseBytes codecs stream).result = .error (.encoding (.notText encoding)) := by
    simp only [parseBytes, standard, Codecs.textCodec_of_not_isText named other, ReadReport.refused]
  cases holds with
  | bytes => exact refused _
  | path holds =>
      rw [parse, result_parsePath (r := standard encoding) named holds]
      exact refused _

end Reader

/-! ### Commands -/

/-- An existing file can be read, unless its device reports an error. -/
lemma Folder.read_of_hasFile {folder : Folder} {file : Path} (present : folder.hasFile file = true) :
    (∃ bs, folder.read file = .ok bs) ∨ folder.read file = .error .inputOutput := by
  unfold hasFile at present
  unfold Folder.read
  split at present
  · rename_i content found
    rw [found]
    cases content with
    | bytes bs => exact .inl ⟨bs, rfl⟩
    | broken => exact .inr rfl
  · cases present

/-- A run prints all things without tags and ends with its code. -/
lemma Outcome.printing_of_isPlain {console : Console} (takes : console.TakesPlain) (folder : Folder) (code : Nat)
    {ps : List Print} (plain : ∀ p ∈ ps, p.IsPlain) : printing console folder code ps = ⟨code, ps, none, folder⟩ := by
  rw [printing, console.printAll_of_isPlain takes plain]

namespace Command

variable {p : Platform} {folder : Folder} {settings : Settings} {file : Path}

lemma load_of_tree {root : Node}
    (read : ((Reader.standard settings.encoding).parsePath p.codecs folder file).result = .ok root) :
    load p folder settings file = .ok root := by
  rw [load, read]

/-- A message is printed of a complaint. -/
lemma load_of_complaint (takes : p.console.TakesPlain) {e : ParseError} (complaint :
    ((Reader.standard settings.encoding).parsePath p.codecs folder file).result = .error (.tokens (.failed (.parse e)))) :
    load p folder settings file =
      .error ⟨1, [.error (s!"{file.text}:{e.line}: " ++ e.message)], none, folder⟩ := by
  rw [load, complaint]
  exact congrArg Except.error (Outcome.printing_of_isPlain takes folder 1 (List.forall_mem_singleton.2 trivial))

/-- A message is printed of a file that cannot be read. -/
lemma load_of_io (takes : p.console.TakesPlain) {e : IoError} (unreadable :
    ((Reader.standard settings.encoding).parsePath p.codecs folder file).result = .error (.io e)) :
    load p folder settings file =
      .error ⟨1, [.error (s!"Cannot read {file.text}: " ++ e.message)], none, folder⟩ := by
  rw [load, unreadable]
  exact congrArg Except.error (Outcome.printing_of_isPlain takes folder 1 (List.forall_mem_singleton.2 trivial))

end Command

/-! ### Settings -/

namespace Settings

/-- Settings are usable: any bytes give a tree or a complaint, and a command gets the tree of an existing file or prints a
message and ends with code 1. Bytes that come to something that is no text, such as a lone surrogate, are left out. -/
structure IsUsable (p : Platform) (settings : Settings) : Prop where
  reports : ∀ folder bs source, source.HoldsBytes folder bs →
    let result := ((Reader.standard settings.encoding).parse p.codecs folder source).result
    result ≠ .error .noText → Reader.Reports result
  loads : ∀ folder file, folder.hasFile file = true →
    let loaded := Command.load p folder settings file
    (∃ root, loaded = .ok root) ∨ (∃ message, loaded = .error ⟨1, [.error message], none, folder⟩) ∨
      loaded = .error (.crashed folder (.reading .noText))

variable {p : Platform} {settings : Settings} {env : Environment}

/-- Settings with a text encoding are usable. -/
lemma isUsable_of_textCodec (lawful : p.IsLawful) {codec : Codec}
    (named : p.codecs.textCodec settings.encoding = .ok codec) : settings.IsUsable p where
  reports _ _ _ holds text := Reader.reports_parse named (lawful.codecs.fails named) holds text
  loads folder file present := by
    rcases Folder.read_of_hasFile present with ⟨bs, holds⟩ | broken
    · by_cases text : ((Reader.standard settings.encoding).parsePath p.codecs folder file).result = .error .noText
      · exact .inr (.inr (by rw [Command.load, text]))
      · rcases Reader.reports_parse named (lawful.codecs.fails named) (.path holds) text with ⟨root, read⟩ | ⟨e, complaint⟩
        · exact .inl ⟨root, Command.load_of_tree read⟩
        · exact .inr (.inl ⟨_, Command.load_of_complaint lawful.console complaint⟩)
    · have unreadable : ((Reader.standard settings.encoding).parsePath p.codecs folder file).result =
          .error (.io .inputOutput) := by
        have known := (Codecs.textCodec_eq_ok_iff.1 named).1
        simp only [Reader.parsePath, Reader.standard, known, broken, ReadReport.refused, ReadReport.inFile]
      exact .inr (.inl ⟨_, Command.load_of_io lawful.console unreadable⟩)

/-- The name of an encoding that has passed its check stands for a codec. -/
lemma exists_codec_of_readEncoding {codecs : Codecs} {s name : String} (passed : readEncoding codecs s = .ok name) :
    ∃ codec, codecs.lookup name = .ok codec := by
  unfold readEncoding at passed
  split at passed <;> cases passed
  exact ⟨_, ‹_›⟩

/-- The encoding of settings stands for a codec. -/
lemma exists_codec (lawful : p.IsLawful) (accepted : p.settings env = .ok settings) :
    ∃ codec, p.codecs.lookup settings.encoding = .ok codec := by
  rcases lawful.loader _ _ _ accepted with same | ⟨text, passed⟩
  · obtain ⟨codec, named⟩ := lawful.codecs.standard
    exact ⟨codec, same ▸ (Codecs.textCodec_eq_ok_iff.1 named).1⟩
  · exact exists_codec_of_readEncoding passed

/-- **Settings are usable, or their codec is no text encoding.** In the other case no stream of bytes and no file is read,
whatever the bytes are, and a command that is to read a file crashes without a message. -/
theorem usable_or_transforms (lawful : p.IsLawful) (accepted : p.settings env = .ok settings) :
    ∃ codec, p.codecs.lookup settings.encoding = .ok codec ∧
      ((codec.isText = true ∧ settings.IsUsable p) ∨
        (codec.isText = false ∧
          let problem := EncodingProblem.notText settings.encoding
          (∀ folder bs source, source.HoldsBytes folder bs →
            ((Reader.standard settings.encoding).parse p.codecs folder source).result = .error (.encoding problem)) ∧
          ∀ folder file bs, folder.read file = .ok bs →
            Command.load p folder settings file = .error (.crashed folder (.reading (.encoding problem))))) := by
  obtain ⟨codec, named⟩ := exists_codec lawful accepted
  refine ⟨codec, named, ?_⟩
  cases text : codec.isText with
  | true => exact .inl ⟨rfl, isUsable_of_textCodec lawful (Codecs.textCodec_eq_ok_iff.2 ⟨named, text⟩)⟩
  | false =>
      refine .inr ⟨rfl, fun _ _ _ => Reader.result_parse_of_not_isText named text, fun folder file bs holds => ?_⟩
      have unread := Reader.result_parse_of_not_isText named text (Source.HoldsBytes.path holds)
      rw [Reader.parse] at unread
      rw [Command.load, unread]

/-- The setting names a transformation of bytes. -/
def hexEnvironment : Environment := [("COMMAND_DSL_ENCODING", "hex")]

/-- The settings of that environment. -/
def hexSettings : Settings := { Settings.standard with encoding := "hex" }

/-- The name stands for a transformation. -/
lemma lookup_hex : Codecs.standard.lookup hexSettings.encoding = .ok KnownCodec.transformation.codec := by
  have named : KnownCodec.ofName? hexSettings.encoding = some .transformation := by decide
  exact Codecs.lookup_standard (by decide) named

/-- A transformation is admitted, and with it a file that holds a tree is not read. -/
theorem usable_or_transforms_hex :
    Platform.standard.IsLawful ∧ Platform.standard.settings hexEnvironment = .ok hexSettings ∧
      ∀ folder file bs, folder.read file = .ok bs → Command.load .standard folder hexSettings file =
        .error (.crashed folder (.reading (.encoding (.notText "hex")))) := by
  have accepted : Platform.standard.settings hexEnvironment = .ok hexSettings := by rfl
  refine ⟨Platform.isLawful_standard, accepted, ?_⟩
  obtain ⟨codec, named, ⟨text, -⟩ | ⟨-, -, crashes⟩⟩ := usable_or_transforms Platform.isLawful_standard accepted
  · cases lookup_hex.symm.trans named
    cases text
  · exact crashes

/-- Settings that are admitted need not be usable: a command may crash on a file that holds a tree. -/
theorem not_usable_hex :
    let folder : Folder := ⟨[(.ofText "in.commands", .bytes (Utf8.ofText "root;"))], []⟩
    Platform.standard.settings hexEnvironment = .ok hexSettings ∧ ¬ hexSettings.IsUsable .standard ∧
      CommandLine.run .standard folder hexEnvironment ["validate", "in.commands"] =
        .crashed folder (.reading (.encoding (.notText "hex"))) := by
  intro folder
  refine ⟨by rfl, fun usable => ?_, by rfl⟩
  have holds : Source.HoldsBytes .empty [] (.bytes (.cut 1 [])) := .bytes (ByteStream.holds_cut 1 [])
  have unread : ((Reader.standard hexSettings.encoding).parse Platform.standard.codecs _ _).result = _ :=
    Reader.result_parse_of_not_isText lookup_hex rfl holds
  rcases usable.reports _ _ _ holds (by rw [unread]; nofun) with ⟨_, tree⟩ | ⟨_, complaint⟩
  · cases unread.symm.trans tree
  · cases unread.symm.trans complaint

end Settings

end CommandTree
