import CommandTree.Proofs.Gathering
import CommandTree.Proofs.Failing
import CommandTree.Proofs.Utf8
import CommandTree.Reader
/-!
Readers of bytes in UTF-8.

A reader makes the same of a text wherever the text comes from, and in whatever blocks its bytes come. Bytes that are no
text give no tree, with one exception: a stream of which no more is read than characters take may end inside a character,
and the reader notices nothing of it.

* `Source.Delivers` and `Reader.result_parse_of_delivers`: **every source of a text is read like the text**;
* `Reader.tree_iff_of_bytes`: **which bytes give which tree**, for each kind of source of bytes;
* `Reader.tree_of_cut_character`: bytes that are no text, and give a tree.
-/

namespace CommandTree

open Utf8

/-! ### Sources -/

/-- What a source delivers is a text: a stream of characters delivers it in chunks, a stream of bytes delivers its encoding
in blocks, and a file of the given folder holds its encoding. -/
inductive Source.Delivers (folder : Folder) (text : String) : Source → Prop
  | chars {chunks : List (List Char)} (full : [] ∉ chunks) (whole : chunks.flatten = text.toList) :
    Delivers folder text (.chars (.ofChunks chunks none))
  | bytes {stream : ByteStream} (holds : stream.Holds (ofText text)) : Delivers folder text (.bytes stream)
  | pulled {stream : ByteStream} (holds : stream.Holds (ofText text)) : Delivers folder text (.pulled stream)
  | path {p : Path} (holds : folder.read p = .ok (ofText text)) : Delivers folder text (.path p)

/-! ### Streams -/

namespace Reader

variable {r : Reader} {codecs : Codecs} {root : Node} {folder : Folder}

/-- A reader makes the same of a dense stream and of its text at hand. -/
lemma result_parseStream_gathered (r : Reader) {stream : CharStream} (dense : stream.Dense) :
    (r.parseStream stream).result = (r.parseStream stream.gathered).result :=
  congrArg ReadReport.result (Scanner.gathering.report_eq (fun _ no => no) ⟨dense, rfl⟩ r)

/-- Chunks make no difference to a reader. -/
lemma result_parseStream_ofChunks (r : Reader) {chunks : List (List Char)} {text : String} (full : [] ∉ chunks)
    (whole : chunks.flatten = text.toList) :
    (r.parseStream (.ofChunks chunks none)).result = (r.parseText text).result := by
  have dense : (CharStream.ofChunks chunks none).Dense := full
  have same : (CharStream.ofChunks chunks none).gathered = (CharStream.ofChars text.toList none).gathered := by
    rw [CharStream.gathered_ofChars, ← whole]
    rfl
  rw [parseText, r.result_parseStream_gathered dense, same,
    r.result_parseStream_gathered (CharStream.dense_ofChars text.toList none)]

/-- A stream that fails gives no tree. -/
lemma result_ne_ok_of_failure (cs : List Char) (failure : Cause) :
    (r.parseStream (.ofChars cs (some failure))).result ≠ .ok root := by
  intro read
  have full : [] ∉ cs.map ([·]) := CharStream.dense_ofChars cs none
  have parses := (Scanner.ahead failure [] _).parse r.registry (Parser.states_ahead full failure [])
  rw [parseStream, CharStream.ofChars] at read
  generalize Parser.parse r.registry (.ofStream (.ofChunks (cs.map ([·])) (some failure))) = left at parses read
  cases left with
  | error e s => rw [ReadReport.result_ofError] at read; cases read
  | ok found s =>
      generalize Parser.parse r.registry (.ofStream (.ofChars ((cs.map ([·])).flatten ++ []) none)) = right at parses
      cases parses with
      | ok behind => exact behind.2

/-- What bytes are decoded to gives the tree of a text, if it is the text. -/
lemma parseDecoded_tree_iff {decoded : List Char × Option DecodeStop} : (r.parseDecoded decoded).result = .ok root ↔
    ∃ text : String, decoded = (text.toList, none) ∧ (r.parseText text).result = .ok root := by
  rcases decoded with ⟨cs, _ | failure | _⟩
  · constructor
    · intro read
      exact ⟨String.ofList cs, by rw [String.toList_ofList], by rwa [parseText, String.toList_ofList]⟩
    · rintro ⟨text, same, read⟩
      cases same
      exact read
  · simp [parseDecoded, result_ne_ok_of_failure]
  · simp [parseDecoded, ReadReport.refused]

variable {stream : ByteStream}

lemma textCodec_of_utf8 {name : String} (named : codecs.lookup name = .ok Encoding.utf8.codec) :
    codecs.textCodec name = .ok Encoding.utf8.codec := by
  rw [Codecs.textCodec, named]
  rfl

lemma parseBytes_eq (named : codecs.lookup r.encoding = .ok Encoding.utf8.codec) :
    r.parseBytes codecs stream = r.parseDecoded (Encoding.utf8.codec.decodeBuffered stream) := by
  rw [parseBytes, textCodec_of_utf8 named]

lemma parsePulled_eq (named : codecs.lookup r.encoding = .ok Encoding.utf8.codec) :
    r.parsePulled codecs stream = r.parseDecoded (Encoding.utf8.codec.decodePulled stream) := by
  rw [parsePulled, named]

/-- A file of bytes is read like a stream of them. -/
lemma result_parsePath {codec : Codec} {p : Path} {bs : List UInt8} (named : codecs.lookup r.encoding = .ok codec)
    (holds : folder.read p = .ok bs) :
    (r.parsePath codecs folder p).result = (r.parseBytes codecs (.cut blockSize bs)).result := by
  simp only [parsePath, named, holds]
  rfl

/-- A stream that holds a text is read like the text. -/
lemma result_parseBytes_text (named : codecs.lookup r.encoding = .ok Encoding.utf8.codec) {text : String}
    (holds : stream.Holds (ofText text)) : r.parseBytes codecs stream = r.parseText text := by
  rw [ofText_eq] at holds
  rw [parseBytes_eq named, Codec.decodeBuffered_utf8_iff.2 holds, parseDecoded, parseText]

/-! ### All sources of a text -/

/-- **Every source of a text is read like the text.** -/
theorem result_parse_of_delivers (named : codecs.lookup r.encoding = .ok Encoding.utf8.codec) {text : String}
    {source : Source} (delivers : source.Delivers folder text) :
    (r.parse codecs folder source).result = (r.parseText text).result := by
  cases delivers with
  | chars full whole => exact r.result_parseStream_ofChunks full whole
  | bytes holds => rw [parse, result_parseBytes_text named holds]
  | pulled holds =>
      have decoded := Codec.decodePulled_utf8_iff.2 ⟨[], by rwa [List.append_nil, ← ofText_eq], endsInside_nil⟩
      rw [parse, parsePulled_eq named, decoded, parseDecoded, parseText]
  | path holds => rw [parse, result_parsePath named holds, result_parseBytes_text named (ByteStream.holds_cut _ _)]

/-- The name of the standard encoding stands for UTF-8. -/
lemma lookup_standard : Codecs.standard.lookup (standard standardEncoding).encoding = .ok Encoding.utf8.codec := by
  have named : KnownCodec.ofName? standardEncoding = some (.text .utf8) := by decide
  exact Codecs.lookup_standard (by decide) named

/-- A chunk or a block may end between the two characters of a line break, or inside a character. -/
theorem result_parse_of_delivers_parted :
    let text := "\"é\"\r\n;"
    let chunks := [['"', 'é', '"', '\r'], ['\n', ';']]
    let folder : Folder := ⟨[(.ofText "in", .bytes (ofText text))], []⟩
    Codecs.standard.lookup (standard standardEncoding).encoding = .ok Encoding.utf8.codec ∧
      ∀ source ∈ [Source.chars (.ofChunks chunks none), .bytes (.cut 2 (ofText text)), .bytes (.cut 5 (ofText text)),
          .pulled (.cut 1 (ofText text)), .path (.ofText "in")],
        source.Delivers folder text ∧ ((standard standardEncoding).parse .standard folder source).result =
          ((standard standardEncoding).parseText text).result := by
  intro text chunks folder
  refine ⟨lookup_standard, fun source given => ?_⟩
  have delivers : source.Delivers folder text := by
    simp only [List.mem_cons, List.not_mem_nil, or_false] at given
    rcases given with rfl | rfl | rfl | rfl | rfl
    · exact .chars (by decide) (by decide)
    · exact .bytes (ByteStream.holds_cut _ _)
    · exact .bytes (ByteStream.holds_cut _ _)
    · exact .pulled (ByteStream.holds_cut _ _)
    · exact .path (by decide +kernel)
  exact ⟨delivers, result_parse_of_delivers lookup_standard delivers⟩

/-! ### Bytes that give a tree -/

variable {bs : List UInt8}

/-- A stream of bytes gives a tree if it is a text that does. -/
lemma parseBytes_tree_iff (named : codecs.lookup r.encoding = .ok Encoding.utf8.codec) (holds : stream.Holds bs) :
    (r.parseBytes codecs stream).result = .ok root ↔ ∃ text, bs = ofText text ∧ (r.parseText text).result = .ok root := by
  obtain ⟨ends, rfl⟩ := holds
  simp only [parseBytes_eq named, parseDecoded_tree_iff, Codec.decodeBuffered_utf8_iff, ByteStream.Holds, ends, true_and,
    ofText_eq]

/-- A stream of which no more is read than characters take gives a tree if it is a text that does, and perhaps the front
of a character. -/
lemma parsePulled_tree_iff (named : codecs.lookup r.encoding = .ok Encoding.utf8.codec) (holds : stream.Holds bs) :
    (r.parsePulled codecs stream).result = .ok root ↔
      ∃ text tail, bs = ofText text ++ tail ∧ EndsInside tail ∧ (r.parseText text).result = .ok root := by
  obtain ⟨ends, rfl⟩ := holds
  simp only [parsePulled_eq named, parseDecoded_tree_iff, Codec.decodePulled_utf8_iff, ByteStream.Holds, ends, true_and,
    ofText_eq, ← exists_and_right, and_assoc]

/-- The first byte of a character of two. -/
lemma endsInside_lead : EndsInside [0xC3] := .inl ⟨'é', ⟨[0xA9], rfl⟩, by decide⟩

lemma exists_tree_of_letter : ∃ root, ((standard standardEncoding).parseText "a;").result = .ok root := by
  have accepted : ((standard standardEncoding).parseText "a;").result.isOk = true := by decide +kernel
  cases read : ((standard standardEncoding).parseText "a;").result with
  | ok root => exact ⟨root, rfl⟩
  | error e => rw [read] at accepted; cases accepted

/-- **Bytes that give a tree are a text that does**, if they come from a stream that is read in blocks, whatever the blocks
are, or from a file. Where no more is read than characters take, the front of a character may stand behind the text, and
nothing else. -/
theorem tree_iff_of_bytes (named : codecs.lookup r.encoding = .ok Encoding.utf8.codec) (folder : Folder)
    (bs : List UInt8) (root : Node) :
    (∀ stream, stream.Holds bs → ((r.parse codecs folder (.bytes stream)).result = .ok root ↔
      ∃ text, bs = ofText text ∧ (r.parseText text).result = .ok root)) ∧
    (∀ p, folder.read p = .ok bs → ((r.parse codecs folder (.path p)).result = .ok root ↔
      ∃ text, bs = ofText text ∧ (r.parseText text).result = .ok root)) ∧
    ∀ stream, stream.Holds bs → ((r.parse codecs folder (.pulled stream)).result = .ok root ↔
      ∃ text tail, bs = ofText text ++ tail ∧ EndsInside tail ∧ (r.parseText text).result = .ok root) := by
  refine ⟨fun _ => parseBytes_tree_iff named, fun p holds => ?_, fun _ => parsePulled_tree_iff named⟩
  rw [parse, result_parsePath named holds]
  exact parseBytes_tree_iff named (ByteStream.holds_cut _ _)

/-- Bytes that end inside a character give the tree of the text in front of it where they are read one by one, and none
in blocks or in a file. -/
theorem tree_iff_of_bytes_cut :
    let bs : List UInt8 := [0x61, 0x3B, 0xC3]
    let folder : Folder := ⟨[(.ofText "in", .bytes bs)], []⟩
    let r := standard standardEncoding
    Codecs.standard.lookup r.encoding = .ok Encoding.utf8.codec ∧ folder.read (.ofText "in") = .ok bs ∧
      (ByteStream.cut 1 bs).Holds bs ∧
      ∃ root, (r.parse .standard folder (.pulled (.cut 1 bs))).result = .ok root ∧
        (r.parse .standard folder (.bytes (.cut 1 bs))).result ≠ .ok root ∧
        (r.parse .standard folder (.path (.ofText "in"))).result ≠ .ok root := by
  intro bs folder r
  have file : folder.read (.ofText "in") = .ok bs := by decide +kernel
  have holds := ByteStream.holds_cut 1 bs
  refine ⟨lookup_standard, file, holds, ?_⟩
  obtain ⟨root, read⟩ := exists_tree_of_letter
  obtain ⟨inBlocks, inFile, stepwise⟩ := tree_iff_of_bytes (r := r) lookup_standard folder bs root
  have no_text (text : String) : bs ≠ ofText text := ofText_append_ne endsInside_lead (List.cons_ne_nil _ _) "a;" text
  refine ⟨root, (stepwise _ holds).2 ⟨"a;", [0xC3], rfl, endsInside_lead, read⟩, fun given => ?_, fun given => ?_⟩
  · obtain ⟨text, same, -⟩ := (inBlocks _ holds).1 given
    exact no_text text same
  · obtain ⟨text, same, -⟩ := (inFile _ file).1 given
    exact no_text text same

/-- Bytes that end inside a character are no text, and yet give a tree where they are read one by one. -/
theorem tree_of_cut_character :
    (∀ text, [0x61, 0x3B, 0xC3] ≠ ofText text) ∧ ∃ root,
      ((standard standardEncoding).parse .standard .empty (.pulled (.cut 1 [0x61, 0x3B, 0xC3]))).result = .ok root := by
  obtain ⟨root, read⟩ := exists_tree_of_letter
  have stepwise := (parsePulled_tree_iff (r := standard standardEncoding) lookup_standard (ByteStream.holds_cut 1 _)).2
    ⟨"a;", [0xC3], rfl, endsInside_lead, read⟩
  exact ⟨ofText_append_ne endsInside_lead (List.cons_ne_nil _ _) "a;", root, stepwise⟩

end Reader

end CommandTree
