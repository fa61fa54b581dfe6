import CommandTree.Codec
import CommandTree.Folder
import CommandTree.Parser
import CommandTree.Trace
import CommandTree.Value
/-!
Readers of command files.

A reader has a registry of resolvers and the name of an encoding. It reads from streams of characters, from bytes
that it decodes with the codec of that name, and from files. A report says what reading came to and what was logged
and traced on the way. Where a file or stream refuses to be read, that failure itself is the outcome, even if it was
noticed inside a token; every other complaint keeps its line.

* `Reader.parseStream` reads characters, `Reader.parseText` a text;
* `Reader.parse` reads from any source;
* `ReadError.ofTokenError` brings failures of input and output to the surface.
-/

namespace CommandTree

/-! ### Failures -/

/-- Why a command file is not read. -/
inductive ReadError where
  | notSource (value : Value)
  | encoding (problem : EncodingProblem)
  -- what a reader makes of such bytes is not told here
  | noText
  | io (error : IoError)
  | tokens (error : TokenError)

namespace ReadError

/-- The wording of a failure to read. -/
def message : ReadError → String
  | notSource v => "Cannot read a command file from " ++ v.kind
  | encoding p => p.message
  | noText => "the bytes come to something that is no text"
  | io e => e.message
  | tokens e => e.message

/-- What a failure of a token stream comes to: that of the file or stream behind it, if there is one. -/
def ofTokenError : TokenError → ReadError
  | .failed (.parse ⟨_, _, some (.io e)⟩) => io e
  | e => tokens e

end ReadError

/-! ### Reports -/

/-- What reading a command file comes to. -/
structure ReadReport where
  result : Except ReadError Node
  spans : List (Span ReadError)
  logs : List LogEntry

namespace ReadReport

/-- A report of a failure before any work was begun. -/
def refused (e : ReadError) : ReadReport := ⟨.error e, [], []⟩

/-- The entries for the resolvers found by a parse. -/
def resolutionLogs (s : ParseState) : List LogEntry :=
  s.resolutions.reverse.map fun r =>
    ⟨.debug, "command_dsl.parser.resolver", s!"Resolving {r.space}:{r.name} with {r.resolver}"⟩

/-- The name of the span of a parse. -/
def parseSpan : String := "command_file.parse"

/-- The name of the span in which a file is opened and parsed. -/
def fileSpan : String := "command_file.parse_path"

/-- The report of a parse that succeeds. -/
def ofTree (root : Node) (s : ParseState) : ReadReport where
  result := .ok root
  spans := [.succeeded parseSpan
    [("command_file.lines", .number s.line), ("command_file.node_count", .number root.walk.length),
      ("command_file.root", .text root.name)]]
  logs := resolutionLogs s ++
    [⟨.debug, "command_dsl.parser.parser", s!"Parsed command tree '{root.name}' ending at line {s.line}"⟩,
      ⟨.debug, "command_dsl.reader", s!"Read command tree '{root.name}' with {root.walk.length} nodes"⟩]

/-- The report of a parse that fails. A complaint is noticed before it leaves the span, as itself or as the failure
behind it. -/
def ofError (e : TokenError) (s : ParseState) : ReadReport :=
  let failure := ReadError.ofTokenError e
  match e with
  | .failed (.parse complaint) =>
    { result := .error failure
      spans := [.failedWith parseSpan [("command_file.error_line", .number complaint.line)] [.tokens e] failure]
      logs := resolutionLogs s ++ match failure with
        | .io _ => []
        | _ => [⟨.debug, "command_dsl.reader", "Parse failed: " ++ complaint.describe⟩] }
  | _ => { result := .error failure, spans := [.failedWith parseSpan [] [] failure], logs := resolutionLogs s }

/-- A report with the span of the file around it. -/
def inFile (r : ReadReport) (p : Path) : ReadReport :=
  let attributes := [("command_file.path", AttributeValue.text p.text)]
  let span := match r.result with
    | .ok _ => .succeeded fileSpan attributes
    | .error e => .failedWith fileSpan attributes [] e
  { r with spans := r.spans ++ [span] }

end ReadReport

/-! ### Readers -/

/-- What a command file is read from. -/
inductive Source where
  | chars (stream : CharStream)
  -- a stream of bytes, which is read in blocks
  | bytes (stream : ByteStream)
  -- a stream of bytes, of which no more is read than the next character takes
  | pulled (stream : ByteStream)
  | path (p : Path)
  | value (v : Value)

/-- A value as a source: a text is a path. -/
def Source.ofValue : Value → Source
  | .text s => path (.ofText s)
  | v => value v

/-- A reader of command files. -/
structure Reader where
  registry : Registry
  encoding : String

namespace Reader

/-- The name of the encoding unless it is said otherwise. -/
def standardEncoding : String := "utf-8"

/-- The reader that knows the primitive types alone. -/
def standard (encoding : String) : Reader := ⟨.standard, encoding⟩

/-- Reads a stream of characters. -/
def parseStream (r : Reader) (stream : CharStream) : ReadReport :=
  match Parser.parse r.registry (.ofStream stream) with
  | .ok root s => .ofTree root s
  | .error e s => .ofError e s

/-- Reads a text. -/
def parseText (r : Reader) (text : String) : ReadReport := r.parseStream (.ofChars text.toList none)

/-- Reads what bytes are decoded to. -/
def parseDecoded (r : Reader) : List Char × Option DecodeStop → ReadReport
  | (cs, none) => r.parseStream (.ofChars cs none)
  | (cs, some (.failed cause)) => r.parseStream (.ofChars cs (some cause))
  | (_, some .noText) => .refused .noText

/-- Reads a stream of bytes in blocks. -/
def parseBytes (r : Reader) (codecs : Codecs) (stream : ByteStream) : ReadReport :=
  match codecs.textCodec r.encoding with
  | .error problem => .refused (.encoding problem)
  | .ok codec => r.parseDecoded (codec.decodeBuffered stream)

/-- Reads a stream of bytes as far as characters are taken. The codec need not be a text encoding. -/
def parsePulled (r : Reader) (codecs : Codecs) (stream : ByteStream) : ReadReport :=
  match codecs.lookup r.encoding with
  | .error problem => .refused (.encoding problem)
  | .ok codec => r.parseDecoded (codec.decodePulled stream)

/-- How many bytes a block of a file has. -/
def blockSize : Nat := 8192

/-- Reads a file of a folder. The file is opened before its encoding is looked up, but not for a name that none can
have. -/
def parsePath (r : Reader) (codecs : Codecs) (folder : Folder) (p : Path) : ReadReport :=
  let report : ReadReport := match codecs.lookup r.encoding, folder.read p with
    | .error .nullInName, _ => .refused (.encoding .nullInName)
    | _, .error e => .refused (.io e)
    | _, .ok bs => r.parseBytes codecs (.cut blockSize bs)
  report.inFile p

/-- Reads from a source; paths lead into the given folder. -/
def parse (r : Reader) (codecs : Codecs) (folder : Folder) : Source → ReadReport
  | .chars stream => r.parseStream stream
  | .bytes stream => r.parseBytes codecs stream
  | .pulled stream => r.parsePulled codecs stream
  | .path p => r.parsePath codecs folder p
  | .value v => .refused (.notSource v)

end Reader

end CommandTree
