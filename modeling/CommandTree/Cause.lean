import CommandTree.Text.Literal
/-!
Lower-level failures, which a failure to read a command file can have as its cause, and their wording.

* `IoError`: a file or stream refuses to be read;
* `DecodeError`: bytes that are no text in their encoding;
* `Cause`: either of them, a numeral that cannot be converted, or a failure of another kind that a caller's stream or
  resolver reports;
* `Cause.isUnreadable` tells the failures that count as a failure of the input from those that do not.
-/

namespace CommandTree

open Text

/-! ### Files and streams -/

/-- Why a file or stream cannot be read. -/
inductive IoError where
  | failed (message : String)
  | inputOutput
  | notFound (path : String)
  | isDirectory (path : String)
  | notDirectory (path : String)
  | nameTooLong (path : String)
  | nullInPath
  deriving DecidableEq, Repr

/-- The wording of a failure to read: number, description and path, where they are known. -/
def IoError.message : IoError → String
  | failed message => message
  | inputOutput => "[Errno 5] Input/output error"
  | notFound path => "[Errno 2] No such file or directory: " ++ shown path
  | isDirectory path => "[Errno 21] Is a directory: " ++ shown path
  | notDirectory path => "[Errno 20] Not a directory: " ++ shown path
  | nameTooLong path => "[Errno 36] File name too long: " ++ shown path
  | nullInPath => "embedded null byte"

/-! ### Encodings -/

/-- What is wrong with bytes that do not decode. -/
inductive DecodeProblem where
  | invalidStart
  | invalidContinuation
  | unexpectedEnd
  | truncated
  | illegalEncoding
  | illegalSurrogate
  | notAscii
  deriving DecidableEq, Repr

/-- The wording of a decoding problem. -/
def DecodeProblem.message : DecodeProblem → String
  | invalidStart => "invalid start byte"
  | invalidContinuation => "invalid continuation byte"
  | unexpectedEnd => "unexpected end of data"
  | truncated => "truncated data"
  | illegalEncoding => "illegal encoding"
  | illegalSurrogate => "illegal UTF-16 surrogate"
  | notAscii => "ordinal not in range(128)"

/-- Bytes that do not decode, at least one, with the name of the encoding and what is wrong with them. -/
structure DecodeError where
  codec : String
  -- how many bytes of the block precede them
  position : Nat
  bytes : List UInt8
  problem : DecodeProblem
  deriving DecidableEq, Repr

/-- The wording of a decoding error, which shows a single byte but only counts several. -/
def DecodeError.message (e : DecodeError) : String :=
  let place := match e.bytes with
    | [b] => "byte 0x" ++ String.ofList (hexDigits 2 b.toNat) ++ s!" in position {e.position}"
    | bs => s!"bytes in position {e.position}-{e.position + bs.length - 1}"
  s!"'{e.codec}' codec can't decode " ++ place ++ ": " ++ e.problem.message

/-! ### Causes -/

/-- A lower-level failure. -/
inductive Cause where
  | io (error : IoError)
  | undecodable (error : DecodeError)
  | noByteOrderMark
  | notInteger (text : String)
  | notDecimal (text : String)
  | tooManyDigits (count : Nat)
  | beyondSingle
  | wholeBeyondSingle
  | wholeBeyondDouble
  | value (message : String)
  | key (name : String)
  | runtime (message : String)
  deriving DecidableEq, Repr

namespace Cause

/-- The greatest number of digits, leading zeros included, of an integer literal that is converted. -/
def digitLimit : Nat := 4300

/-- The wording of a cause. -/
def message : Cause → String
  | io e => e.message
  | undecodable e => e.message
  | noByteOrderMark => "UTF-16 stream does not start with BOM"
  | notInteger text => "invalid integer literal: " ++ shown text
  | notDecimal text => "invalid decimal literal: " ++ shown text
  | tooManyDigits count =>
    s!"Exceeds the limit ({digitLimit} digits) for integer string conversion: value has {count} digits; "
      ++ "use sys.set_int_max_str_digits() to increase the limit"
  | beyondSingle => "float too large to pack with f format"
  | wholeBeyondSingle => "int too large to convert"
  | wholeBeyondDouble => "required argument is not a float"
  | value message => message
  | key name => shown name
  | runtime message => message

/-- Whether a failure raised while characters are read counts as a failure of the input: one of the stream, or one
of the values that it delivers. -/
def isUnreadable : Cause → Bool
  | io _ | undecodable _ | noByteOrderMark | notInteger _ | notDecimal _ | tooManyDigits _ | value _ => true
  | beyondSingle | wholeBeyondSingle | wholeBeyondDouble | key _ | runtime _ => false

end Cause

end CommandTree
