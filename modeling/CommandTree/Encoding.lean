/-!
Encodings of text.

* `Encoding` are those of which this library knows the rules.
-/

namespace CommandTree

/-- The encodings of text. -/
inductive Encoding where
  | utf8
  -- UTF-8, with a signature at the beginning of the text
  | utf8Signed
  -- UTF-16, in the byte order that a mark at the beginning of the text shows
  | utf16
  | utf16Little
  | utf16Big
  | latin1
  | ascii
  deriving DecidableEq, Repr

end CommandTree
