import CommandTree.Encoding
/-!
Encoding characters into bytes.

* `Encoding.encode?` are the bytes of a text, if the encoding has all its characters.
-/

namespace CommandTree.Encoding

-- Powers are taken with the core instance, also where a module beside this one brings another.
attribute [local instance (high)] instPowNat

/-- The bytes of a character in UTF-8. -/
def utf8Bytes (c : Char) : List UInt8 :=
  let n := c.toNat
  let tail (shift : Nat) : UInt8 := (0x80 + n / 2 ^ shift % 0x40).toUInt8
  if n < 0x80 then [n.toUInt8]
  else if n < 0x800 then [(0xC0 + n / 2 ^ (6 : Nat)).toUInt8, tail 0]
  else if n < 0x10000 then [(0xE0 + n / 2 ^ (12 : Nat)).toUInt8, tail 6, tail 0]
  else [(0xF0 + n / 2 ^ (18 : Nat)).toUInt8, tail 12, tail 6, tail 0]

/-- The code units of a character in UTF-16. -/
def utf16Units (c : Char) : List Nat :=
  let n := c.toNat
  if n < 0x10000 then [n] else [0xD800 + (n - 0x10000) / 0x400, 0xDC00 + (n - 0x10000) % 0x400]

/-- The bytes of a code unit, the low one first. -/
def littleBytes (unit : Nat) : List UInt8 := [(unit % 0x100).toUInt8, (unit / 0x100).toUInt8]

/-- The bytes of a code unit, the high one first. -/
def bigBytes (unit : Nat) : List UInt8 := [(unit / 0x100).toUInt8, (unit % 0x100).toUInt8]

/-- The bytes of a character below a limit, one for each. -/
def byteBelow? (limit : Nat) (c : Char) : Option (List UInt8) :=
  if c.toNat < limit then some [c.toNat.toUInt8] else none

/-- The bytes of a character. -/
def charBytes? : Encoding → Char → Option (List UInt8)
  | utf8, c | utf8Signed, c => some (utf8Bytes c)
  | utf16, c | utf16Little, c => some ((utf16Units c).flatMap littleBytes)
  | utf16Big, c => some ((utf16Units c).flatMap bigBytes)
  | latin1, c => byteBelow? 0x100 c
  | ascii, c => byteBelow? 0x80 c

/-- The bytes that a text begins with: a signature or a byte order mark. -/
def openingBytes : Encoding → List UInt8
  | utf8Signed => [0xEF, 0xBB, 0xBF]
  | utf16 => [0xFF, 0xFE]
  | _ => []

/-- The bytes of a text. -/
def encode? (e : Encoding) (cs : List Char) : Option (List UInt8) :=
  (cs.mapM e.charBytes?).map fun bytes => e.openingBytes ++ bytes.flatten

end CommandTree.Encoding
