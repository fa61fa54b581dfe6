import CommandTree.Numeric.Decimal
import CommandTree.Value
/-!
Values as JSON documents.

Besides the literals of the standard there are three for the special floating-point numbers. Of the members of an
object with the same name the last one counts, in the place of the first. A number is an integer unless it has a
fraction or a power of ten, and an integer has no more digits than are converted elsewhere.

* `JsonText.readDocument?` reads a document.
-/

namespace CommandTree

open Numeric

namespace JsonText

/-! ### Texts -/

/-- The number that hexadecimal digits stand for. -/
def hexNumber? (cs : List Char) : Option Nat :=
  cs.foldl (fun n c => do
    let n ← n
    if c.isDigit then return 16 * n + (c.toNat - '0'.toNat)
    else if 'a' ≤ c.toLower && c.toLower ≤ 'f' then return 16 * n + (c.toLower.toNat - 'a'.toNat + 10)
    else none) (some 0)

/-- The character of a short escape. -/
def escaped? (c : Char) : Option Char :=
  [('"', '"'), ('\\', '\\'), ('/', '/'), ('b', '\x08'), ('f', '\x0c'), ('n', '\n'), ('r', '\r'), ('t', '\t')].lookup c

/-- Reads a text behind its opening quote: its code points, with pairs of surrogates for some, and what follows the
closing quote. -/
def readUnits? : List Char → Option (List Nat × List Char)
  | [] => none
  | '"' :: cs => some ([], cs)
  | '\\' :: 'u' :: a :: b :: c :: d :: cs => do
    let unit ← hexNumber? [a, b, c, d]
    let (units, rest) ← readUnits? cs
    return (unit :: units, rest)
  | '\\' :: c :: cs => do
    let e ← escaped? c
    let (units, rest) ← readUnits? cs
    return (e.toNat :: units, rest)
  | c :: cs =>
    if c.toNat < 0x20 then none
    else do
      let (units, rest) ← readUnits? cs
      return (c.toNat :: units, rest)

/-- The characters of code points and pairs of surrogates; a surrogate alone is no character. -/
def charsOfUnits? : List Nat → Option (List Char)
  | [] => some []
  | unit :: units =>
    if unit < 0xD800 ∨ 0xE000 ≤ unit then (charsOfUnits? units).map (Char.ofNat unit :: ·)
    else match units with
      | low :: units =>
        if unit < 0xDC00 ∧ 0xDC00 ≤ low ∧ low < 0xE000 then
          (charsOfUnits? units).map (Char.ofNat (0x10000 + (unit - 0xD800) * 0x400 + (low - 0xDC00)) :: ·)
        else none
      | [] => none

/-- Reads a text behind its opening quote, and what follows the closing one. -/
def readText? (cs : List Char) : Option (String × List Char) := do
  let (units, rest) ← readUnits? cs
  let chars ← charsOfUnits? units
  return (.ofList chars, rest)

/-! ### Numbers -/

/-- Splits off the digits behind a mark, with the mark, if there are any digits. -/
def splitMarked (mark : List Char) (cs rest : List Char) : List Char × List Char :=
  match splitDigits cs with
  | ([], _) => ([], rest)
  | (digits, more) => (mark ++ digits, more)

/-- Splits a fraction off. -/
def splitFraction : List Char → List Char × List Char
  | '.' :: cs => splitMarked ['.'] cs ('.' :: cs)
  | cs => ([], cs)

/-- Splits a power of ten off. -/
def splitPower : List Char → List Char × List Char
  | e :: s :: cs =>
    if e = 'e' ∨ e = 'E' then
      if s = '+' ∨ s = '-' then splitMarked [e, s] cs (e :: s :: cs) else splitMarked [e] (s :: cs) (e :: s :: cs)
    else ([], e :: s :: cs)
  | cs => ([], cs)

/-- Splits the digits of an integer off, of which the first is zero only if it is the last one. -/
def splitWhole : List Char → List Char × List Char
  | '0' :: cs => (['0'], cs)
  | cs => splitDigits cs

/-- Reads a number. -/
def readNumber? (cs : List Char) : Option (Value × List Char) :=
  let (sign, body) := match cs with
    | '-' :: body => (['-'], body)
    | _ => ([], cs)
  let (whole, rest) := splitWhole body
  let (fraction, rest) := splitFraction rest
  let (power, rest) := splitPower rest
  let text := String.ofList (sign ++ whole ++ fraction ++ power)
  if whole = [] then none
  else if fraction = [] ∧ power = [] then
    match readInteger text with
    | .ok n => some (.integer n, rest)
    | .error _ => none
  else (DecimalLiteral.ofText? text).map fun d => (.real (.ofDecimal d), rest)

/-- The literals. -/
def literals : List (String × Value) :=
  [("null", .none), ("true", .bool true), ("false", .bool false), ("NaN", .real .nan),
    ("Infinity", .real (.infinite false)), ("-Infinity", .real (.infinite true))]

/-- Reads a literal or a number. -/
def readAtom? (cs : List Char) : Option (Value × List Char) :=
  match literals.find? fun (word, _) => word.toList.isPrefixOf cs with
  | some (word, v) => some (v, cs.drop word.length)
  | none => readNumber? cs

/-! ### Documents -/

/-- Drops the white space in front. -/
def skipSpace (cs : List Char) : List Char := cs.dropWhile fun c => c == ' ' || c == '\t' || c == '\n' || c == '\r'

/-- Gives a member of an object a value. -/
def assign (entries : List (String × Value)) (name : String) (v : Value) : List (String × Value) :=
  if entries.any fun e => e.1 == name then entries.map fun e => if e.1 == name then (name, v) else e
  else entries ++ [(name, v)]

mutual

/-- Reads a value; `fuel` bounds the number of steps. -/
def readValue? : (fuel : Nat) → List Char → Option (Value × List Char)
  | 0, _ => none
  | fuel + 1, cs =>
    match cs with
    | '"' :: cs => (readText? cs).map fun (s, rest) => (.text s, rest)
    | '[' :: cs =>
      match skipSpace cs with
      | ']' :: rest => some (.list [], rest)
      | cs => (readItems? fuel cs).map fun (vs, rest) => (.list vs, rest)
    | '\x7b' :: cs =>
      match skipSpace cs with
      | '\x7d' :: rest => some (.dictionary [], rest)
      | cs => (readMembers? fuel [] cs).map fun (entries, rest) => (.dictionary entries, rest)
    | cs => readAtom? cs

/-- Reads the items of a list, and the bracket behind them. -/
def readItems? : (fuel : Nat) → List Char → Option (List Value × List Char)
  | 0, _ => none
  | fuel + 1, cs => do
    let (v, rest) ← readValue? fuel cs
    match skipSpace rest with
    | ',' :: rest => (readItems? fuel (skipSpace rest)).map fun (vs, rest) => (v :: vs, rest)
    | ']' :: rest => some ([v], rest)
    | _ => none

/-- Reads the members of an object behind those that have been read, and the bracket behind them. -/
def readMembers? : (fuel : Nat) → List (String × Value) → List Char → Option (List (String × Value) × List Char)
  | 0, _, _ => none
  | fuel + 1, entries, cs =>
    match cs with
    | '"' :: cs => do
      let (name, rest) ← readText? cs
      match skipSpace rest with
      | ':' :: rest =>
        let (v, rest) ← readValue? fuel (skipSpace rest)
        let entries := assign entries name v
        match skipSpace rest with
        | ',' :: rest => readMembers? fuel entries (skipSpace rest)
        | '\x7d' :: rest => some (entries, rest)
        | _ => none
      | _ => none
    | _ => none

end

/-- Reads a whole document. Each two steps take at least one character. -/
def readDocument? (s : String) : Option Value :=
  match readValue? (2 * s.length + 2) (skipSpace s.toList) with
  | some (v, rest) => if skipSpace rest = [] then some v else none
  | none => none

end JsonText

end CommandTree
