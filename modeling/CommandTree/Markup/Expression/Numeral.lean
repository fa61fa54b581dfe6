import CommandTree.Markup.Expression.Token
/-!
The numbers in expressions.

A number is decimal, with a fraction and an exponent if need be and a letter at its end if it is imaginary, or it is
written to the base 16, 8 or 2 behind a mark. Single low lines may part digits. No letter of ASCII and no low line may
follow a number, except for a few words.

* `afterNumber` is what follows a number at the beginning of a text.
-/

namespace CommandTree.Markup.Expression

/-- What follows digits that single low lines may part; if `needed`, a digit must come next. Otherwise the rest from
where a digit is missing. -/
def afterDigits (isDigit : Char → Bool) (needed : Bool) : List Char → Except (List Char) (List Char)
  | [] => if needed then .error [] else .ok []
  | c :: cs =>
    if isDigit c then afterDigits isDigit false cs
    else if needed then .error (c :: cs)
    else if c = '_' then afterDigits isDigit true cs
    else .ok (c :: cs)

/-- The words that may follow a number without a blank. -/
def followers : List (List Char) := ["and", "else", "for", "not", "or"].map String.toList

/-- The beginnings of words that may follow a number without a blank. -/
def followerBeginnings : List (List Char) := ["if", "in", "is"].map String.toList

/-- Whether a text begins with a word that may follow a number. -/
def isFollower (cs : List Char) : Bool :=
  followers.contains (cs.takeWhile isWordLike) || followerBeginnings.any (·.isPrefixOf cs)

/-- What follows a number of a form, unless that looks like a part of the number. -/
def afterForm (form : String) (rest : List Char) : Except Fault (List Char) :=
  match rest with
  | [] => .ok []
  | c :: _ => if (c.isAlphanum || c == '_') && !isFollower rest then .error (.badNumber form) else .ok rest

/-- What follows the digits of a number behind the mark of its base. -/
def afterMark (form : String) (isDigit : Char → Bool) (cs : List Char) : Except Fault (List Char) :=
  let misfit : List Char → Fault
    | c :: _ => if c.isDigit then .badDigit c form else .badNumber form
    | [] => .badNumber form
  match afterDigits isDigit true (if cs.head? == some '_' then cs.drop 1 else cs) with
  | .error rest => .error (misfit rest)
  | .ok rest =>
    match rest with
    | c :: _ => if c.isDigit then .error (misfit rest) else afterForm form rest
    | [] => .ok []

/-- What follows decimal digits, one of which must come next if `needed`. -/
def afterDecimals (needed : Bool) (cs : List Char) : Except Fault (List Char) :=
  match afterDigits Char.isDigit needed cs with
  | .ok rest => .ok rest
  | .error _ => .error (.badNumber "decimal")

/-- What follows the letter of an imaginary number, or the end of another number. -/
def afterUnit (cs : List Char) : Except Fault (List Char) :=
  match cs with
  | c :: rest => if c = 'j' ∨ c = 'J' then afterForm "imaginary" rest else afterForm "decimal" cs
  | [] => .ok []

/-- What follows an exponent, if there is one. A letter without digits is none. -/
def afterExponent (cs : List Char) : Except Fault (List Char) :=
  match cs with
  | [] => .ok []
  | e :: rest =>
    if e = 'e' ∨ e = 'E' then
      match rest with
      | c :: digits =>
        if c = '+' ∨ c = '-' then do afterUnit (← afterDecimals true digits)
        else if c.isDigit then do afterUnit (← afterDecimals true rest)
        else afterForm "decimal" cs
      | [] => afterForm "decimal" cs
    else afterUnit cs

/-- What follows a fraction whose point has been read. -/
def afterPoint (cs : List Char) : Except Fault (List Char) := do
  let rest ← if cs.head?.any Char.isDigit then afterDecimals true cs else .ok cs
  afterExponent rest

/-- What follows a decimal number. One that begins with a zero must be zero, if it has neither a fraction nor an
exponent and is not imaginary. -/
def afterDecimal (cs : List Char) : Except Fault (List Char) := do
  let rest ← afterDecimals true cs
  match rest with
  | '.' :: fraction => afterPoint fraction
  | c :: _ =>
    if c = 'e' ∨ c = 'E' ∨ c = 'j' ∨ c = 'J' then afterExponent rest
    else if isOctal then throw .leadingZero
    else afterForm "decimal" rest
  | [] => if isOctal then throw .leadingZero else return []
where
  isOctal : Bool :=
    let digits := cs.takeWhile fun c => c.isDigit || c == '_'
    cs.head? == some '0' && digits.any fun c => c != '0' && c != '_'

/-- Whether a character is a hexadecimal digit. -/
def isHexDigit (c : Char) : Bool :=
  c.isDigit || (decide ('a' ≤ c) && decide (c ≤ 'f')) || (decide ('A' ≤ c) && decide (c ≤ 'F'))

/-- What follows a number at the beginning of a text. -/
def afterNumber (cs : List Char) : Except Fault (List Char) :=
  match cs with
  | '0' :: mark :: rest =>
    if mark = 'x' ∨ mark = 'X' then afterMark "hexadecimal" isHexDigit rest
    else if mark = 'o' ∨ mark = 'O' then afterMark "octal" (fun c => decide ('0' ≤ c) && decide (c ≤ '7')) rest
    else if mark = 'b' ∨ mark = 'B' then afterMark "binary" (fun c => c == '0' || c == '1') rest
    else afterDecimal cs
  | '.' :: fraction => afterPoint fraction
  | cs => afterDecimal cs

/-- The fault of a number that is written without a mismatch, by its digits. -/
def numberFault? (word : String) : Option Fault :=
  let count := word.toList.countP Char.isDigit
  if word.toList.all (fun c => c.isDigit || c == '_') && count > Cause.digitLimit then some (.tooManyDigits count)
  else none

end CommandTree.Markup.Expression
