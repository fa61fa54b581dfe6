import CommandTree.Markup.Expression.Numeral
/-!
An expression cut into tokens.

Blanks, comments and, within brackets, ends of lines part tokens. Whatever else a text holds must be a token, and the
brackets must match; what is wrong with that is found before the grammar matters. Only brackets that are never closed
and stray backslashes may come after a mistake of grammar, so they are kept as the way in which the tokens end. So is
whatever comes after the first indentation, since no expression goes on with one.

* `Scan` are the tokens of a text;
* `Scan.ofText` cuts a text.
-/

namespace CommandTree.Markup.Expression

open Text

/-- A bracket that is open at the end of the tokens. -/
structure OpenBracket where
  bracket : Char
  line : Nat
  -- how many tokens come behind the one with which the end of the text is noticed, if it is with one
  noticed : Option Nat
  deriving DecidableEq, Repr

/-- The tokens of a text. -/
structure Scan where
  -- the tokens, the last of which is the end of the expression or the first indentation, if that is reached
  tokens : List Token
  fault : Option Fault
  bracket : Option OpenBracket
  deriving DecidableEq, Repr

/-- What is wrong behind the first indentation. -/
def Scan.behindIndentation? (scan : Scan) : Option Fault :=
  if scan.tokens.getLast?.any (·.sort == .indentation) then scan.fault else none

namespace Scan

/-- The blanks at the beginning of a line. -/
structure Margin where
  width : Nat
  count : Nat
  -- whether they do not count any more, because the line goes on another one
  settled : Bool
  deriving DecidableEq, Repr

/-- A margin without blanks. -/
def Margin.empty : Margin := ⟨0, 0, false⟩

/-- A margin with another blank. -/
def Margin.push (margin : Margin) (c : Char) : Margin :=
  if margin.settled then margin
  else if c = '\t' then { margin with width := (margin.width / 8 + 1) * 8, count := margin.count + 1 }
  else if c = '\x0c' then .empty
  else { margin with width := margin.width + 1, count := margin.count + 1 }

/-- A margin behind which a line goes on. -/
def Margin.settle (margin : Margin) : Margin :=
  if margin.settled || margin.width == 0 then margin else ⟨margin.width, margin.width, true⟩

/-- The greatest number of indentations in one another. -/
def maxIndentations : Nat := 99

/-- The margins of the lines that are indented, the innermost one first, at a line with another margin. It must be one
of them or a new one, whether tabs are wide or not. -/
def indentations? (margins : List Margin) (margin : Margin) : Option (List Margin) :=
  let outer := margins.dropWhile fun inner => margin.width < inner.width
  let last := outer.head?.getD .empty
  if margin.width = last.width then
    if margin.count = last.count then some outer else none
  else if outer.length = margins.length ∧ last.count < margin.count ∧ margins.length < maxIndentations then
    some (margin :: margins)
  else none

/-- Where the scanner of a text is. -/
structure Place where
  line : Nat
  brackets : List (Char × Nat)
  margin : Option Margin
  margins : List Margin
  -- how many tokens have been read since the one with which the end of the text was noticed, if it was with one
  noticed : Option Nat

/-- Puts a token in front of the others. -/
def cons (token : Token) (scan : Scan) : Scan := { scan with tokens := token :: scan.tokens }

/-- The number of line feeds in a text. -/
def lineFeeds (cs : List Char) : Nat := cs.count '\n'

/-! ### Quotations -/

/-- What follows the end of a quotation with single quotes. -/
def afterQuote? (quote : Char) : List Char → Option (List Char)
  | [] => none
  | '\\' :: _ :: cs => afterQuote? quote cs
  | c :: cs => if c = '\n' then none else if c = quote then some cs else afterQuote? quote cs

/-- What follows the end of a quotation with tripled quotes. -/
def afterQuotes? (quote : Char) : List Char → Option (List Char)
  | [] => none
  | '\\' :: _ :: cs => afterQuotes? quote cs
  | c :: cs => if [quote, quote, quote].isPrefixOf (c :: cs) then some (cs.drop 2) else afterQuotes? quote cs

/-- How far a quotation with single quotes goes that has no end. -/
def toLineEnd : List Char → List Char
  | [] => []
  | '\\' :: c :: cs => '\\' :: c :: toLineEnd cs
  | c :: cs => if c = '\n' then [] else c :: toLineEnd cs

/-- What follows a quotation whose first quote has been read on a line. -/
def afterQuotation (quote : Char) (line : Nat) (cs : List Char) : Except Fault (List Char) :=
  if [quote, quote].isPrefixOf cs then
    match afterQuotes? quote (cs.drop 2) with
    | some rest => .ok rest
    | none => .error (.openQuotation true (line + lineFeeds cs))
  else
    match afterQuote? quote cs with
    | some rest => .ok rest
    | none => .error (.openQuotation false (line + lineFeeds (toLineEnd cs)))

/-- The quote with which a quotation begins at the beginning of a text, and what follows the quote. -/
def quotation? (cs : List Char) : Option (Char × List Char) :=
  let letters := cs.takeWhile fun c => c != '\'' && c != '"'
  if quotationPrefixes.contains (letters.map Char.toLower) then
    match cs.drop letters.length with
    | quote :: rest => some (quote, rest)
    | [] => none
  else none

/-! ### Words and signs -/

/-- Checks a word. -/
def checkWord (cs : List Char) : Except Fault Unit :=
  match misplaced? cs with
  | none => .ok ()
  | some c => .error (if isPrintable c then .badCharacter c else .unprintableCharacter c)

/-- The greatest number of brackets in one another. -/
def maxDepth : Nat := 200

/-- The bracket that closes what another one opens. -/
def closing? (c : Char) : Option Char :=
  if c = '(' then some ')' else if c = '[' then some ']' else if c = '{' then some '}' else none

/-- The brackets that are open behind a sign. -/
def bracketsAfter (place : Place) (sign : List Char) : Except Fault (List (Char × Nat)) :=
  match sign with
  | [c] =>
    if (closing? c).isSome then
      if place.brackets.length < maxDepth then .ok ((c, place.line) :: place.brackets) else .error .tooDeep
    else if c = ')' ∨ c = ']' ∨ c = '}' then
      match place.brackets with
      | [] => .error (.unmatched c)
      | (opening, line) :: rest =>
        if closing? opening = some c then .ok rest
        else .error (.mismatched c opening (if line = place.line then none else some line))
    else if isPrintable c then .ok place.brackets
    else .error (.unprintableCharacter c)
  | _ => .ok place.brackets

/-- The token at the beginning of a text that begins with neither a blank nor a line feed, what follows it, and the
brackets that are open then. -/
def token (place : Place) (c : Char) (cs : List Char) : Except Fault (Token × List Char × List (Char × Nat)) := do
  let depth := place.brackets.length
  let some (quote, rest) := quotation? (c :: cs)
    | if isWordLike c && !c.isDigit then
        let word := (c :: cs).takeWhile isWordLike
        checkWord word
        return (.ofWord (.ofList word) place.line depth, (c :: cs).drop word.length, place.brackets)
      else if c.isDigit || (c == '.' && cs.head?.any Char.isDigit) then
        let rest ← afterNumber (c :: cs)
        let word := (c :: cs).take (cs.length + 1 - rest.length)
        return (⟨.number, .ofList word, place.line, depth⟩, rest, place.brackets)
      else
        let (sign, rest) := splitSign c cs
        let brackets ← bracketsAfter place sign
        return (⟨.sign, .ofList sign, place.line, brackets.length⟩, rest, brackets)
  let rest ← afterQuotation quote place.line rest
  return (⟨.quotation, .ofList ((c :: cs).take (cs.length + 1 - rest.length)), place.line, depth⟩, rest, place.brackets)

/-- Whether the end of a text is noticed with a token behind which so much of the text remains. Quotations with
something in them and signs of three characters show by themselves where they end; what might go on with a point or a
number is read at once. -/
def noticesEnd (token : Token) (rest : List Char) : Bool :=
  match token.sort with
  | .quotation => rest.isEmpty && (token.word.toList.dropWhile fun c => c != '\'' && c != '"').length == 2
  | .sign => (rest.isEmpty && decide (token.word.length < 3)) || (token.word == "." && rest == ['.'])
  | .number => rest.isEmpty || followers.contains rest
  | _ => rest.isEmpty

/-! ### Whole texts -/

/-- Whether a character parts tokens on a line. -/
def isGap (c : Char) : Bool := c == ' ' || c == '\t' || c == '\x0c'

/-- The margins of the lines that are indented, with that of the line if its first token comes next. -/
def Place.lineMargins? (place : Place) : Option (List Margin) :=
  match place.margin with
  | none => some place.margins
  | some margin => if place.brackets.isEmpty then indentations? place.margins margin else some place.margins

/-- The tokens of a text from a place on. -/
def scanFrom (place : Place) (text : List Char) : Except Fault Scan :=
  match text with
  | [] =>
    match place.brackets with
    | [] => .ok ⟨[⟨.finish, "", place.line, 0⟩], none, none⟩
    | (c, line) :: _ => .ok ⟨[], some (.neverClosed c), some ⟨c, line, place.noticed⟩⟩
  | c :: cs =>
    if isGap c then scanFrom { place with margin := place.margin.map (·.push c) } cs
    else if c = '#' then scanFrom place (cs.dropWhile (· != '\n'))
    else if c = '\n' then do
      let rest ← scanFrom { place with line := place.line + 1, margin := some .empty } cs
      return if place.margin.isSome || !place.brackets.isEmpty then rest
        else rest.cons ⟨.lineEnd, "", place.line, 0⟩
    else if c = '\\' then
      match cs with
      | '\n' :: rest =>
        scanFrom { place with line := place.line + 1, margin := place.margin.map (·.settle) } rest
      | _ => .ok ⟨[], some .strayBackslash, place.brackets.head?.map fun (c, line) => ⟨c, line, none⟩⟩
    else
      match place.lineMargins? with
      | none => .ok ⟨[], none, none⟩
      | some margins => do
        let scanned : Except Fault Scan := do
          let (token, rest, brackets) ← token place c cs
          if rest.length < (c :: cs).length then
            let noticed := match place.noticed with
              | some n => some (n + 1)
              | none => if noticesEnd token rest then some 0 else none
            let next : Place := ⟨place.line + lineFeeds token.word.toList, brackets, none, margins, noticed⟩
            return (← scanFrom next rest).cons token
          else throw .invalid
        if place.margins.length < margins.length then
          let fault := match scanned with
            | .ok scan => scan.behindIndentation?
            | .error fault => some fault
          return ⟨[⟨.indentation, "", place.line, 0⟩], fault, none⟩
        else scanned
termination_by text.length
decreasing_by
  · simp
  · have := (List.dropWhile_sublist (l := cs) (· != '\n')).length_le
    simp only [List.length_cons]
    omega
  · simp
  · simp only [List.length_cons]
    omega
  · assumption

/-- A text with line feeds for all ends of lines. -/
def withLineFeeds : List Char → List Char
  | '\r' :: '\n' :: cs => '\n' :: withLineFeeds cs
  | c :: cs => (if c = '\r' then '\n' else c) :: withLineFeeds cs
  | [] => []

/-- The tokens of a text. -/
def ofText (cs : List Char) : Except Fault Scan :=
  scanFrom ⟨1, [], some .empty, [], none⟩ (withLineFeeds cs)

end Scan

end CommandTree.Markup.Expression
