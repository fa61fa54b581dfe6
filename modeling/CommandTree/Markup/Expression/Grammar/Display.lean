import CommandTree.Markup.Expression.Grammar.Clause
import CommandTree.Markup.Expression.Quotation
/-!
Expressions that stand by themselves: names, constants, quotations, and whatever is written in brackets.
-/

namespace CommandTree.Markup.Expression.Grammar

open CommandTree.Markup.Expression.Parser

variable (r : Rules)

/-! ### Round brackets -/

/-- Items in brackets. -/
def tuple : Parser Tree := do
  sign "("
  let items ← optional do
    let first ← starNamedExpression r
    sign ","
    let others ← optional (starNamedExpressions r)
    return first :: others.getD []
  sign ")"
  return .tuple (items.getD [])

/-- An expression in brackets. -/
def group : Parser Tree :=
  choice [do
      sign "("
      let tree ← choice [yieldExpression r, namedExpression r]
      sign ")"
      return tree,
    attentively (choice [do
        sign "("
        let _ ← starredExpression r
        sign ")"
        mistake (.loneStar false),
      do
        sign "("
        sign "**"
        let _ ← r .expression
        sign ")"
        mistake (.loneStar true)])]

/-! ### Curly brackets -/

/-- A key with its value. -/
def keyed : Parser (Option Tree × Tree) := do
  let key ← r .expression
  sign ":"
  return (some key, ← r .expression)

/-- An entry of a dictionary. -/
def entry : Parser (Option Tree × Tree) :=
  choice [do
      sign "**"
      return (none, ← r .bitwiseOr),
    keyed r]

/-- Mistakes behind a key of a dictionary. -/
def valueMistakes : List (Parser Tree) :=
  [do
      let _ ← r .expression
      sign ":"
      sign "*"
      let _ ← r .bitwiseOr
      mistake .starredValue,
    do
      let _ ← r .expression
      sign ":"
      peek (oneSign ["\x7d", ","])
      mistake .missingValue]

/-- Mistakes in the entries of a dictionary. -/
def entriesMistake : Parser Tree :=
  choice ((do
    let _ ← separated (entry r) ","
    sign ","
    choice ((do
      let _ ← r .expression
      absent (sign ":")
      mistake .missingColon) :: valueMistakes r)) :: valueMistakes r)

/-- A dictionary. Mistakes in its entries are noticed at once. -/
def dictionary : Parser Tree :=
  choice [do
      sign "\x7b"
      let entries ← optional do
        let entries ← separated (entry r) ","
        let _ ← optional (sign ",")
        return entries
      sign "\x7d"
      return .dictionary (entries.getD []),
    do
      sign "\x7b"
      let _ ← entriesMistake r
      sign "\x7d"
      return .part]

/-- A set. -/
def set : Parser Tree := do
  sign "\x7b"
  let items ← starNamedExpressions r
  sign "\x7d"
  return .set items

/-- A dictionary from an iteration. -/
def iteratedDictionary : Parser Tree :=
  choice [do
      sign "\x7b"
      let _ ← keyed r
      iterations r
      sign "\x7d"
      return .other "dict comprehension",
    attentively do
      sign "\x7b"
      sign "**"
      let _ ← r .bitwiseOr
      iterations r
      sign "\x7d"
      mistake (.starIterated true)]

/-- A set from an iteration. -/
def iteratedSet : Parser Tree :=
  choice [do
      sign "\x7b"
      let _ ← namedExpression r
      iterations r
      sign "\x7d"
      return .other "set comprehension",
    attentively (iterationMistake r)]

/-! ### Constants -/

/-- A number. -/
def number : Parser Tree := do
  let word ← ofSort .number
  match numberFault? word with
  | some fault => mistake fault
  | none => return .constant (if word.toList.any isUnit && !isMarked word.toList then .imaginary else .real)
where
  isUnit (c : Char) : Bool := c == 'j' || c == 'J'
  isMarked : List Char → Bool
    | '0' :: c :: _ => c == 'x' || c == 'X'
    | _ => false

/-- A constant with a name of its own. -/
def namedConstant (word noun : String) : Parser Tree := do
  keyword word
  return .constant (.named noun)

/-- Quotations that stand side by side. -/
def quotations : Parser Tree := do
  let words ← oneOrMore (ofSort .quotation)
  fun source state =>
    match source.checkQuotations words with
    | .error fault => .faulty fault state.reached
    | .ok () =>
      .found (if words.any fun word => (Quotation.ofToken word).template then .other "f-string expression"
        else .constant .quotation) state

/-- An expression that stands by itself. -/
def atom : Parser Tree :=
  choice [name, namedConstant "True" "True", namedConstant "False" "False", namedConstant "None" "None",
    r .quotations, number,
    do
      peek (sign "(")
      choice [tuple r, group r, generator r],
    do
      peek (sign "\x7b")
      choice [dictionary r, set r, iteratedDictionary r, iteratedSet r],
    do
      sign "..."
      return .constant (.named "ellipsis")]

end CommandTree.Markup.Expression.Grammar
