import CommandTree.Markup.Expression.Grammar.Call
import CommandTree.Markup.Expression.Grammar.Display
import CommandTree.Markup.Expression.Grammar.Function
/-!
Operators, from those that bind most closely to conditions, and with them the rules of the grammar.

* `Grammar.body` says for each rule what it finds.
-/

namespace CommandTree.Markup.Expression.Grammar

open CommandTree.Markup.Expression.Parser

variable (r : Rules)

/-! ### Parts and calls -/

/-- What may follow something that has parts or can be called: the name of a part, or arguments. -/
def continuation (function : Tree) : Parser Tree :=
  choice [do
      sign "."
      let _ ← name
      return .member,
    do
      let _ ← generator r
      return .call function false,
    do
      sign "("
      let given ← optional (r .arguments)
      sign ")"
      return .call function given.isNone]

/-- Goes on as often as a tree has a continuation, up to so many times. -/
def grow (step : Tree → Parser Tree) : Nat → Tree → Parser Tree
  | 0, tree => return tree
  | n + 1, tree => do
    match ← optional (step tree) with
    | none => return tree
    | some tree => grow step n tree

/-- Goes on as often as a tree has a continuation. -/
def growing (step : Tree → Parser Tree) (tree : Tree) : Parser Tree := fun source state =>
  grow step source.tokens.size tree source state

/-- An expression that stands by itself, its parts and its calls. -/
def primary : Parser Tree := do growing (continuation r) (← atom r)

/-- The beginning of a target, behind which the name of a part or arguments follow. -/
def targetPrimary : Parser Tree := do
  let tree ← atom r
  continuesPrimary
  growing (fun tree => do
    let tree ← continuation r tree
    continuesPrimary
    return tree) tree

/-! ### Arithmetic -/

/-- Operands with operators between them, which bind to the left. -/
def chain (operand : Parser Tree) (signs : List String) (join : Tree → Tree → Tree) : Parser Tree := do
  let first ← operand
  let others ← many do
    let _ ← oneSign signs
    operand
  return others.foldl join first

/-- Two operands as an expression of which nothing else is kept. -/
def joined (_ _ : Tree) : Tree := .other "expression"

/-- What is awaited, or an expression itself. -/
def operand : Parser Tree :=
  choice [do
      keyword "await"
      let _ ← r .primary
      return .other "await expression",
    r .primary]

/-- An operand and perhaps its exponent. -/
def power : Parser Tree := do
  let base ← r .operand
  let exponent ← optional do
    sign "**"
    r .factor
  return if exponent.isSome then .other "expression" else base

/-- An expression behind signs. -/
def factor : Parser Tree :=
  choice [do
      let _ ← oneSign ["+", "-"]
      return .signed (← r .factor),
    do
      sign "~"
      let _ ← r .factor
      return .other "expression",
    power r]

/-! ### Comparisons and conditions -/

/-- A comparison with what stands before it; the result says whether it asks for membership. -/
def compared : Parser Bool :=
  choice [do
      let _ ← oneSign ["==", "!=", "<=", "<", ">=", ">"]
      second false,
    do
      keyword "not"
      keyword "in"
      second false,
    do
      keyword "in"
      second true,
    do
      keyword "is"
      let _ ← optional (keyword "not")
      second false]
where
  second (membership : Bool) : Parser Bool := do
    let _ ← r .bitwiseOr
    return membership

/-- A chain of comparisons. -/
def comparison : Parser Tree := do
  let left ← r .bitwiseOr
  match ← many (compared r) with
  | [] => return left
  | membership :: _ => return .comparison left membership

/-- A negation, or a chain of comparisons. -/
def inversion : Parser Tree :=
  choice [do
      keyword "not"
      let _ ← r .inversion
      return .other "expression",
    comparison r]

/-- Operands with a word between them. -/
def worded (operand : Parser Tree) (word : String) : Parser Tree := do
  let first ← operand
  let others ← many do
    keyword word
    operand
  return if others.isEmpty then first else .other "expression"

/-- An expression, which may have a condition and an alternative. -/
def conditional : Parser Tree :=
  choice [do
      let _ ← r .disjunction
      keyword "if"
      let _ ← r .disjunction
      keyword "else"
      let _ ← r .expression
      return .other "conditional expression",
    r .disjunction,
    function r]

/-- Whether a tree is the name of a command that was once written without brackets. -/
def isBareCommand : Tree → Bool
  | .name word => bareCommands.contains word
  | _ => false

/-- A name in front of a quotation, or a word that may be reserved. -/
def quotationLetters : Parser Unit :=
  choice [do
      let _ ← name
      let _ ← ofSort .quotation,
    do
      let word ← ofSort .name
      if beginsSoftKeyword word then return () else miss]

/-- Mistakes in an expression: a missing comma or a missing alternative. -/
def expressionMistake : Parser Tree :=
  choice [do
      absent quotationLetters
      let left ← r .disjunction
      let _ ← inattentively (conditional r)
      if isBareCommand left then refuse
      else if (← depth) = 0 then refuse
      else mistake .missingComma,
    do
      let _ ← r .disjunction
      keyword "if"
      let _ ← r .disjunction
      absent (choice [keyword "else", sign ":"])
      mistake .missingElse]

/-- Mistakes behind a name: a command without brackets. -/
def commandMistake : Parser Tree :=
  choice [do
    let word ← ofSort .name
    absent (sign "(")
    let _ ← starExpressions r
    if bareCommands.contains word then mistake (.bareCommand word) else refuse]

/-- An expression. -/
def expression : Parser Tree :=
  choice [attentively (expressionMistake r), attentively (commandMistake r), conditional r]

/-- Mistakes in giving a name to an expression. -/
def namingMistake : Parser Tree :=
  choice [do
      let target ← r .expression
      sign ":="
      let _ ← r .expression
      mistake (.bindingBehind target.noun),
    do
      let _ ← name
      equals
      mistake .equalsBehindName,
    do
      absent (choice [tuple r, generator r, namedConstant "True" "True", namedConstant "None" "None",
        namedConstant "False" "False"])
      let target ← r .bitwiseOr
      equals
      mistake (.equalsBehind target.noun)]
where
  equals : Parser Unit := do
    sign "="
    let _ ← r .bitwiseOr
    absent (oneSign ["=", ":="])

/-! ### The rules -/

/-- What a rule finds. -/
def body : Rule → Parser Tree
  | .expression => expression r
  | .starExpression => starExpression r
  | .disjunction => worded (r .conjunction) "or"
  | .conjunction => worded (r .inversion) "and"
  | .inversion => inversion r
  | .bitwiseOr => chain (r .bitwiseXor) ["|"] joined
  | .bitwiseXor => chain (r .bitwiseAnd) ["^"] joined
  | .bitwiseAnd => chain (r .shift) ["&"] joined
  | .shift => chain (r .sum) ["<<", ">>"] joined
  | .sum => chain (r .term) ["+", "-"] .sum
  | .term => chain (r .factor) ["*", "/", "//", "%", "@"] joined
  | .factor => factor r
  | .operand => operand r
  | .primary => primary r
  | .quotations => quotations
  | .arguments => arguments r
  | .target => target r
  | .plainTarget => plainTarget r
  | .targetPrimary => targetPrimary r
  | .namingMistake => namingMistake r

end CommandTree.Markup.Expression.Grammar
