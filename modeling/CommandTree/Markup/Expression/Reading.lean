import CommandTree.Markup.Expression.Grammar.Operator
import CommandTree.Markup.Expression.Template
/-!
Reading an expression.

The text is cut into tokens, and these are read by the rules of the grammar. Only if that misses are they read again
with an eye on mistakes, so that the fault can be named; without a name it is just invalid. A bracket that is never
closed takes precedence over a mistake on a later line.

* `Expression.parse` reads tokens;
* `Expression.checkQuotations` checks quotations, and with them the expressions in templates;
* `Expression.ofText` reads a text.
-/

namespace CommandTree.Markup.Expression

open CommandTree.Markup.Expression.Parser

/-! ### Tokens -/

/-- The parsers of the rules, which come back to each other up to so many times. -/
def rules : Nat → Rules
  | 0, _ => miss
  | n + 1, rule => remembered rule (Grammar.body (rules n) rule)

/-- How often rules come back to each other before a token is taken. -/
def rulesPerToken : Nat := 32

/-- The rules for some tokens. -/
def Source.rules (source : Source) : Rules := Expression.rules (rulesPerToken * (source.tokens.size + 2))

/-- The fault of tokens of which so many have been looked at, if it has no name. -/
def nameless (tokens : Array Token) (reached : Nat) : Fault :=
  if tokens[reached - 1]?.any (·.sort == .indentation) then .indented else .invalid

/-- The fault that is reported for a mistake that has been noticed with so many tokens looked at. An open bracket on an
earlier line is reported instead, if the end of the text is yet to be noticed then or the mistake is a `late` one. -/
def reported (scan : Scan) (late : Bool) (fault : Fault) (reached : Nat) : Fault :=
  if fault = .indented ∨ scan.fault = some fault then fault
  else match scan.behindIndentation?, scan.bracket with
    | some behind, _ => behind
    | none, none => fault
    | none, some bracket =>
      let noticed := bracket.noticed.any fun behind => scan.tokens.length ≤ reached + behind
      if (late || !noticed) && scan.tokens[reached - 1]?.any (bracket.line < ·.line) then .neverClosed bracket.bracket
      else fault

/-- Reads tokens from a rule on. -/
def parse (scan : Scan) (checkQuotations : List String → Except Fault Unit) (inTemplate : Bool)
    (start : Rules → Parser Tree) : Except Fault Tree :=
  let tokens := scan.tokens.toArray
  let source : Source := ⟨tokens, scan.fault, checkQuotations, inTemplate⟩
  let attempt (attentive : Bool) := start source.rules source ⟨0, 0, attentive, ∅⟩
  match attempt false with
  | .found tree _ => .ok tree
  | .faulty fault reached => .error (reported scan false fault reached)
  | .missed first | .refused first =>
    let fault := nameless tokens first.reached
    match attempt true with
    | .faulty fault reached => .error (reported scan false fault reached)
    | .found _ second | .missed second | .refused second =>
      .error (reported scan true (if inTemplate then .inTemplate fault else fault) second.reached)

/-! ### Quotations -/

/-- Checks quotations that stand side by side; `before` says whether the one before them consists of bytes. -/
def checkRow (template : Quotation → Except Fault Unit) (own : Fault → Fault) (before : Option Bool) :
    List String → Except Fault Unit
  | [] => .ok ()
  | word :: words => do
    let quotation := Quotation.ofToken word
    if !quotation.template then
      quotation.check.mapError own
    if before.any (· != quotation.bytes) then
      throw (own .mixedQuotations)
    if quotation.template then
      template quotation
    checkRow template own (some quotation.bytes) words

/-- Checks quotations that stand side by side, and templates within templates up to some depth. -/
def checkQuotations : Nat → Bool → List String → Except Fault Unit
  | 0, _, _ => .ok ()
  | depth + 1, inTemplate, words =>
    let own (fault : Fault) : Fault := if inTemplate then .inTemplate fault else fault
    let field (text : List Char) : Except Fault Unit := do
      let _ ← parse (← Scan.ofText text) (checkQuotations depth true) true Grammar.starExpressions
      return ()
    checkRow (fun quotation => Template.check ⟨own, field, quotation.raw⟩ quotation.content) own none words

/-! ### Texts -/

/-- A row of expressions with nothing behind it. -/
def whole (r : Rules) : Parser Tree := do
  let tree ← Grammar.expressions r
  let _ ← many (ofSort .lineEnd)
  let _ ← ofSort .finish
  return tree

/-- The expression in a text. -/
def ofText (text : List Char) : Except Fault Tree := do
  parse (← Scan.ofText text) (checkQuotations text.length false) false whole

end CommandTree.Markup.Expression
