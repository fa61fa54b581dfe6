import CommandTree.Markup.Expression.Parser
/-!
Parts from which expressions are put together: items, names with values, targets and iterations.

Each parser has the parsers for the rules as its argument, through which it comes back to itself. Mistakes that have a
wording of their own are looked for where they would be made.
-/

namespace CommandTree.Markup.Expression.Grammar

open CommandTree.Markup.Expression.Parser

variable (r : Rules)

/-- A name. -/
def name : Parser Tree := do return .name (← ofSort .name)

/-! ### Rows -/

/-- Expressions with commas between them, and perhaps one at the end; one without a comma stands for itself. -/
def row (p : Parser Tree) : Parser Tree := do
  let first ← p
  let others ← many do
    sign ","
    p
  let comma ← optional (sign ",")
  return if others.isEmpty && comma.isNone then first else .tuple (first :: others)

/-- A row of expressions. -/
def expressions : Parser Tree := row (r .expression)

/-- A row of expressions, some of which may be starred. -/
def starExpressions : Parser Tree := row (r .starExpression)

/-- An expression behind a star. -/
def starredExpression : Parser Tree := do
  sign "*"
  return .starred (← r .expression)

/-- An expression that may be starred. -/
def starExpression : Parser Tree :=
  choice [do
      sign "*"
      return .starred (← r .bitwiseOr),
    r .expression]

/-- What a generator yields. -/
def yieldExpression : Parser Tree := do
  keyword "yield"
  let _ ← choice [do
      keyword "from"
      return some (← r .expression),
    optional (starExpressions r)]
  return .other "yield expression"

/-! ### Names with values -/

/-- A name that is given a value within an expression. -/
def assignmentExpression : Parser Tree :=
  choice [do
    let _ ← name
    sign ":="
    let _ ← committed (r .expression)
    return .other "named expression"]

/-- An expression to which no name is given. -/
def plainExpression : Parser Tree := do
  let tree ← r .expression
  absent (sign ":=")
  return tree

/-- An expression, to which a name may be given. -/
def namedExpression : Parser Tree :=
  choice [assignmentExpression r, attentively (r .namingMistake), plainExpression r]

/-- A named expression or a starred one. -/
def starNamedExpression : Parser Tree :=
  choice [do
      sign "*"
      return .starred (← r .bitwiseOr),
    namedExpression r]

/-- Named or starred expressions with commas between them, and perhaps one at the end. -/
def starNamedExpressions : Parser (List Tree) := do
  let items ← separated (starNamedExpression r) ","
  let _ ← optional (sign ",")
  return items

/-! ### Targets -/

/-- What goes on with a part of itself or a call. -/
def continuesPrimary : Parser Unit := peek (oneSign ["(", "[", "."])

/-- Targets with commas between them. -/
def targets : Parser Tree :=
  choice [do
      let target ← r .target
      absent (sign ",")
      return target,
    do
      let _ ← separated (r .target) ","
      let _ ← optional (sign ",")
      return .part]

/-- A target, perhaps behind a star. -/
def target : Parser Tree :=
  choice [do
      sign "*"
      absent (sign "*")
      r .target,
    r .plainTarget]

/-- At least two targets in brackets, or one with a comma. -/
def targetRow : Parser Unit := do
  let targets ← separated (r .target) ","
  let comma ← optional (sign ",")
  if targets.length = 1 && comma.isNone then miss else return ()

/-- A target without a star: a part of something, a name, or targets in brackets. -/
def plainTarget : Parser Tree :=
  choice [do
      let _ ← r .targetPrimary
      sign "."
      let _ ← name
      absent continuesPrimary
      return .member,
    name,
    do
      sign "("
      let target ← r .plainTarget
      sign ")"
      return target,
    do
      sign "("
      let _ ← optional (targetRow r)
      sign ")"
      return .part]

/-! ### Iterations -/

/-- Conditions behind an iteration. -/
def conditions : Parser Unit := do
  let _ ← many do
    keyword "if"
    r .disjunction

/-- An iteration with its conditions. -/
def iteration : Parser Unit :=
  choice [do
      keyword "async"
      clause,
    clause,
    attentively do
      let _ ← optional (keyword "async")
      keyword "for"
      let tree ← starExpressions r
      match tree.badTarget? with
      | some bad => mistake (.badTarget bad.noun)
      | none => refuse]
where
  clause : Parser Unit := do
    keyword "for"
    let _ ← targets r
    keyword "in"
    committed do
      let _ ← r .disjunction
      conditions r

/-- Iterations, at least one. -/
def iterations : Parser Unit := do
  let _ ← oneOrMore (iteration r)

/-- Mistakes in an iteration in brackets. -/
def iterationMistake : Parser Tree :=
  choice [do
      let _ ← oneSign ["(", "\x7b"]
      let _ ← starredExpression r
      iterations r
      mistake (.starIterated false),
    do
      sign "\x7b"
      let _ ← starNamedExpression r
      sign ","
      let _ ← starNamedExpressions r
      iterations r
      mistake .bareItems,
    do
      sign "\x7b"
      let _ ← starNamedExpression r
      sign ","
      iterations r
      mistake .bareItems]

/-- An iteration in round brackets. -/
def generator : Parser Tree :=
  choice [do
      sign "("
      let _ ← choice [assignmentExpression r, plainExpression r]
      iterations r
      sign ")"
      return .other "generator expression",
    attentively (iterationMistake r)]

end CommandTree.Markup.Expression.Grammar
