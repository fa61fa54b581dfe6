import CommandTree.Markup.Expression.Grammar.Clause
/-!
The arguments of calls.

Plain arguments come first, those with names behind them. A starred argument counts as a plain one, and it may stand
among those with names; one with two stars stands for several with names and is followed by such ones only.
-/

namespace CommandTree.Markup.Expression.Grammar

open CommandTree.Markup.Expression.Parser

variable (r : Rules)

/-- The arguments of one group behind those of another one. -/
def joinArguments : List Tree → Tree
  | [] => .arguments 0 false
  | .arguments plain unpacked :: trees =>
    match joinArguments trees with
    | .arguments others more => .arguments (plain + others) (unpacked || more)
    | tree => tree
  | _ :: trees => joinArguments trees

/-- Mistakes in an argument with a name. -/
def namedArgumentMistake : Parser Tree :=
  choice [do
      let word ← choice (["True", "False", "None"].map fun word => do
        keyword word
        return word)
      sign "="
      mistake (.badTarget word),
    do
      let _ ← name
      sign "="
      let _ ← r .expression
      iterations r
      mistake .equalsBehindName,
    do
      absent do
        let _ ← name
        sign "="
      let _ ← r .expression
      sign "="
      mistake .unnamedArgument]

/-- An argument with its name. -/
def namedArgument : Parser Tree := do
  let _ ← name
  sign "="
  let _ ← r .expression
  return .arguments 0 false

/-- An argument with its name, or a starred one. -/
def namedOrStarred : Parser Tree :=
  choice [attentively (namedArgumentMistake r), namedArgument r, do
    let _ ← starredExpression r
    return .arguments 1 false]

/-- An argument with its name, or one that stands for several. -/
def namedOrUnpacked : Parser Tree :=
  choice [attentively (namedArgumentMistake r), namedArgument r, do
    sign "**"
    let _ ← r .expression
    return .arguments 0 true]

/-- Arguments with names and others that may stand among them. -/
def namedArguments : Parser Tree :=
  choice [do
      let first ← separated (namedOrStarred r) ","
      sign ","
      let second ← separated (namedOrUnpacked r) ","
      return joinArguments (first ++ second),
    do return joinArguments (← separated (namedOrStarred r) ","),
    do return joinArguments (← separated (namedOrUnpacked r) ",")]

/-- An argument without a name. -/
def plainArgument : Parser Tree := do
  let _ ← choice [starredExpression r, do
    let tree ← choice [assignmentExpression r, plainExpression r]
    absent (sign "=")
    return tree]
  return .arguments 1 false

/-- Arguments without anything behind them. -/
def argumentRow : Parser Tree :=
  choice [do
      let plain ← separated (plainArgument r) ","
      let named ← optional do
        sign ","
        namedArguments r
      return joinArguments (plain ++ named.toList),
    namedArguments r]

/-- Mistakes in arguments. -/
def argumentsMistake : Parser Tree :=
  choice [do
      let _ ← argumentRow r
      sign ","
      sign "*"
      mistake .starredArgument,
    do
      iterated
      sign ","
      let _ ← optional (choice [do
          let _ ← argumentRow r
          return (),
        iterated])
      mistake .bareIteration,
    do
      let _ ← name
      sign "="
      iterated
      mistake .equalsBehindName,
    do
      let row ← argumentRow r
      iterations r
      match row with
      | .arguments plain _ => if 1 < plain then mistake .bareIteration else refuse
      | _ => refuse,
    do
      let _ ← argumentRow r
      sign ","
      iterated
      mistake .bareIteration,
    do
      let row ← argumentRow r
      sign ","
      let _ ← argumentRow r
      match row with
      | .arguments _ unpacked => mistake (.plainArgument unpacked)
      | _ => refuse]
where
  iterated : Parser Unit := do
    let _ ← r .expression
    iterations r

/-- The arguments of a call. -/
def arguments : Parser Tree :=
  choice [do
      let row ← argumentRow r
      let _ ← optional (sign ",")
      peek (sign ")")
      return row,
    attentively (argumentsMistake r)]

end CommandTree.Markup.Expression.Grammar
