import CommandTree.Markup.Expression.Grammar.Clause
/-!
Functions without a name.

A parameter may have a default, and then those behind it have one too. A slash closes the parameters that cannot be
given by name, and a star opens those that can only be given so.
-/

namespace CommandTree.Markup.Expression.Grammar

open CommandTree.Markup.Expression.Parser

variable (r : Rules)

/-- Notices a mistake in parameters. -/
def badParameters (problem : String) : Parser Unit := mistake (.badParameters problem)

/-- What ends a parameter: a comma, unless the parameters end. -/
def parameterEnd : Parser Unit := choice [sign ",", peek (sign ":")]

/-- The default of a parameter. -/
def defaultValue : Parser Unit :=
  choice [do
      sign "="
      let _ ← r .expression
      return (),
    attentively do
      sign "="
      peek (oneSign [")", ","])
      badParameters "expected default value expression"]

/-- A parameter without a default. -/
def bareParameter : Parser Unit := do
  let _ ← name
  parameterEnd

/-- A parameter with a default. -/
def defaultedParameter : Parser Unit := do
  let _ ← name
  defaultValue r
  parameterEnd

/-- A parameter, perhaps with a default. -/
def parameter : Parser Unit := do
  let _ ← name
  let _ ← optional (defaultValue r)
  parameterEnd

/-- A slash behind parameters without defaults. -/
def slashBehindBare : Parser Unit := do
  let _ ← oneOrMore bareParameter
  sign "/"
  parameterEnd

/-- A slash behind parameters of which the last one has a default. -/
def slashBehindDefaulted : Parser Unit := do
  let _ ← many bareParameter
  let _ ← oneOrMore (defaultedParameter r)
  sign "/"
  parameterEnd

/-- A slash behind parameters. -/
def slash : Parser Unit := choice [slashBehindBare, slashBehindDefaulted r]

/-- Mistakes in a parameter for named arguments. -/
def namedRestMistake : Parser Unit :=
  choice [do
      rest
      sign "="
      badParameters "var-keyword argument cannot have default value",
    do
      rest
      sign ","
      let _ ← name
      badParameters "arguments cannot follow var-keyword argument",
    do
      rest
      sign ","
      let _ ← oneSign ["*", "**", "/"]
      badParameters "arguments cannot follow var-keyword argument"]
where
  rest : Parser Unit := do
    sign "**"
    let _ ← name

/-- A parameter for named arguments. -/
def namedRest : Parser Unit :=
  choice [attentively namedRestMistake, do
    sign "**"
    bareParameter]

/-- Mistakes behind the star of parameters. -/
def starMistake : Parser Unit :=
  choice [do
      sign "*"
      choice [sign ":", do
        sign ","
        let _ ← oneSign [":", "**"]]
      badParameters "named arguments must follow bare *",
    do
      sign "*"
      let _ ← name
      sign "="
      badParameters "var-positional argument cannot have default value",
    do
      star
      let _ ← many (parameter r)
      star
      badParameters "* argument may appear only once"]
where
  star : Parser Unit := do
    sign "*"
    choice [bareParameter, sign ","]

/-- Parameters from the star on. -/
def starParameters : Parser Unit :=
  choice [attentively (starMistake r),
    do
      sign "*"
      bareParameter
      let _ ← many (parameter r)
      let _ ← optional namedRest,
    do
      sign "*"
      sign ","
      let _ ← oneOrMore (parameter r)
      let _ ← optional namedRest,
    namedRest]

/-- Mistakes in parameters. -/
def parametersMistake : Parser Unit :=
  choice [do
      let _ ← many bareParameter
      choice [slashBehindDefaulted r, do
        let _ ← oneOrMore (defaultedParameter r)]
      bareParameter
      badParameters "non-default argument follows default argument",
    do
      let _ ← many bareParameter
      sign "("
      let _ ← separated name ","
      let _ ← optional (sign ",")
      sign ")"
      badParameters "Lambda expression parameters cannot be parenthesized",
    do
      sign "/"
      sign ","
      badParameters "at least one argument must precede /",
    do
      slash r
      let _ ← many (parameter r)
      sign "/"
      badParameters "/ may appear only once",
    do
      let _ ← optional (slash r)
      let _ ← many (parameter r)
      sign "*"
      choice [sign ",", bareParameter]
      let _ ← many (parameter r)
      sign "/"
      badParameters "/ must be ahead of *",
    do
      let _ ← oneOrMore (parameter r)
      sign "/"
      sign "*"
      badParameters "expected comma between / and *"]

/-- Parameters. -/
def parameters : Parser Unit :=
  choice [attentively (parametersMistake r),
    do
      slashBehindBare
      let _ ← many bareParameter
      defaulted,
    do
      slashBehindDefaulted r
      defaulted,
    do
      let _ ← oneOrMore bareParameter
      defaulted,
    do
      let _ ← oneOrMore (defaultedParameter r)
      let _ ← optional (starParameters r),
    starParameters r]
where
  defaulted : Parser Unit := do
    let _ ← many (defaultedParameter r)
    let _ ← optional (starParameters r)

/-- A function without a name. -/
def function : Parser Tree := do
  keyword "lambda"
  let _ ← optional (parameters r)
  sign ":"
  let _ ← r .expression
  return .other "lambda"

end CommandTree.Markup.Expression.Grammar
