import CommandTree.Markup.Expression.Quotation
/-!
Templates: quotations with fields in curly brackets.

A field holds an expression, perhaps an equals sign, a letter for its form behind an exclamation mark, and behind a
colon a format, which may hold fields itself. Outside of fields doubled curly brackets stand for single ones.

* `Template.splitField` finds the end of the expression of a field;
* `Template.check` checks a template; how the expressions in it are checked is given.
-/

namespace CommandTree.Markup.Expression.Template

/-- How the parts of a template are checked. -/
structure Checks where
  own : Fault → Fault
  field : List Char → Except Fault Unit
  raw : Bool

/-- Reports that a template is not formed properly. -/
def Checks.refuse {α : Type} (checks : Checks) (problem : String) : Except Fault α :=
  .error (checks.own (.inTemplate (.badTemplate problem)))

/-- The greatest number of brackets in one another within a field. -/
def maxDepth : Nat := 200

/-- Whether a sign goes on with an equals sign, as comparisons do. -/
def isComparison (c : Char) (cs : List Char) : Bool :=
  (c == '!' || c == '=' || c == '<' || c == '>') && cs.head? == some '='

/-- Splits the expression of a field off. It ends at a sign that stands neither in brackets nor in quotes; `quote` is
the open quote, and says whether it is tripled. -/
def splitField (checks : Checks) (brackets : List Char) (quote : Option (Char × Bool)) (text : List Char) :
    Except Fault (List Char × List Char) :=
  match text with
  | [] =>
    match quote, brackets with
    | some _, _ => checks.refuse "unterminated string"
    | none, c :: _ => checks.refuse s!"unmatched '{c}'"
    | none, [] => checks.refuse "expecting '\x7d'"
  | c :: cs =>
    let take (n : Nat) (brackets : List Char) (quote : Option (Char × Bool)) :
        Except Fault (List Char × List Char) := do
      let (expression, rest) ← splitField checks brackets quote (cs.drop n)
      return (c :: cs.take n ++ expression, rest)
    if c = '\\' then .error (checks.own (.badTemplate "f-string expression part cannot include a backslash"))
    else match quote with
    | some (q, tripled) =>
      if c ≠ q then take 0 brackets quote
      else if !tripled then take 0 brackets none
      else if [c, c].isPrefixOf cs then take 2 brackets none
      else take 0 brackets quote
    | none =>
      if c = '\'' ∨ c = '"' then
        if [c, c].isPrefixOf cs then take 2 brackets (some (c, true)) else take 0 brackets (some (c, false))
      else if c = '(' ∨ c = '[' ∨ c = '{' then
        if brackets.length < maxDepth then take 0 (c :: brackets) none
        else checks.refuse "too many nested parenthesis"
      else if c = '#' then .error (checks.own (.badTemplate "f-string expression part cannot include '#'"))
      else if brackets.isEmpty && isComparison c cs then take 1 brackets none
      else if brackets.isEmpty && (c == '!' || c == ':' || c == '}' || c == '=') then .ok ([], c :: cs)
      else if c = ')' ∨ c = ']' ∨ c = '}' then
        match brackets with
        | [] => checks.refuse s!"unmatched '{c}'"
        | opening :: brackets =>
          if (opening = '(' ∧ c = ')') ∨ (opening = '[' ∧ c = ']') ∨ (opening = '{' ∧ c = '}') then take 0 brackets none
          else
            checks.refuse s!"closing parenthesis '{c}' does not match opening parenthesis '{opening}'"
      else take 0 brackets none
termination_by text.length
decreasing_by all_goals simp only [List.length_drop, List.length_cons]; omega

/-- Whether a character may stand around an expression that is not there. -/
def isGap (c : Char) : Bool := c == ' ' || c == '\t' || c == '\n' || c == '\x0c'

/-- Checks the expression of a field, which stands in brackets then. -/
def checkExpression (checks : Checks) (expression rest : List Char) : Except Fault Unit :=
  if expression.all isGap then
    .error (checks.own (.inTemplate (.emptyField (rest.head?.filter (· ≠ '}')))))
  else checks.field ('(' :: expression ++ [')'])

/-- What follows the letter for the form of a field, if there is one. -/
def afterForm (checks : Checks) (text : List Char) : Except Fault (List Char) :=
  match text with
  | '!' :: cs =>
    match cs with
    | [] => checks.refuse "expecting '\x7d'"
    | c :: cs =>
      if c = 's' ∨ c = 'r' ∨ c = 'a' then .ok cs
      else checks.refuse "invalid conversion character: expected 's', 'r', or 'a'"
  | cs => .ok cs

/-- What follows an escape by name whose letter has been read. -/
def afterName : List Char → List Char × List Char
  | '{' :: cs =>
    let name := cs.takeWhile (· ≠ '}')
    ('{' :: name ++ (cs.drop name.length).take 1, cs.drop (name.length + 1))
  | cs => (cs.take 1, cs.drop 1)

/-- Splits the text up to the next field off, or up to the first of doubled brackets and that one included. Within
formats a closing bracket ends the text too. -/
def splitText (checks : Checks) (inFormat : Bool) (text : List Char) : Except Fault (List Char × List Char) :=
  match text with
  | [] => .ok ([], [])
  | c :: cs =>
    let take (n : Nat) (more : List Char) : Except Fault (List Char × List Char) := do
      let (text, rest) ← splitText checks inFormat (cs.drop n)
      return (c :: more ++ text, rest)
    let bracket (d : Char) (ds before : List Char) : Except Fault (List Char × List Char) :=
      if !inFormat && ds.head? == some d then .ok (before ++ [d], ds.drop 1)
      else if !inFormat && d == '}' then checks.refuse "single '\x7d' is not allowed"
      else .ok (before, d :: ds)
    if c = '{' ∨ c = '}' then bracket c cs []
    else if c = '\\' && !checks.raw then
      match cs with
      | [] => .ok ([c], [])
      | d :: ds =>
        if d = 'N' then take (1 + (afterName ds).1.length) (d :: (afterName ds).1)
        else if d = '{' ∨ d = '}' then bracket d ds [c]
        else take 1 [d]
    else take 0 []
termination_by text.length
decreasing_by simp only [List.length_drop, List.length_cons]; omega

/-- Checks a template, or a format on some level within one, with so much fuel; the result is what follows a format. -/
def checkFrom (checks : Checks) : Nat → Nat → List Char → Except Fault (List Char)
  | 0, _, _ => .ok []
  | fuel + 1, level, text => do
    let (plain, rest) ← splitText checks (level > 0) text
    if !checks.raw then
      match checkText 0 plain with
      | .ok () => pure ()
      | .error fault => throw (checks.own fault)
    if plain.length + rest.length < text.length then checkFrom checks fuel level rest
    else match rest with
    | [] => return []
    | c :: cs =>
      if c = '}' then return rest
      else if level ≥ 2 then checks.refuse "expressions nested too deeply"
      else
        let (expression, rest) ← splitField checks [] none cs
        checkExpression checks expression rest
        let rest ← afterForm checks (if rest.head? == some '=' then rest.drop 1 else rest)
        let rest ← if rest.head? == some ':' then checkFrom checks fuel (level + 1) (rest.drop 1) else pure rest
        if rest.head? == some '}' then checkFrom checks fuel level (rest.drop 1)
        else checks.refuse "expecting '\x7d'"

/-- Checks a template. -/
def check (checks : Checks) (text : List Char) : Except Fault Unit := do
  let _ ← checkFrom checks (text.length + 1) 0 text
  return ()

end CommandTree.Markup.Expression.Template
