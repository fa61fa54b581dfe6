import CommandTree.Markup.Expression.Scan
import CommandTree.Markup.Expression.Tree
import Std.Data.HashMap
/-!
Parsers of expressions.

A parser finds something at a place among the tokens, or misses it, and then another one may be tried at the same
place. It may also be in the wrong for good, so that no other one is tried, or notice a fault, which ends everything.
What the rules of the grammar find at a place is remembered. Mistakes are only looked for in a second attempt, when the
first one has missed.

* `Parser` are the parsers, with `choice`, `many` and the like;
* `Rule` are the rules whose findings are remembered, by `remembered`.
-/

namespace CommandTree.Markup.Expression

/-- The rules of the grammar whose findings are remembered. -/
inductive Rule where
  | expression | starExpression | disjunction | conjunction | inversion
  | bitwiseOr | bitwiseXor | bitwiseAnd | shift | sum | term | factor | operand | primary
  | quotations | arguments | target | plainTarget | targetPrimary | namingMistake
  deriving DecidableEq, Repr, Hashable

/-- What a parser works on. -/
structure Source where
  tokens : Array Token
  fault : Option Fault
  checkQuotations : List String → Except Fault Unit
  inTemplate : Bool

/-- The state of a parser. -/
structure State where
  position : Nat
  -- the number of tokens that have been looked at
  reached : Nat
  attentive : Bool
  -- what rules have found where, and how many tokens are before the place behind it
  known : Std.HashMap (Rule × Nat) (Option (Tree × Nat))

/-- What comes of a parser. -/
inductive Outcome (α : Type) where
  | found (value : α) (state : State)
  | missed (state : State)
  -- it has found nothing, and neither would the other ones of the same choice
  | refused (state : State)
  | faulty (fault : Fault) (reached : Nat)

/-- A parser. -/
def Parser (α : Type) : Type := Source → State → Outcome α

namespace Parser

variable {α β : Type}

/-- Finds a value without looking. -/
def pure (value : α) : Parser α := fun _ state => .found value state

/-- Goes on with what has been found. -/
def bind (p : Parser α) (f : α → Parser β) : Parser β := fun source state =>
  match p source state with
  | .found value state => f value source state
  | .missed state => .missed state
  | .refused state => .refused state
  | .faulty fault reached => .faulty fault reached

instance : Monad Parser where
  pure := pure
  bind := bind

/-- Finds nothing. -/
def miss : Parser α := fun _ state => .missed state

/-- Finds nothing, and keeps the other parsers of a choice from trying. -/
def refuse : Parser α := fun _ state => .refused state

/-- Keeps the other parsers of a choice from trying if a parser misses. -/
def committed (p : Parser α) : Parser α := fun source state =>
  match p source state with
  | .missed state => .refused state
  | outcome => outcome

/-- Notices a mistake. -/
def mistake (fault : Fault) : Parser α := fun source state =>
  .faulty (if source.inTemplate then .inTemplate fault else fault) state.reached

/-- Tries parsers at the same place until one finds something. -/
def choice : List (Parser α) → Parser α
  | [] => miss
  | p :: ps => fun source state =>
    match p source state with
    | .missed after => choice ps source { after with position := state.position }
    | .refused after => .missed { after with position := state.position }
    | outcome => outcome

/-- Tries a parser only while mistakes are looked for. -/
def attentively (p : Parser α) : Parser α := fun source state =>
  if state.attentive then p source state else .missed state

/-- Tries a parser without looking for mistakes. -/
def inattentively (p : Parser α) : Parser α := fun source state =>
  let restore (after : State) : State := { after with attentive := state.attentive }
  match p source { state with attentive := false } with
  | .found value after => .found value (restore after)
  | .missed after => .missed (restore after)
  | .refused after => .refused (restore after)
  | .faulty fault reached => .faulty fault reached

/-- Succeeds where a parser finds something, which is not taken. -/
def peek (p : Parser α) : Parser Unit := fun source state =>
  match p source state with
  | .found _ after => .found () { after with position := state.position }
  | .missed after | .refused after => .missed { after with position := state.position }
  | .faulty fault reached => .faulty fault reached

/-- Succeeds where a parser finds nothing. -/
def absent (p : Parser α) : Parser Unit := fun source state =>
  match p source state with
  | .found _ after => .missed { after with position := state.position }
  | .missed after | .refused after => .found () { after with position := state.position }
  | .faulty fault reached => .faulty fault reached

/-- Finds something or nothing. -/
def optional (p : Parser α) : Parser (Option α) :=
  choice [do return some (← p), pure none]

/-- Finds something up to so many times. -/
def upTo (p : Parser α) : Nat → Parser (List α)
  | 0 => pure []
  | n + 1 => do
    match ← optional p with
    | none => return []
    | some x => return x :: (← upTo p n)

/-- Finds something as often as it is there. -/
def many (p : Parser α) : Parser (List α) := fun source state => upTo p source.tokens.size source state

/-- Finds something at least once. -/
def oneOrMore (p : Parser α) : Parser (List α) := do
  let x ← p
  return x :: (← many p)

/-- Looks at the next token. -/
def next : Parser Token := fun source state =>
  match source.tokens[state.position]? with
  | some token =>
    .found token { state with position := state.position + 1, reached := max state.reached (state.position + 1) }
  | none =>
    match source.fault with
    | some fault => .faulty fault state.reached
    | none => .missed state

/-- A token of a sort. -/
def ofSort (sort : Token.Sort) : Parser String := do
  let token ← next
  if token.sort = sort then return token.word else miss

/-- A sign. -/
def sign (word : String) : Parser Unit := do
  let token ← next
  if token.sort = .sign ∧ token.word = word then return () else miss

/-- A reserved word. -/
def keyword (word : String) : Parser Unit := do
  let token ← next
  if token.sort = .keyword ∧ token.word = word then return () else miss

/-- One of some signs. -/
def oneSign (words : List String) : Parser String := choice (words.map fun word => do
  sign word
  return word)

/-- Things with a sign between them, at least one. -/
def separated (p : Parser α) (word : String) : Parser (List α) := do
  let x ← p
  return x :: (← many do
    sign word
    p)

/-- The number of brackets that are open here. -/
def depth : Parser Nat := fun source state =>
  .found ((source.tokens[state.position - 1]?.map Token.depth).getD 0) state

/-- Finds what a rule finds, or what it is remembered to have found. -/
def remembered (rule : Rule) (p : Parser Tree) : Parser Tree := fun source state =>
  match state.known[(rule, state.position)]? with
  | some (some (tree, position)) => .found tree { state with position }
  | some none => .missed state
  | none =>
    let remember (after : State) (finding : Option (Tree × Nat)) : State :=
      { after with known := after.known.insert (rule, state.position) finding }
    match p source state with
    | .found tree after => .found tree (remember after (some (tree, after.position)))
    | .missed after | .refused after => .missed { remember after none with position := state.position }
    | .faulty fault reached => .faulty fault reached

end Parser

/-- Parsers for the rules. -/
abbrev Rules : Type := Rule → Parser Tree

end CommandTree.Markup.Expression
