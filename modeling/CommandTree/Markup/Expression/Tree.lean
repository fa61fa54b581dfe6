/-!
Expressions.

Of an expression only as much is kept as its value takes, if it has one without any names, and as the wording of
mistakes takes.

* `Tree` are the expressions, and `Tree.noun` says in a word what one is;
* `Tree.badTarget?` is the part of an expression that cannot be given the values of an iteration;
* `Tree.checkValue` decides whether an expression has a value by itself.
-/

namespace CommandTree.Markup.Expression

/-- The constants. -/
inductive Constant where
  | real
  | imaginary
  | quotation
  | named (noun : String)
  deriving DecidableEq, Repr

/-- An expression, or another part of one. -/
inductive Tree where
  | name (word : String)
  | constant (value : Constant)
  | tuple (items : List Tree)
  | set (items : List Tree)
  -- keys with their values; an entry without a key stands for the entries of its value
  | dictionary (entries : List (Option Tree × Tree))
  -- a call; `bare` says that there are no arguments
  | call (function : Tree) (bare : Bool)
  | member
  | starred (value : Tree)
  | signed (operand : Tree)
  | sum (left right : Tree)
  | comparison (left : Tree) (membership : Bool)
  -- any other expression, by what it is called
  | other (noun : String)
  -- the arguments of a call: how many have no names, and whether one of the others stands for several
  | arguments (plain : Nat) (unpacked : Bool)
  | part
  deriving Repr, Inhabited

/-- Why an expression has no value by itself. -/
inductive ValueFault where
  | zeroCharacter
  | notConstant
  | noKey
  | unhashable (kind : String)
  deriving DecidableEq, Repr

/-- The wording of the lack of a value. -/
def ValueFault.message : ValueFault → String
  | zeroCharacter => "source code string cannot contain null bytes"
  | notConstant => "malformed node or string"
  | noKey => "malformed node or string: None"
  | unhashable kind => s!"unhashable type: '{kind}'"

namespace Tree

/-- What an expression is called. -/
def noun : Tree → String
  | name _ => "name"
  | constant (.named noun) => noun
  | constant _ => "literal"
  | tuple _ => "tuple"
  | set _ => "set display"
  | dictionary _ => "dict literal"
  | call _ _ => "function call"
  | member => "attribute"
  | starred _ => "starred"
  | signed _ | sum _ _ => "expression"
  | comparison _ _ => "comparison"
  | other noun => noun
  | arguments _ _ | part => "expression"

mutual

/-- The part of an expression that cannot be given the values of an iteration. -/
def badTarget? : Tree → Option Tree
  | tuple items => firstBadTarget? items
  | starred value => badTarget? value
  | comparison left membership => if membership then badTarget? left else none
  | name _ | member => none
  | tree => some tree

/-- The first part of some expressions that cannot be given the values of an iteration. -/
def firstBadTarget? : List Tree → Option Tree
  | [] => none
  | item :: items => (badTarget? item).or (firstBadTarget? items)

end

/-- Whether an expression is a real number, with or without a sign. -/
def isReal : Tree → Bool
  | constant .real | signed (constant .real) => true
  | _ => false

/-- Whether an expression is a number. -/
def isNumber : Tree → Bool
  | constant .real | constant .imaginary => true
  | _ => false

/-- A kind that cannot be an item or a key, if the other one is none. -/
def orKind (kind other : Option String) : Option String := kind.or other

/-- Refuses a kind that cannot be an item or a key. -/
def refuse : Option String → Except ValueFault Unit
  | none => .ok ()
  | some kind => .error (.unhashable kind)

mutual

/-- Decides whether an expression has a value by itself; if that value cannot be an item of a set or a key of a
dictionary, the result is the kind that prevents it. -/
def kind? : Tree → Except ValueFault (Option String)
  | constant _ => .ok none
  | tuple items => kindOfItems? items
  | set items => do
    checkItems items
    return some "set"
  | dictionary entries => do
    checkEntries entries
    return some "dict"
  | call (name word) bare => if word = "set" ∧ bare then .ok (some "set") else .error .notConstant
  | signed operand => if operand.isNumber then .ok none else .error .notConstant
  | sum left (constant .imaginary) => if left.isReal then .ok none else .error .notConstant
  | _ => .error .notConstant

/-- The first kind among some expressions that cannot be an item. -/
def kindOfItems? : List Tree → Except ValueFault (Option String)
  | [] => .ok none
  | item :: items => do
    let kind ← kind? item
    let rest ← kindOfItems? items
    return orKind kind rest

/-- Checks the items of a set. -/
def checkItems : List Tree → Except ValueFault Unit
  | [] => .ok ()
  | item :: items => do
    refuse (← kind? item)
    checkItems items

/-- Checks the entries of a dictionary. -/
def checkEntries : List (Option Tree × Tree) → Except ValueFault Unit
  | [] => .ok ()
  | (none, _) :: _ => .error .noKey
  | (some key, value) :: entries => do
    let kind ← kind? key
    let _ ← kind? value
    refuse kind
    checkEntries entries

end

/-- Decides whether an expression has a value by itself. -/
def checkValue (tree : Tree) : Except ValueFault Unit := do
  let _ ← tree.kind?
  return ()

end Tree

end CommandTree.Markup.Expression
