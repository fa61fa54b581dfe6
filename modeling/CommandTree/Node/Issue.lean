import CommandTree.Node
/-!
Likely mistakes in a command tree.

A tree can be read and still be wrong: a name may be empty, the bounds of a numeric type may admit no value or only
one, a string that takes all the input may have children, siblings may share a name.

* `IssueKind.severity` and `IssueKind.message` say how bad a mistake is and word it;
* `Node.nodeIssues` are the mistakes of one node, its repeated child names last (`repeatedNames`);
* `Node.issues` are those of a whole tree, depth first, with the most severe ones before the others, and
  `Node.errors` the most severe ones alone.
-/

namespace CommandTree

open Numeric

/-! ### Kinds of mistakes -/

/-- How bad a mistake is. -/
inductive Severity where
  | error
  | warning
  | info
  deriving DecidableEq, Repr

/-- The word for a severity. -/
def Severity.name : Severity → String
  | error => "ERROR"
  | warning => "WARNING"
  | info => "INFO"

/-- A kind of mistake. -/
inductive IssueKind where
  | emptyName
  | unreachableChildren
  | emptyRange (key minimum maximum : String)
  | singleValue (key value : String)
  | repeatedName (name : String)
  deriving DecidableEq, Repr

namespace IssueKind

/-- How bad a kind of mistake is. -/
def severity : IssueKind → Severity
  | emptyName | emptyRange .. => .error
  | unreachableChildren | repeatedName _ => .warning
  | singleValue .. => .info

/-- The wording of a mistake. -/
def message : IssueKind → String
  | emptyName => "Node name is empty"
  | unreachableChildren => "Greedy string argument consumes the rest of the input, children are unreachable"
  | emptyRange key minimum maximum => s!"{key} minimum {minimum} exceeds maximum {maximum}"
  | singleValue key value => s!"{key} accepts only the value {value}"
  | repeatedName name => s!"Duplicate child name '{name}'"

end IssueKind

/-- A mistake at a node. -/
structure Issue where
  kind : IssueKind
  path : List String
  deriving DecidableEq, Repr

namespace Issue

/-- How bad a mistake is. -/
def severity (i : Issue) : Severity := i.kind.severity

/-- The wording of a mistake. -/
def message (i : Issue) : String := i.kind.message

/-- The names from the root to the node, as one text. -/
def location (i : Issue) : String := "/".intercalate i.path

/-- A mistake with its severity and place. -/
def describe (i : Issue) : String := s!"[{i.severity.name}] {i.location}: {i.message}"

end Issue

namespace Node

/-! ### The mistakes of one node -/

/-- What is wrong with the bounds of a type. -/
def boundIssues (key : String) (minimum maximum : Number) : List IssueKind :=
  if maximum.lt minimum then [.emptyRange key minimum.text maximum.text]
  else if minimum.same maximum then [.singleValue key minimum.text]
  else []

/-- What is wrong with a type at a node. -/
def typeIssues (hasChildren : Bool) (type : ArgumentType) : List IssueKind :=
  (if type.stringKind? = some .greedyPhrase ∧ hasChildren then [.unreachableChildren] else [])
    ++ match type.bounds? with
      | some (minimum, maximum) => boundIssues type.key minimum maximum
      | none => []

/-- The names that occur again in a list, each once, in the order of their second occurrence; `seen` and `reported`
are the names that occurred before and that were already found to occur again. -/
def repeatedNames (seen reported : List String) : List String → List String
  | [] => []
  | name :: names =>
    if seen.contains name && !reported.contains name then
      name :: repeatedNames (name :: seen) (name :: reported) names
    else repeatedNames (name :: seen) reported names

/-- The mistakes of one node. -/
def nodeIssues (n : Node) : List IssueKind :=
  (if n.name.isEmpty then [.emptyName] else [])
    ++ (match n.type with
      | none => []
      | some t => typeIssues (!n.children.isEmpty) t)
    ++ (repeatedNames [] [] (n.children.map name)).map .repeatedName

/-! ### The mistakes of a tree -/

/-- How many nodes there are in trees that are still to be looked at. -/
def sizesAt (pending : List (Node × List String)) : Nat := sizes (pending.map Prod.fst)

/-- The mistakes of trees that are still to be looked at, each given with the path to its root, depth first. -/
def issuesOf (pending : List (Node × List String)) : List Issue :=
  match pending with
  | [] => []
  | (n, path) :: rest =>
    n.nodeIssues.map (⟨·, path⟩) ++ issuesOf (n.children.map (fun c => (c, path ++ [c.name])) ++ rest)
termination_by sizesAt pending
decreasing_by
  simp only [sizesAt, List.map_append, List.map_map, List.map_cons, sizes_append, sizes, size_eq n]
  have h2 : List.map (Prod.fst ∘ fun c : Node => (c, path ++ [c.name])) n.children = n.children := by
    rw [show (Prod.fst ∘ fun c : Node => (c, path ++ [c.name])) = id from rfl, List.map_id]
  rw [h2]
  omega

/-- Mistakes with the most severe ones first, and otherwise in order. -/
def bySeverity (issues : List Issue) : List Issue :=
  [Severity.error, .warning, .info].flatMap fun s => issues.filter fun i => i.severity == s

/-- The mistakes of a tree, the most severe ones first. -/
def issues (n : Node) : List Issue := bySeverity (issuesOf [(n, [n.name])])

/-- The mistakes that keep a tree from working. -/
def errors (n : Node) : List Issue := n.issues.filter fun i => i.severity == .error

end Node

end CommandTree
