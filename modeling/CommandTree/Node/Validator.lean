import CommandTree.Node.Issue
/-!
Validators of command trees.

A validator keeps its tree and the mistakes that it found last. A run forgets these and checks the nodes of the tree with a
stack of nodes that are still to be looked at: the children of a node are put on it from the last to the first, so that the
first comes off next. What was found is sorted by severity in the end.

* `Severity.rank` puts the severities in order, and `Issue.isAsSevereAs` the mistakes;
* `Validator.pushChildren` is what becomes of the stack, `Validator.checkAll` empties it;
* `Validator.validate` is a run.
-/

namespace CommandTree

/-- The place of a severity among all, the most severe one first. -/
def Severity.rank : Severity → Nat
  | error => 1
  | warning => 2
  | info => 3

/-- Whether a mistake is at least as severe as another. -/
def Issue.isAsSevereAs (i j : Issue) : Bool := decide (i.severity.rank ≤ j.severity.rank)

/-- A tree and the mistakes that were found in it last. -/
structure Validator where
  root : Node
  -- the mistakes, none of them before the first run
  found : List Issue := []

namespace Validator

/-- Adds a mistake to those that were found. -/
def add (kind : IssueKind) (path : List String) : StateM Validator Unit :=
  modify fun v => { v with found := v.found ++ [⟨kind, path⟩] }

/-- Checks one node, given the path to it. -/
def checkNode (n : Node) (path : List String) : StateM Validator Unit := n.nodeIssues.forM fun kind => add kind path

/-- Puts the children of a node on a stack with their paths, from the last to the first. -/
def pushChildren (n : Node) (path : List String) (stack : List (Node × List String)) : List (Node × List String) :=
  n.children.reverse.foldl (fun stack c => (c, path ++ [c.name]) :: stack) stack

/-- Then the children are on top of it in their order. -/
theorem pushChildren_eq (n : Node) (path : List String) (stack : List (Node × List String)) :
    pushChildren n path stack = n.children.map (fun c => (c, path ++ [c.name])) ++ stack := by
  rw [pushChildren, List.foldl_flip_cons_eq_append, List.map_reverse, List.reverse_reverse]

/-- Checks the nodes on a stack and all their descendants. -/
def checkAll (stack : List (Node × List String)) : StateM Validator Unit :=
  match stack with
  | [] => pure ()
  | (n, path) :: rest => do
    checkNode n path
    checkAll (pushChildren n path rest)
termination_by Node.sizesAt stack
decreasing_by
  have children : (n.children.map fun c => (c, path ++ [c.name])).map Prod.fst = n.children := by
    rw [List.map_map]
    exact List.map_id _
  simp only [Node.sizesAt, pushChildren_eq, List.map_append, children, List.map_cons, Node.sizes_append, Node.sizes,
    Node.size_eq n]
  omega

/-- Looks for all mistakes, and keeps and hands out what was found, the most severe mistakes first. -/
def validate : StateM Validator (List Issue) := do
  modify fun v => { v with found := [] }
  let root := (← get).root
  checkAll [(root, [root.name])]
  modify fun v => { v with found := v.found.mergeSort Issue.isAsSevereAs }
  return (← get).found

end Validator

end CommandTree
