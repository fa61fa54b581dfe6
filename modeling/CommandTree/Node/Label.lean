import CommandTree.Node
/-!
Command trees as trees of labels.

Every node is shown by a label, a literal by its name and an argument by its name in angle brackets with the key and the
parameters of its type. The tree of labels is built by a function that calls itself once for each level, so it needs a
call stack that has enough frames; the walk of a tree and all that rests on it need none.

* `Node.label` is the label of a node, in pieces with a style each;
* `Node.buildTree?` builds the tree of labels, or runs out of frames.
-/

namespace CommandTree

/-- A piece of text in a style. -/
structure Styled where
  text : String
  style : String
  deriving DecidableEq, Repr

/-- A label: pieces of text one after the other. -/
abbrev Label : Type := List Styled

/-- A tree of labels. -/
inductive LabelTree where
  | branch (label : Label) (branches : List LabelTree)

/-- Adds a branch below the others. -/
def LabelTree.add : LabelTree → LabelTree → LabelTree
  | branch label branches, b => branch label (branches ++ [b])

/-- A call stack: the frames that are left, and how many of them it takes to make a branch of a label. -/
structure CallStack where
  frames : Nat
  need : Label → Nat

namespace Node

/-- The label of a node. -/
def label (n : Node) : Label :=
  match n.type with
  | none => [⟨n.name, "bold"⟩]
  | some t =>
    ⟨"<" ++ n.name ++ ">", "bold cyan"⟩ :: ⟨" " ++ t.key, "magenta"⟩ :: t.parameters.map fun p => ⟨" " ++ p, "dim"⟩

mutual

/-- Builds the tree of labels of a command tree with the frames that are left: a branch for its root, to which those of
its children are added. -/
def buildTree (need : Label → Nat) (frames : Nat) : Node → Option LabelTree
  | node name type children =>
    let label := (node name type children).label
    match frames with
    | 0 => none
    | frames + 1 => if need label ≤ frames then addTrees need frames (.branch label []) children else none

/-- Adds the trees of labels of command trees to another one. -/
def addTrees (need : Label → Nat) (frames : Nat) (b : LabelTree) : List Node → Option LabelTree
  | [] => some b
  | n :: ns =>
    match buildTree need frames n with
    | none => none
    | some c => addTrees need frames (b.add c) ns

end

/-- The tree of labels of a command tree, if the call stack does not overflow. -/
def buildTree? (stack : CallStack) (n : Node) : Option LabelTree := n.buildTree stack.need stack.frames

end Node

end CommandTree
