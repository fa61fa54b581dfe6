import CommandTree.Node
import CommandTree.Text.Quoted
/-!
Command trees as source text, in one canonical layout.

Every node stands on a line of its own, indented by its depth. A node without children ends in a semicolon; the children
of another stand between the brace that ends its line and a brace on a line below them. Names are quoted where they
have to be, keys and parameters always.

* `Node.headText` is the name with the key and the parameters;
* `Node.lines` lists the lines, from a list of nodes and closing braces that are still to be written;
* `Node.print` is the whole text.
-/

namespace CommandTree.Node

open Text

-- Sums start from the core zero, also where a module beside this one brings another.
attribute [local instance (high)] Zero.ofOfNat0

/-- The name of a node, and for an argument the key and the parameters of its type. -/
def headText (n : Node) : String :=
  let type := match n.type with
    | none => []
    | some t => quote t.key :: t.parameters.map quote
  " ".intercalate (formatToken n.name :: type)

/-- What is still to be written: a node, or the brace that closes a block, each at a depth. -/
inductive Pending where
  | node (n : Node) (depth : Nat)
  | closing (depth : Nat)

namespace Pending

/-- A bound on how many lines are still to be written for an entry. -/
def weight : Pending → Nat
  | node n _ => 2 * n.size
  | closing _ => 1

/-- The weights of nodes at the same depth. -/
theorem sum_weight_map_node (ns : List Node) (depth : Nat) :
    ((ns.map fun n => Pending.node n depth).map weight).sum = 2 * sizes ns := by
  induction ns with
  | nil => rfl
  | cons n ns ih =>
    simp only [List.map_cons, List.sum_cons, ih, weight, sizes]
    omega

end Pending

/-- Blanks to the given depth. -/
def indentation (indent depth : Nat) : String := String.ofList (List.replicate (indent * depth) ' ')

/-- The lines of all entries that are still to be written. -/
def linesOf (indent : Nat) (pending : List Pending) : List String :=
  match pending with
  | [] => []
  | .closing depth :: rest => (indentation indent depth ++ "\x7d") :: linesOf indent rest
  | .node n depth :: rest =>
    if n.children.isEmpty then
      (indentation indent depth ++ n.headText ++ ";") :: linesOf indent rest
    else
      (indentation indent depth ++ n.headText ++ " \x7b") ::
        linesOf indent (n.children.map (.node · (depth + 1)) ++ .closing depth :: rest)
termination_by (pending.map Pending.weight).sum
decreasing_by
  · simp only [List.map_cons, List.sum_cons, Pending.weight]
    omega
  · have := size_eq n
    simp only [List.map_cons, List.sum_cons, Pending.weight]
    omega
  · have h := Pending.sum_weight_map_node n.children (depth + 1)
    have := size_eq n
    simp only [List.map_cons, List.map_append, List.sum_cons, List.sum_append, h, Pending.weight]
    omega

/-- The lines of a tree; a negative indentation counts as none. -/
def lines (n : Node) (indent : Int) : List String := linesOf indent.toNat [.node n 0]

/-- How deep a block is indented unless it is said otherwise. -/
def standardIndent : Int := 4

/-- The source text of a tree, each line with a line feed at its end. -/
def print (n : Node) (indent : Int) : String :=
  "\n".intercalate (n.lines indent) ++ "\n"

end CommandTree.Node
