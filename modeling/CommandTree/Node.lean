import CommandTree.ArgumentType.Draft
/-!
Command trees.

A node is a literal, which matches its name, or an argument, which takes a value of its argument type; it has
children in order. Sibling names need not differ.

* `Node.ind` is the induction principle: what is inherited from the children holds of every tree;
* `Node.walk` lists a tree depth first, from a list of nodes that are still to be visited;
* `Node.child?` is the first child of a name;
* `Node.same` compares trees by the values of their types.
-/

namespace CommandTree

/-- A command tree. A node without an argument type is a literal. -/
inductive Node where
  | node (name : String) (type : Option ArgumentType) (children : List Node)

namespace Node

/-! ### Parts -/

/-- The name of a node. -/
def name : Node → String
  | node name _ _ => name

/-- The argument type of a node, if it is an argument. -/
def type : Node → Option ArgumentType
  | node _ type _ => type

/-- The children of a node, in order. -/
def children : Node → List Node
  | node _ _ children => children

/-- Whether a node is a literal. -/
def isLiteral (n : Node) : Bool := n.type.isNone

/-- What is inherited from the children holds of every tree. -/
@[elab_as_elim]
theorem ind {P : Node → Prop}
    (step : ∀ name type children, (∀ c ∈ children, P c) → P (.node name type children)) (n : Node) : P n :=
  Node.rec (motive_1 := P) (motive_2 := fun cs => ∀ c ∈ cs, P c)
    (fun name type cs ih => step name type cs ih)
    (fun _ hc => nomatch hc)
    (fun _ _ first rest _ hc => by
      cases hc with
      | head => exact first
      | tail _ hc => exact rest _ hc)
    n

/-! ### Size -/

mutual

/-- How many nodes a tree has. -/
def size : Node → Nat
  | node _ _ children => 1 + sizes children

/-- How many nodes several trees have together. -/
def sizes : List Node → Nat
  | [] => 0
  | n :: ns => n.size + sizes ns

end

/-- A tree has a node and those of its children. -/
theorem size_eq (n : Node) : n.size = 1 + sizes n.children := by
  cases n
  rfl

/-- The sizes of two lists add up. -/
theorem sizes_append (ms ns : List Node) : sizes (ms ++ ns) = sizes ms + sizes ns := by
  induction ms with
  | nil => simp [sizes]
  | cons m ms ih => simp only [List.cons_append, sizes, ih]; omega

/-! ### Walking -/

/-- The nodes of several trees, each before its descendants: the first tree is visited first, and its children are
put in front of the trees that are left. -/
def walkAll (pending : List Node) : List Node :=
  match pending with
  | [] => []
  | n :: rest => n :: walkAll (n.children ++ rest)
termination_by sizes pending
decreasing_by
  rw [sizes_append]
  simp only [sizes, size_eq n]
  omega

/-- The nodes of a tree, each before its descendants. -/
def walk (n : Node) : List Node := walkAll [n]

/-- The first child of the given name. -/
def child? (n : Node) (name : String) : Option Node := n.children.find? fun c => c.name == name

/-- The children that a path of names leads to, one for each name as far as there are such children, and then
nothing. -/
def descend (n : Node) : List String → List (Option Node)
  | [] => []
  | name :: path =>
    match n.child? name with
    | none => [none]
    | some c => some c :: c.descend path

/-! ### Comparing -/

/-- Whether two optional types are both missing, or equal by their values. -/
def sameType : Option ArgumentType → Option ArgumentType → Bool
  | none, none => true
  | some a, some b => a.same b
  | _, _ => false

mutual

/-- Whether two trees are equal by the values of their types. -/
def same : Node → Node → Bool
  | node a s cs, node b t ds => a == b && sameType s t && sameAll cs ds

/-- Whether two lists of trees are equal one by one. -/
def sameAll : List Node → List Node → Bool
  | [], [] => true
  | c :: cs, d :: ds => same c d && sameAll cs ds
  | _, _ => false

end

/-! ### Making nodes -/

/-- A node made from given values, of which a name is required, and for an argument a type too. -/
def ofFields? (name : Option String) (isArgument : Bool) (type : Option ArgumentType) (children : List Node) :
    Except (List FieldProblem) Node :=
  let missingName := if name.isNone then [⟨["name"], .missing⟩] else []
  let missingType := if isArgument && type.isNone then [⟨["type"], .missing⟩] else []
  match name, missingName ++ missingType with
  | some name, [] => .ok (node name (if isArgument then type else none) children)
  | _, problems => .error problems

end Node

end CommandTree
