import CommandTree.Node.Label
import CommandTree.Proofs.Types
import Mathlib.Data.List.Basic
/-!
The order in which a tree is walked.

A node is found in a tree by its address, the places of the children that lead to it. Addresses are ordered as words are
in a dictionary, and this is the order of the walk. What is drawn is a tree of labels, which is built by adding one branch
after the other, and its labels stand in the same order. But there is one only if the call stack has a frame for each level.

* `Node.at?` is the node at an address, and `Node.addresses` are the addresses of a tree;
* `Node.walk_addresses`: a tree is walked from one address to the next, through every node once;
* `Node.buildTree_eq_some_iff`: the tree of labels is built if every node fits on the call stack, and it is
  `Node.labelTree`;
* `Node.preorder_labelTree`: its labels are those of the nodes in the order of the walk.
-/

namespace CommandTree

namespace Node

/-! ### Addresses -/

/-- The node that the places of children lead to. -/
def at? : List Nat → Node → Option Node
  | [], n => some n
  | i :: path, n => n.children[i]?.bind (at? path)

mutual

/-- The addresses of the nodes of a tree, that of its root first. -/
def addresses : Node → List (List Nat)
  | node _ _ children => [] :: addressesFrom 0 children

/-- The addresses of the nodes of several trees whose roots are the children from a place on. -/
def addressesFrom (i : Nat) : List Node → List (List Nat)
  | [] => []
  | n :: ns => n.addresses.map (i :: ·) ++ addressesFrom (i + 1) ns

end

/-- An address below the root begins with the place of a child, and goes on with an address of the child. -/
lemma mem_addressesFrom_iff {ns : List Node} {i : Nat} {path : List Nat} :
    path ∈ addressesFrom i ns ↔ ∃ j n rest, path = (i + j) :: rest ∧ ns[j]? = some n ∧ rest ∈ n.addresses := by
  induction ns generalizing i with
  | nil => simp [addressesFrom]
  | cons n ns ih =>
      rw [addressesFrom, List.mem_append, List.mem_map, ih]
      constructor
      · rintro (⟨rest, among, rfl⟩ | ⟨j, m, rest, rfl, here, among⟩)
        · exact ⟨0, n, rest, rfl, rfl, among⟩
        · exact ⟨j + 1, m, rest, by rw [Nat.add_right_comm, Nat.add_assoc], here, among⟩
      · rintro ⟨_ | j, m, rest, rfl, here, among⟩
        · cases here
          exact .inl ⟨rest, among, rfl⟩
        · exact .inr ⟨j, m, rest, by rw [Nat.add_right_comm, Nat.add_assoc], here, among⟩

/-- Addresses become greater from one to the next. -/
lemma pairwise_addresses (n : Node) : n.addresses.Pairwise (· < ·) := by
  induction n using Node.ind with
  | step name type children ih =>
      have inside (i : Nat) : (addressesFrom i children).Pairwise (· < ·) := by
        clear * - ih
        induction children generalizing i with
        | nil => exact .nil
        | cons child children more =>
            obtain ⟨first, others⟩ := List.forall_mem_cons.1 ih
            rw [addressesFrom, List.pairwise_append, List.pairwise_map]
            refine ⟨first.imp fun less => List.cons_lt_cons_iff.2 (.inr ⟨rfl, less⟩), more others (i + 1), ?_⟩
            intro path hpath path' hpath'
            obtain ⟨rest, -, rfl⟩ := List.mem_map.1 hpath
            obtain ⟨j, _, rest', rfl, -⟩ := mem_addressesFrom_iff.1 hpath'
            exact List.cons_lt_cons_iff.2 (.inl (by omega))
      rw [addresses]
      refine .cons (fun path hpath => ?_) (inside 0)
      obtain ⟨j, _, rest, rfl, -⟩ := mem_addressesFrom_iff.1 hpath
      exact List.nil_lt_cons _ rest

/-- There is a node at each address, and nowhere else. -/
lemma mem_addresses_iff {n : Node} {path : List Nat} : path ∈ n.addresses ↔ (at? path n).isSome = true := by
  induction path generalizing n with
  | nil =>
      cases n
      exact iff_of_true List.mem_cons_self rfl
  | cons i path ih =>
      obtain ⟨name, type, children⟩ := n
      rw [addresses, at?, List.mem_cons, mem_addressesFrom_iff, Option.isSome_bind, Option.any_eq_true]
      constructor
      · rintro (⟨⟨⟩⟩ | ⟨j, m, rest, same, here, among⟩)
        rw [Nat.zero_add, List.cons.injEq] at same
        obtain ⟨rfl, rfl⟩ := same
        exact ⟨m, here, ih.1 among⟩
      · rintro ⟨m, here, found⟩
        exact .inr ⟨i, m, path, by rw [Nat.zero_add], here, ih.2 found⟩

/-- The nodes at the addresses are those of the walk. -/
lemma map_at?_addresses (n : Node) : n.addresses.map (at? · n) = n.walk.map some := by
  induction n using Node.ind with
  | step name type children ih =>
      have inside (front ns : List Node) (h : ∀ c ∈ ns, c.addresses.map (at? · c) = c.walk.map some) :
          (addressesFrom front.length ns).map (at? · (node name type (front ++ ns))) = (ns.flatMap walk).map some := by
        induction ns generalizing front with
        | nil => rfl
        | cons n ns more =>
            obtain ⟨first, others⟩ := List.forall_mem_cons.1 h
            have here (path : List Nat) : at? (front.length :: path) (node name type (front ++ n :: ns)) = at? path n := by
              have child : (front ++ n :: ns)[front.length]? = some n := by simp
              rw [at?, Node.children, child, Option.bind_some]
            have behind := more (front ++ [n]) others
            rw [List.length_append, List.append_assoc, List.singleton_append] at behind
            rw [addressesFrom, List.map_append, List.map_map, List.flatMap_cons, List.map_append, ← first]
            exact congrArg₂ (· ++ ·) (List.map_congr_left fun path _ => here path) behind
      rw [addresses, walk_eq, List.map_cons, List.map_cons, at?]
      exact congrArg _ (inside [] children ih)

/-- **A tree is walked from one address to the next**, in the order of the addresses, and through every node once. -/
theorem walk_addresses (n : Node) :
    n.addresses.Pairwise (· < ·) ∧ (∀ path, path ∈ n.addresses ↔ (at? path n).isSome = true) ∧
      n.addresses.map (at? · n) = n.walk.map some :=
  ⟨pairwise_addresses n, fun _ => mem_addresses_iff, map_at?_addresses n⟩

end Node

/-! ### Labels -/

namespace LabelTree

mutual

/-- The labels of a tree, each before those below it. -/
def preorder : LabelTree → List Label
  | branch label branches => label :: preorderAll branches

/-- The labels of several trees. -/
def preorderAll : List LabelTree → List Label
  | [] => []
  | b :: bs => b.preorder ++ preorderAll bs

end

lemma preorderAll_eq (bs : List LabelTree) : preorderAll bs = bs.flatMap preorder := by
  induction bs with
  | nil => rfl
  | cons b bs ih => rw [preorderAll, ih, List.flatMap_cons]

end LabelTree

namespace Node

mutual

/-- The tree of labels of a command tree. -/
def labelTree : Node → LabelTree
  | node name type children => .branch (label (node name type children)) (labelTrees children)

/-- The trees of labels of several command trees. -/
def labelTrees : List Node → List LabelTree
  | [] => []
  | n :: ns => labelTree n :: labelTrees ns

end

lemma labelTrees_eq (ns : List Node) : labelTrees ns = ns.map labelTree := by
  induction ns with
  | nil => rfl
  | cons n ns ih => rw [labelTrees, ih, List.map_cons]

/-- **The labels of a tree, each before those below it, are those of the nodes in the order of the walk.** -/
theorem preorder_labelTree (n : Node) : n.labelTree.preorder = n.walk.map label := by
  induction n using Node.ind with
  | step name type children ih =>
      rw [labelTree, labelTrees_eq, LabelTree.preorder, LabelTree.preorderAll_eq, List.flatMap_map, walk_eq, List.map_cons,
        List.map_flatMap]
      exact congrArg _ (List.flatMap_congr ih)

/-! ### The call stack -/

variable {need : Label → Nat} {frames : Nat} {n : Node}

/-- Every node fits on the call stack: there is a frame for each level down to it, and there are those for its label. -/
def Fits (need : Label → Nat) (frames : Nat) (n : Node) : Prop :=
  ∀ path m, at? path n = some m → path.length + need m.label < frames

/-- The label of the root needs a frame. -/
lemma not_fits_zero (n : Node) : ¬ Fits need 0 n := fun fits => absurd (fits [] n rfl) (Nat.not_lt_zero _)

/-- With a frame more there is another level. -/
lemma fits_succ_iff : Fits need (frames + 1) n ↔ need n.label ≤ frames ∧ ∀ c ∈ n.children, Fits need frames c := by
  constructor
  · intro fits
    refine ⟨by have := fits [] n rfl; omega, fun c hc path m found => ?_⟩
    obtain ⟨i, here⟩ := List.mem_iff_getElem?.1 hc
    have := fits (i :: path) m (by rw [at?, here, Option.bind_some, found])
    rw [List.length_cons] at this
    omega
  · rintro ⟨own, below⟩ path m found
    cases path with
    | nil =>
        cases found
        exact Nat.lt_succ_of_le (by rwa [List.length_nil, Nat.zero_add])
    | cons i path =>
        obtain ⟨c, here, found⟩ := Option.bind_eq_some_iff.1 found
        have := below c (List.mem_of_getElem? here) path m found
        rw [List.length_cons]
        omega

/-- **The tree of labels is built if every node fits on the call stack**, and only then. -/
theorem buildTree_eq_some_iff {t : LabelTree} : n.buildTree need frames = some t ↔ n.Fits need frames ∧ t = n.labelTree := by
  induction n using Node.ind generalizing frames t with
  | step name type children ih =>
      cases frames with
      | zero =>
          rw [buildTree]
          exact iff_of_false nofun fun ⟨fits, _⟩ => not_fits_zero _ fits
      | succ frames =>
          -- the branches of the children are added one after the other
          have added (l : Label) (bs : List LabelTree) : addTrees need frames (.branch l bs) children = some t ↔
              (∀ c ∈ children, c.Fits need frames) ∧ t = .branch l (bs ++ children.map labelTree) := by
            clear * - ih
            induction children generalizing bs with
            | nil => simp [addTrees, eq_comm]
            | cons c children more =>
                obtain ⟨first, others⟩ := List.forall_mem_cons.1 ih
                rw [addTrees, List.forall_mem_cons, List.map_cons]
                cases built : c.buildTree need frames with
                | none =>
                    refine iff_of_false nofun fun ⟨⟨fits, _⟩, _⟩ => ?_
                    cases built.symm.trans (first.2 ⟨fits, rfl⟩)
                | some b =>
                    obtain ⟨fits, rfl⟩ := first.1 built
                    simp only [LabelTree.add, more others, fits, true_and, List.append_assoc, List.singleton_append]
          rw [buildTree, fits_succ_iff, labelTree, labelTrees_eq]
          by_cases room : need (label (node name type children)) ≤ frames
          · simp only [room, if_true, added, List.nil_append, true_and, Node.children]
          · simp only [room, if_false, false_and, reduceCtorEq]

end Node

end CommandTree
