import CommandTree.Node.Validator
import CommandTree.Proofs.Issues
import Mathlib.Data.Finset.Dedup
import Mathlib.Data.Finset.Filter
import Mathlib.Data.Multiset.Bind

/-!
What a validator reports.

A validator reports for each node of its tree, at the path to it, the mistakes that the node has by itself, and each name
that two or more of its children have. This is said without its stack, its sort and the names that it keeps in mind.

* `Node.placed` are the nodes of a tree with the paths to them;
* `Node.ownMistakes` and `Node.mistakes` are the mistakes of a node, by itself and all together;
* `Validator.validate_run`: a run hands out the issues of the tree and keeps them;
* `Node.count_repeatedNames`: a name is repeated once if two or more children have it;
* `Validator.validate_reports`: **a validator reports exactly the mistakes**, also when it is run again.
-/

namespace CommandTree

open Numeric

namespace Node

/-! ### The nodes of a tree with their paths -/

mutual

/-- The nodes of a tree, each before its descendants, with the names from the root to them; those to the tree are given. -/
def placed (path : List String) : Node → List (Node × List String)
  | node name type children => (node name type children, path) :: placedAll path children

/-- The nodes of the trees below a node, given the path to the node. -/
def placedAll (path : List String) : List Node → List (Node × List String)
  | [] => []
  | n :: ns => placed (path ++ [n.name]) n ++ placedAll path ns

end

lemma placedAll_eq (path : List String) (ns : List Node) :
    placedAll path ns = ns.flatMap fun n => placed (path ++ [n.name]) n := by
  induction ns with
  | nil => rfl
  | cons n ns ih => rw [placedAll, ih, List.flatMap_cons]

/-- A tree has its root at the path to it, and then the trees of the children. -/
lemma placed_eq (path : List String) (n : Node) :
    placed path n = (n, path) :: n.children.flatMap fun c => placed (path ++ [c.name]) c := by
  cases n
  rw [placed, placedAll_eq]
  rfl

/-- **The nodes with their paths are the nodes of the walk**, in its order. -/
theorem map_fst_placed (n : Node) (path : List String) : (placed path n).map Prod.fst = n.walk := by
  induction n using Node.ind generalizing path with
  | step name type children ih =>
      rw [placed_eq, walk_eq, List.map_cons, List.map_flatMap]
      exact congrArg _ (List.flatMap_congr fun c hc => ih c hc _)

/-- The mistakes of some trees are those of their nodes at their paths, one node after the other. -/
theorem issuesOf_eq (pending : List (Node × List String)) :
    issuesOf pending = (pending.flatMap fun p => placed p.2 p.1).flatMap fun p => p.1.nodeIssues.map (⟨·, p.2⟩) := by
  induction pending using issuesOf.induct with
  | case1 => rw [issuesOf, List.flatMap_nil, List.flatMap_nil]
  | case2 n path rest ih =>
      rw [issuesOf, ih, List.flatMap_append, List.flatMap_map, List.flatMap_cons, placed_eq, List.cons_append,
        List.flatMap_cons]

/-! ### The mistakes of one node -/

/-- The mistakes that a type is the reason for at a node, with their severities: the children of the node may come behind a
string that takes all the input, and the bounds may admit no value or only one. The bounds of a primitive type are compared
by their units; those of a caller's type are any numbers. -/
def typeMistakes (children : List Node) : ArgumentType → List (Severity × IssueKind)
  | .string .greedyPhrase | .custom ⟨.string .greedyPhrase, _, _, _, _⟩ =>
      if children = [] then [] else [(.warning, .unreachableChildren)]
  | .numeric t a b =>
      let key := ArgumentType.builtinSpace ++ ":" ++ t.name
      if t.units b < t.units a then [(.error, .emptyRange key (t.number a).text (t.number b).text)]
      else if t.units a = t.units b then [(.info, .singleValue key (t.number a).text)]
      else []
  | .custom ⟨.bounded a b, space, name, _, _⟩ =>
      let key := space ++ ":" ++ name
      if b.lt a then [(.error, .emptyRange key a.text b.text)]
      else if a.same b then [(.info, .singleValue key a.text)]
      else []
  | _ => []

/-- The mistakes that a node has by itself, with their severities: its name may be empty, and its type may be at fault. -/
def ownMistakes (n : Node) : List (Severity × IssueKind) :=
  (if n.name = "" then [(.error, .emptyName)] else []) ++ match n.type with
    | none => []
    | some type => typeMistakes n.children type

/-- All mistakes of a node, with their severities: those that it has by itself, and the names of its children that two or
more of them have, each once. -/
def mistakes (n : Node) : Multiset (Severity × IssueKind) :=
  let names := n.children.map name
  (n.ownMistakes : Multiset (Severity × IssueKind)) +
    (names.toFinset.filter fun s => 2 ≤ names.count s).val.map fun s => (.warning, .repeatedName s)

/-- What is wrong with a type is found as it is. -/
lemma map_typeIssues (children : List Node) (type : ArgumentType) :
    (typeIssues (!children.isEmpty) type).map (fun kind => (kind.severity, kind)) = typeMistakes children type := by
  have bounds (key : String) (a b : Number) : (boundIssues key a b).map (fun kind => (kind.severity, kind)) =
      if b.lt a then [(.error, .emptyRange key a.text b.text)]
      else if a.same b then [(.info, .singleValue key a.text)] else [] := by
    rw [boundIssues]
    split
    · rfl
    · split <;> rfl
  rw [typeIssues, List.map_append]
  cases type with
  | bool => rfl
  | string kind => cases kind <;> cases children <;> rfl
  | numeric t a b =>
      have same : (t.number a).same (t.number b) = true ↔ t.units a = t.units b := by
        rw [Number.same, Bool.and_eq_true, t.number_le_iff, t.number_le_iff]
        omega
      have less : (t.number b).lt (t.number a) = true ↔ t.units b < t.units a := by
        rw [t.number_lt_iff, t.number_le_iff, Int.not_le]
      have whole := bounds (ArgumentType.numeric t a b).key (t.number a) (t.number b)
      simp only [less, same] at whole
      exact whole
  | custom c =>
      obtain ⟨family, space, name, parameters, fields⟩ := c
      cases family with
      | plain => rfl
      | string kind => cases kind <;> cases children <;> rfl
      | bounded a b => exact bounds _ a b

/-- The mistakes of a node are found in this order: its own, and then the repeated names. -/
lemma map_nodeIssues (n : Node) : n.nodeIssues.map (fun kind => (kind.severity, kind)) =
    n.ownMistakes ++ (repeatedNames [] [] (n.children.map name)).map fun s => (.warning, .repeatedName s) := by
  rw [nodeIssues, ownMistakes, List.map_append, List.map_append, List.map_map]
  congr 2
  · by_cases empty : n.name = ""
    · simp [empty, IssueKind.severity]
    · simp [empty]
  · cases n.type with
    | none => rfl
    | some type => exact map_typeIssues n.children type

/-- What is remembered of the names before: those that occurred twice or more often were reported. -/
def Tracks (seen reported : List String) : Prop := ∀ s, s ∈ reported ↔ 2 ≤ seen.count s

lemma tracks_nil : Tracks [] [] := by simp [Tracks]

variable {seen reported : List String} {name s : String} {names : List String}

/-- A name is reported exactly if it occurred once before, and then that is remembered. -/
lemma repeatedNames_cons (names : List String) (tracks : Tracks seen reported) :
    ∃ reported', Tracks (name :: seen) reported' ∧ repeatedNames seen reported (name :: names) =
      (if seen.count name = 1 then [name] else []) ++ repeatedNames (name :: seen) reported' names := by
  have known := tracks name
  by_cases once : seen.count name = 1
  · have before : name ∈ seen := List.count_pos_iff.1 (by omega)
    have unreported : name ∉ reported := fun mem => absurd (known.1 mem) (by omega)
    refine ⟨name :: reported, fun s => ?_, by simp [repeatedNames, before, unreported, once]⟩
    rcases eq_or_ne s name with rfl | other
    · simp [once]
    · rw [List.mem_cons, or_iff_right other, List.count_cons_of_ne other.symm]
      exact tracks s
  · have reportedIfSeen (before : name ∈ seen) : name ∈ reported := by
      have := List.count_pos_iff.2 before
      exact known.2 (by omega)
    refine ⟨reported, fun s => ?_, ?_⟩
    · rcases eq_or_ne s name with rfl | other
      · rw [List.count_cons_self, known]
        omega
      · rw [List.count_cons_of_ne other.symm]
        exact tracks s
    · rw [repeatedNames, if_neg (by simpa using reportedIfSeen), if_neg once, List.nil_append]

/-- **A name is repeated once if it occurs twice or more often**, counting the names before. -/
theorem count_repeatedNames (tracks : Tracks seen reported) : (repeatedNames seen reported names).count s =
    if seen.count s < 2 ∧ 2 ≤ seen.count s + names.count s then 1 else 0 := by
  induction names generalizing seen reported with
  | nil => rw [repeatedNames, List.count_nil, if_neg (by omega)]
  | cons name names ih =>
      obtain ⟨reported', tracks', step⟩ := repeatedNames_cons names tracks
      rw [step, List.count_append, ih tracks']
      rcases eq_or_ne s name with rfl | other
      · rw [List.count_cons_self, List.count_cons_self]
        by_cases once : seen.count s = 1
        · rw [if_pos once, List.count_singleton_self, if_neg (by omega), if_pos (by omega)]
        · rw [if_neg once, List.count_nil]
          split <;> split <;> omega
      · have none : (if seen.count name = 1 then [name] else []).count s = 0 := by
          split <;> simp [other.symm]
        rw [none, List.count_cons_of_ne other.symm, List.count_cons_of_ne other.symm, Nat.zero_add]

/-- The mistakes of a node are found as they are, in some order. -/
lemma coe_map_nodeIssues (n : Node) :
    (n.nodeIssues.map (fun kind => (kind.severity, kind)) : Multiset (Severity × IssueKind)) = n.mistakes := by
  have repeated : (repeatedNames [] [] (n.children.map Node.name) : Multiset String) =
      ((n.children.map Node.name).toFinset.filter fun s => 2 ≤ (n.children.map Node.name).count s).val := by
    refine Multiset.ext.2 fun s => ?_
    rw [Multiset.coe_count, count_repeatedNames tracks_nil, Multiset.count_eq_of_nodup (Finset.nodup _)]
    refine if_congr ?_ rfl rfl
    rw [Finset.mem_val, Finset.mem_filter, List.mem_toFinset, ← List.count_pos_iff, List.count_nil]
    omega
  rw [map_nodeIssues, mistakes, ← repeated, Multiset.map_coe, Multiset.coe_add]

end Node

/-! ### Sorting -/

namespace Issue

variable {i j : Issue} {s : Severity} (issues : List Issue)

lemma isAsSevereAs_iff : i.isAsSevereAs j = true ↔ i.severity.rank ≤ j.severity.rank := decide_eq_true_iff

lemma isAsSevereAs_trans (i j k : Issue) (first : i.isAsSevereAs j = true) (second : j.isAsSevereAs k = true) :
    i.isAsSevereAs k = true := by
  rw [isAsSevereAs_iff] at first second ⊢
  exact first.trans second

lemma isAsSevereAs_total (i j : Issue) : (i.isAsSevereAs j || j.isAsSevereAs i) = true := by
  rw [Bool.or_eq_true, isAsSevereAs_iff, isAsSevereAs_iff]
  exact Nat.le_total _ _

/-- **Sorting is stable**: the mistakes of one severity stay in their order. -/
theorem filter_mergeSort :
    (issues.mergeSort isAsSevereAs).filter (·.severity == s) = issues.filter (·.severity == s) := by
  have alike : (issues.filter (·.severity == s)).Pairwise fun i j => i.isAsSevereAs j = true := by
    refine List.pairwise_of_forall_mem_list fun i hi j hj => isAsSevereAs_iff.2 ?_
    rw [beq_iff_eq.1 (List.mem_filter.1 hi).2, beq_iff_eq.1 (List.mem_filter.1 hj).2]
  have kept : (issues.filter (·.severity == s)).Sublist (issues.mergeSort isAsSevereAs) :=
    List.sublist_mergeSort isAsSevereAs_trans isAsSevereAs_total alike List.filter_sublist
  have less := kept.filter (·.severity == s)
  simp only [List.filter_filter, Bool.and_self] at less
  exact (less.eq_of_length ((List.mergeSort_perm issues isAsSevereAs).filter _).length_eq.symm).symm

lemma bySeverity_eq : Node.bySeverity issues = issues.filter (·.severity == .error) ++
    (issues.filter (·.severity == .warning) ++ issues.filter (·.severity == .info)) := by
  rw [Node.bySeverity, List.flatMap_cons, List.flatMap_cons, List.flatMap_cons, List.flatMap_nil, List.append_nil]

/-- Mistakes that are sorted by severity are left as they are by taking the severities one after the other. -/
lemma bySeverity_of_pairwise {issues : List Issue}
    (sorted : issues.Pairwise fun i j => i.severity.rank ≤ j.severity.rank) : Node.bySeverity issues = issues := by
  induction sorted with
  | nil => rfl
  | @cons i issues first _ ih =>
      rw [bySeverity_eq] at ih ⊢
      -- What is more severe than the first one is not there.
      have none (s : Severity) (less : s.rank < i.severity.rank) : issues.filter (·.severity == s) = [] := by
        refine List.filter_eq_nil_iff.2 fun j hj same => ?_
        have := first j hj
        rw [beq_iff_eq.1 same] at this
        omega
      cases worst : i.severity with
      | error => simpa [worst] using ih
      | warning =>
          have noError := none .error (by rw [worst]; decide)
          rw [noError] at ih
          simpa [worst, noError] using ih
      | info =>
          have noError := none .error (by rw [worst]; decide)
          have noWarning := none .warning (by rw [worst]; decide)
          rw [noError, noWarning] at ih
          simpa [worst, noError, noWarning] using ih

/-- Sorting takes the severities one after the other. -/
lemma mergeSort_eq_bySeverity : issues.mergeSort isAsSevereAs = Node.bySeverity issues := by
  have sorted := List.pairwise_mergeSort isAsSevereAs_trans isAsSevereAs_total issues
  rw [← bySeverity_of_pairwise (sorted.imp isAsSevereAs_iff.1), bySeverity_eq, filter_mergeSort, filter_mergeSort,
    filter_mergeSort, bySeverity_eq]

end Issue

/-! ### Runs -/

namespace Validator

variable (v : Validator)

/-- Checking a node adds its mistakes. -/
lemma checkNode_run (n : Node) (path : List String) :
    (checkNode n path).run v = ((), { v with found := v.found ++ n.nodeIssues.map (⟨·, path⟩) }) := by
  rw [checkNode]
  generalize n.nodeIssues = kinds
  induction kinds generalizing v with
  | nil =>
      rw [List.map_nil, List.append_nil]
      rfl
  | cons kind kinds ih =>
      have rest := ih { v with found := v.found ++ [⟨kind, path⟩] }
      rw [List.append_assoc, List.singleton_append] at rest
      exact rest

/-- Checking all nodes on a stack adds the mistakes of their trees. -/
lemma checkAll_run (stack : List (Node × List String)) :
    (checkAll stack).run v = ((), { v with found := v.found ++ Node.issuesOf stack }) := by
  induction stack using checkAll.induct generalizing v with
  | case1 =>
      rw [checkAll, Node.issuesOf, List.append_nil]
      rfl
  | case2 n path rest ih =>
      have others := ih { v with found := v.found ++ n.nodeIssues.map (⟨·, path⟩) }
      rw [pushChildren_eq, List.append_assoc, ← Node.issuesOf, ← pushChildren_eq] at others
      rw [checkAll, StateT.run_bind, checkNode_run]
      exact others

/-- **A run hands out the issues of the tree and keeps them**, whatever was found before. -/
theorem validate_run : validate.run v = (v.root.issues, { v with found := v.root.issues }) := by
  have checked := checkAll_run { v with found := [] } [(v.root, [v.root.name])]
  rw [List.nil_append] at checked
  have run : validate.run v = (fun w : Validator =>
      (w.found.mergeSort Issue.isAsSevereAs, { w with found := w.found.mergeSort Issue.isAsSevereAs }))
        ((checkAll [(v.root, [v.root.name])]).run { v with found := [] }).2 := rfl
  rw [run, checked, Node.issues, ← Issue.mergeSort_eq_bySeverity]

/-- **A validator reports exactly the mistakes.** With their severities and their places, which are the names from the root
joined by slashes, the mistakes that a run hands out are those of all nodes together, each as often as it is there, and
nothing else. Another run hands out the same list. -/
theorem validate_reports :
    ((validate.run v).1.map (fun i => (i.severity, i.kind, i.location)) : Multiset (Severity × IssueKind × String)) =
      ((Node.placed [v.root.name] v.root).map fun p => p.1.mistakes.map fun m => (m.1, m.2, "/".intercalate p.2)).sum ∧
    (validate.run (validate.run v).2).1 = (validate.run v).1 := by
  refine ⟨?_, by rw [validate_run, validate_run]⟩
  have reported (n : Node) (path : List String) :
      ((n.nodeIssues.map (⟨·, path⟩)).map fun i : Issue => (i.severity, i.kind, i.location) : Multiset _) =
        n.mistakes.map fun m => (m.1, m.2, "/".intercalate path) := by
    rw [← Node.coe_map_nodeIssues, Multiset.map_coe, List.map_map, List.map_map]
    rfl
  have sorted : v.root.issues.Perm (Node.issuesOf [(v.root, [v.root.name])]) := by
    rw [Node.issues, ← Issue.mergeSort_eq_bySeverity]
    exact List.mergeSort_perm _ _
  rw [validate_run, Multiset.coe_eq_coe.2 (sorted.map _), Node.issuesOf_eq, List.flatMap_singleton, List.map_flatMap,
    ← Multiset.coe_bind, Multiset.bind, Multiset.join, Multiset.map_coe, Multiset.sum_coe]
  simp only [reported]

end Validator

end CommandTree
