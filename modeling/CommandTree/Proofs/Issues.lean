import CommandTree.Node.Issue
import CommandTree.Proofs.Types
/-!
The mistakes of a tree, and those that keep it from working.

The mistakes are collected by a walk of its own, which carries paths. It meets the nodes that the walk of the tree meets,
in the same order. A tree is sound if no name is empty and no bounds are inverted, and all else is no severe mistake.

* `ArgumentType.IsOrdered`: the bounds of a type are in order; `ArgumentType.isOrdered_iff_contains`: so are those of a
  primitive type exactly if it has a value;
* `Node.map_kind_issuesOf`: the mistakes of some trees are those of their nodes, one node after the other;
* `Node.errors_eq_nil_iff`: **a tree has no severe mistake exactly if it is sound**.
-/

namespace CommandTree

open Numeric

/-! ### Bounds in order -/

namespace NumericType

/-- A bound in units that all bounds of its type are multiples of. -/
def units : (t : NumericType) → t.Bound → Int
  | integer, (b : Signed 32) => b.val
  | long, (b : Signed 64) => b.val
  | float, (b : Floating binary32) => b.widen.signedUnits
  | double, (b : Floating binary64) => b.signedUnits

/-- Bounds of one type are compared by their units. -/
lemma number_le_iff (t : NumericType) (a b : t.Bound) :
    (t.number a).le (t.number b) = true ↔ t.units a ≤ t.units b := by
  cases t with
  | integer => exact Number.whole_le
  | long => exact Number.whole_le
  | float => exact Number.finite_le
  | double => exact Number.finite_le

/-- A bound is less than another if it is not the other way round: no bound is undefined. -/
lemma number_lt_iff (t : NumericType) (a b : t.Bound) :
    (t.number a).lt (t.number b) = true ↔ ¬ (t.number b).le (t.number a) = true := by
  rw [Number.lt, Bool.and_eq_true, Bool.not_eq_true', ← Bool.not_eq_true, number_le_iff, number_le_iff]
  omega

end NumericType

namespace ArgumentType

/-- The bounds of a type are in order, if it has any: the lower one does not exceed the upper one. -/
def IsOrdered (type : ArgumentType) : Prop := ∀ bounds ∈ type.bounds?, ¬ bounds.2.lt bounds.1 = true

lemma isOrdered_numeric {t : NumericType} {minimum maximum : t.Bound} :
    (numeric t minimum maximum).IsOrdered ↔ (t.number minimum).le (t.number maximum) = true := by
  have bounds : (numeric t minimum maximum).bounds? = some (t.number minimum, t.number maximum) := rfl
  simp only [IsOrdered, bounds, Option.mem_some_iff, forall_eq', NumericType.number_lt_iff, not_not]

/-- **The bounds of a numeric type are in order exactly if it contains a value** of its bounds' sort. -/
theorem isOrdered_iff_contains {t : NumericType} {minimum maximum : t.Bound} :
    (numeric t minimum maximum).IsOrdered ↔
      ∃ v : t.Bound, (numeric t minimum maximum).contains (t.number v) = true := by
  have bounds : (numeric t minimum maximum).bounds? = some (t.number minimum, t.number maximum) := rfl
  simp only [isOrdered_numeric, contains, bounds, Bool.and_eq_true, NumericType.number_le_iff]
  constructor
  · intro ordered
    exact ⟨minimum, Int.le_refl _, ordered⟩
  · rintro ⟨v, above, below⟩
    exact Int.le_trans above below

end ArgumentType

namespace Node

/-! ### The mistakes of one node -/

/-- A node can work: it has a name, and the bounds of its type, if it has any, are in order. -/
def IsWorkable (n : Node) : Prop := n.name ≠ "" ∧ ∀ type ∈ n.type, type.IsOrdered

/-- Bounds are at fault with severity exactly if the lower one exceeds the upper one. -/
lemma exists_error_mem_boundIssues_iff {key : String} {minimum maximum : Number} :
    (∃ kind ∈ boundIssues key minimum maximum, kind.severity = .error) ↔ maximum.lt minimum = true := by
  rw [boundIssues]
  split
  · rename_i empty
    exact iff_of_true ⟨_, List.mem_singleton_self _, rfl⟩ empty
  · rename_i full
    refine iff_of_false ?_ full
    split <;> simp [IssueKind.severity]

/-- A type is at fault with severity exactly if its bounds are not in order. -/
lemma exists_error_mem_typeIssues_iff {hasChildren : Bool} {type : ArgumentType} :
    (∃ kind ∈ typeIssues hasChildren type, kind.severity = .error) ↔ ¬ type.IsOrdered := by
  have greedy : ¬ ∃ kind ∈ (if type.stringKind? = some .greedyPhrase ∧ hasChildren then
      [IssueKind.unreachableChildren] else []), kind.severity = .error := by
    split <;> simp [IssueKind.severity]
  simp only [typeIssues, List.mem_append, or_and_right, exists_or, greedy, false_or]
  rw [ArgumentType.IsOrdered]
  cases type.bounds? with
  | none => simp
  | some bounds => simpa using exists_error_mem_boundIssues_iff

/-- A node has a severe mistake exactly if it cannot work. -/
lemma exists_error_mem_nodeIssues_iff {n : Node} :
    (∃ kind ∈ n.nodeIssues, kind.severity = .error) ↔ ¬ n.IsWorkable := by
  have names : ¬ ∃ kind ∈ (repeatedNames [] [] (n.children.map name)).map IssueKind.repeatedName,
      kind.severity = .error := by
    simp [IssueKind.severity]
  simp only [nodeIssues, List.mem_append, or_and_right, exists_or, names, or_false]
  rw [IsWorkable, not_and_or]
  refine or_congr ?_ ?_
  · by_cases empty : n.name = ""
    · simp [empty, IssueKind.severity]
    · simp [empty]
  · cases n.type with
    | none => simp
    | some type => simpa using exists_error_mem_typeIssues_iff

/-! ### The mistakes of a tree -/

/-- **The mistakes of some trees are those of their nodes**, one node after the other. -/
theorem map_kind_issuesOf (pending : List (Node × List String)) :
    (issuesOf pending).map Issue.kind = (walkAll (pending.map Prod.fst)).flatMap nodeIssues := by
  induction pending using issuesOf.induct with
  | case1 => rw [issuesOf, List.map_nil, List.map_nil, walkAll, List.flatMap_nil]
  | case2 n path rest ih =>
      have same : (n.children.map fun c => (c, path ++ [c.name])).map Prod.fst = n.children := by
        rw [List.map_map]
        exact List.map_id _
      rw [List.map_append, same] at ih
      rw [issuesOf, List.map_append, ih, List.map_map, List.map_cons, walkAll, List.flatMap_cons]
      exact congrArg (· ++ _) (List.map_id _)

/-- Sorting neither adds mistakes nor drops any. -/
lemma mem_bySeverity_iff {issue : Issue} {issues : List Issue} : issue ∈ bySeverity issues ↔ issue ∈ issues := by
  simp only [bySeverity, List.mem_flatMap, List.mem_filter, beq_iff_eq]
  constructor
  · rintro ⟨_, -, mem, -⟩
    exact mem
  · intro mem
    exact ⟨issue.severity, by cases issue.severity <;> decide, mem, rfl⟩

/-- All nodes of a tree can work. -/
def IsSound (n : Node) : Prop := ∀ m ∈ n.walk, m.IsWorkable

/-- A tree of primitive types is sound if the name of no node is empty and the bounds of each numeric type are in order. -/
lemma isSound_iff_le {n : Node} (primitive : n.IsPrimitive) : n.IsSound ↔ ∀ m ∈ n.walk, m.name ≠ "" ∧
    ∀ t minimum maximum, m.type = some (.numeric t minimum maximum) →
      (t.number minimum).le (t.number maximum) = true := by
  refine forall₂_congr fun m hm => and_congr_right fun _ => ?_
  simp only [← ArgumentType.isOrdered_numeric]
  constructor
  · rintro ordered t minimum maximum same
    exact ordered _ same
  · rintro ordered type same
    cases type with
    | numeric t minimum maximum => exact ordered t minimum maximum same
    | bool => exact nofun
    | string kind => exact nofun
    | custom c => cases primitive m hm _ same

/-- A tree of primitive types is sound if the name of no node is empty and each numeric type contains a value. -/
lemma isSound_iff_contains {n : Node} (primitive : n.IsPrimitive) : n.IsSound ↔ ∀ m ∈ n.walk, m.name ≠ "" ∧
    ∀ t minimum maximum, m.type = some (.numeric t minimum maximum) →
      ∃ v : t.Bound, (ArgumentType.numeric t minimum maximum).contains (t.number v) = true := by
  simp only [isSound_iff_le primitive, ← ArgumentType.isOrdered_iff_contains, ArgumentType.isOrdered_numeric]

/-- The kinds of the mistakes of a tree are those of its nodes. -/
lemma forall_kind_iff {n : Node} (good : IssueKind → Prop) :
    (∀ issue ∈ n.issues, good issue.kind) ↔ ∀ m ∈ n.walk, ∀ kind ∈ m.nodeIssues, good kind := by
  have kinds : (issuesOf [(n, [n.name])]).map Issue.kind = n.walk.flatMap nodeIssues := map_kind_issuesOf _
  rw [← List.forall_mem_flatMap, ← kinds, List.forall_mem_map]
  exact forall_congr' fun issue => imp_congr_left mem_bySeverity_iff

/-- **A tree has no severe mistake exactly if it is sound.** -/
theorem errors_eq_nil_iff {n : Node} : n.errors = [] ↔ n.IsSound := by
  calc n.errors = []
      ↔ ∀ issue ∈ n.issues, issue.kind.severity ≠ .error := by
        simp only [errors, List.filter_eq_nil_iff, beq_iff_eq, Issue.severity, ne_eq]
    _ ↔ ∀ m ∈ n.walk, ∀ kind ∈ m.nodeIssues, kind.severity ≠ .error :=
        forall_kind_iff fun kind => kind.severity ≠ .error
    _ ↔ n.IsSound := forall₂_congr fun m _ => by
        rw [← not_iff_not, ← exists_error_mem_nodeIssues_iff]
        simp only [ne_eq, not_forall, not_not, exists_prop]

end Node

end CommandTree
