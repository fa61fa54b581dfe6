import CommandTree.Proofs.Issues.Reported

/-!
The order of what a validator reports.

The most severe mistakes come first. Those of one severity are in the order of their nodes in the walk, and at one node those
that the node has by itself come before the repeated names, which are in the order in which they are repeated first.

* `Node.secondNames` are the names of a list where they occur for the second time;
* `Node.repeatedNames_eq`: these are the names that are found to be repeated;
* `Validator.validate_order`: **the order of the mistakes is that of their severities, nodes and positions.**
-/

namespace CommandTree

namespace Node

/-! ### Second occurrences -/

/-- The names of a list at the positions where they occur for the second time. -/
def secondNames (names : List String) : List String :=
  (names.zipIdx.filter fun p => (names.take p.2).count p.1 == 1).map Prod.fst

/-- The names behind others that are repeated are those at the positions, counted from the first of all, where they occur
for the second time. -/
lemma repeatedNames_reverse {before reported names : List String} (tracks : Tracks before.reverse reported) :
    repeatedNames before.reverse reported names =
      ((names.zipIdx before.length).filter fun p => ((before ++ names).take p.2).count p.1 == 1).map Prod.fst := by
  induction names generalizing before reported with
  | nil => rfl
  | cons name names ih =>
      obtain ⟨reported', tracks', step⟩ := repeatedNames_cons names tracks
      rw [← List.reverse_concat] at tracks' step
      have rest := ih tracks'
      rw [List.length_append, List.length_singleton, List.append_assoc, List.singleton_append] at rest
      have first : (before ++ name :: names).take before.length = before := List.take_left
      rw [step, rest, List.zipIdx_cons, List.filter_cons, first, List.count_reverse]
      by_cases once : before.count name = 1
      · simp [once]
      · simp [once]

/-- **Repeated names are found where they occur for the second time.** -/
theorem repeatedNames_eq (names : List String) : repeatedNames [] [] names = secondNames names := by
  have start : Tracks ([] : List String).reverse [] := tracks_nil
  exact repeatedNames_reverse start

/-- What is repeated first comes first, not what occurs first. -/
example : repeatedNames [] [] ["a", "b", "b", "a", "a"] = ["b", "a"] := by decide

/-! ### The mistakes of one node in order -/

/-- The mistakes of a node in order, with their severities: those that it has by itself, and then the names of its children
where they occur for the second time. -/
def mistakesInOrder (n : Node) : List (Severity × IssueKind) :=
  n.ownMistakes ++ (secondNames (n.children.map name)).map fun s => (.warning, .repeatedName s)

lemma map_nodeIssues_eq (n : Node) : n.nodeIssues.map (fun kind => (kind.severity, kind)) = n.mistakesInOrder := by
  rw [map_nodeIssues, repeatedNames_eq, mistakesInOrder]

/-- The mistakes of a tree before they are sorted, with their severities, at the paths to their nodes: the nodes are in the
order of the walk, and the mistakes of each are in order. -/
def mistakesBelow (path : List String) (n : Node) : List (Severity × Issue) :=
  (placed path n).flatMap fun p => p.1.mistakesInOrder.map fun m => (m.1, ⟨m.2, p.2⟩)

lemma map_issuesOf_eq (path : List String) (n : Node) :
    (issuesOf [(n, path)]).map (fun i => (i.severity, i)) = n.mistakesBelow path := by
  rw [issuesOf_eq, List.flatMap_singleton, List.map_flatMap, mistakesBelow]
  refine List.flatMap_congr fun p _ => ?_
  rw [← map_nodeIssues_eq, List.map_map, List.map_map]
  rfl

end Node

/-! ### The order of a run -/

namespace Validator

/-- **The order of the mistakes is that of their severities, nodes and positions.** What a run hands out are first the
mistakes that are errors, then those that are warnings, then those that are suggestions. Each of the three lists is in the
order of the nodes in the walk, and at one node its own mistakes come before the names of its children that are repeated,
which are in the order of the second children that have them. -/
theorem validate_order (v : Validator) :
    let below := v.root.mistakesBelow [v.root.name]
    (validate.run v).1.map (fun i => (i.severity, i)) =
      below.filter (·.1 = .error) ++ below.filter (·.1 = .warning) ++ below.filter (·.1 = .info) ∧
    (Node.placed [v.root.name] v.root).map Prod.fst = v.root.walk := by
  have sorted (s : Severity) : ((Node.issuesOf [(v.root, [v.root.name])]).filter (·.severity == s)).map
      (fun i => (i.severity, i)) = (v.root.mistakesBelow [v.root.name]).filter (·.1 = s) := by
    rw [← Node.map_issuesOf_eq, List.filter_map]
    rfl
  refine ⟨?_, v.root.map_fst_placed _⟩
  rw [validate_run, Node.issues, Issue.bySeverity_eq, List.map_append, List.map_append, sorted, sorted, sorted,
    List.append_assoc]

end Validator

end CommandTree
