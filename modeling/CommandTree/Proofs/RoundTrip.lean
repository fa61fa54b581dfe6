import CommandTree.Proofs.Grammar.Acceptance
import CommandTree.Proofs.Printing
/-!
Printed trees read back.

* `ArgumentType.exists_parameters`: the key and the parameters of a primitive type refer to it by the grammar;
* `Node.forestOf_tokens`: the tokens of a tree are those of the tree over the heads of its nodes, so that those of a
  primitive tree are the tree by the grammar (`Node.tree_tokens`);
* `Node.parseNode_print`: a primitive tree reads back from its printed text.
-/

namespace CommandTree

open Lexicon Grammar

/-! ### Types -/

/-- The key of a primitive type refers to it. -/
lemma Primitive.refers_keyOf (p : Primitive) : Refers (ArgumentType.keyOf ArgumentType.builtinSpace p.name) p := by
  refine ⟨ArgumentType.builtinSpace, p.name, ?_, by decide, ?_, rfl, rfl⟩
  · have own : ':' ∉ ArgumentType.builtinSpace.toList := by decide
    have name : ':' ∉ p.name.toList := by
      rcases p with _ | _ | t
      · decide
      · decide
      · cases t <;> decide
    rw [ArgumentType.keyOf, String.toList_append, String.toList_append, List.append_assoc]
    exact Text.splitAt_eq_pair_iff.2 ⟨own, name, rfl⟩
  · rcases p with _ | _ | t
    · decide
    · decide
    · cases t <;> decide

/-- The parameters of a numeric type are those that it reads, none of which may be missing in front of another. -/
lemma ArgumentType.parameters_numeric (t : NumericType) (minimum maximum : t.Bound) :
    Parameters (.numeric t) ((numeric t minimum maximum).parameters.map .string) (numeric t minimum maximum) := by
  rw [parameters]
  split
  · exact .both (t.readBound_boundText minimum) (t.readBound_boundText maximum)
  rename_i highest
  obtain rfl := not_not.1 highest
  split
  · exact .lower (t.readBound_boundText minimum)
  rename_i lowest
  obtain rfl := not_not.1 lowest
  exact .unbounded t

/-- **What is written of a primitive type means the type**: its key refers to it, and its parameters are those that it
reads. -/
theorem ArgumentType.exists_parameters {type : ArgumentType} (primitive : type.isPrimitive = true) :
    ∃ p, Refers type.key p ∧ Parameters p (type.parameters.map .string) type := by
  cases type with
  | bool => exact ⟨.bool, Primitive.refers_keyOf .bool, .bool⟩
  | string kind => exact ⟨.string, Primitive.refers_keyOf .string, .string kind⟩
  | numeric t minimum maximum => exact ⟨.numeric t, Primitive.refers_keyOf (.numeric t), parameters_numeric t minimum maximum⟩
  | custom c => cases primitive

/-! ### Trees -/

namespace Node

lemma head_headTokens (name : String) {type : Option ArgumentType} (primitive : ∀ t ∈ type, t.isPrimitive = true) :
    Head name type (headTokens name type) := by
  cases type with
  | none => exact .literal name
  | some type =>
      obtain ⟨p, refers, parameters⟩ := ArgumentType.exists_parameters (primitive type rfl)
      exact .argument refers parameters

/-- The tokens of several trees are those of a list of nodes, over whatever heads they have. -/
lemma forestOf_tokensAll {heads : String → Option ArgumentType → List Token → Prop} {ns : List Node}
    (trees : ∀ n ∈ ns, ForestOf heads n.tokens [n]) : ForestOf heads (tokensAll ns) ns := by
  induction ns with
  | nil => exact .nil
  | cons n ns ih =>
      obtain ⟨first, others⟩ := List.forall_mem_cons.1 trees
      exact first.append (ih others)

/-- **The tokens of a tree are those of the tree**, over whatever heads its nodes have. -/
theorem forestOf_tokens {heads : String → Option ArgumentType → List Token → Prop} {n : Node}
    (h : ∀ m ∈ n.walk, heads m.name m.type (headTokens m.name m.type)) : ForestOf heads n.tokens [n] := by
  induction n using Node.ind with
  | step name type children ih =>
      rw [walk_eq, List.forall_mem_cons, List.forall_mem_flatMap] at h
      obtain ⟨head, inside⟩ := h
      have within := forestOf_tokensAll fun c hc => ih c hc (inside c hc)
      rw [tokens]
      split
      · rename_i leaf
        obtain rfl : children = [] := List.isEmpty_iff.1 leaf
        exact .leaf head .nil
      · exact .block head within .nil

/-- **The tokens of a primitive tree are those of the tree**: the grammar reads nothing else from them. -/
theorem tree_tokens {n : Node} (primitive : n.IsPrimitive) : Tree n.tokens n :=
  forest_iff.2 (forestOf_tokens fun m hm => head_headTokens m.name (primitive m hm))

/-- **A printed tree reads back**, if its types are primitive. Whatever follows the text, exactly the tree is parsed,
and the parser stops in front of the last line feed without a look at what is behind it. A text that holds a literal
alone is read as a whole, and what is read has the same text. -/
theorem parseNode_print {n : Node} (primitive : n.IsPrimitive) (indent : Int) :
    (∀ rest : List Char, ∃ s,
      Parser.parseNode .standard (.ofStream (.ofChars ((n.print indent).toList ++ rest) none)) = .ok n s ∧
        s.tokens.phase = .idle ∧ s.tokens.source.scanner.stream.text = '\n' :: rest ∧
        s.tokens.source.ended = false) ∧
    (n.isLiteral = true → ∀ encoding,
      ((Reader.standard encoding).parseText (n.print indent)).result = .ok n ∧
        (((Reader.standard encoding).parseText (n.print indent)).result.map fun root => root.print indent) =
          .ok (n.print indent)) := by
  have tree := tree_tokens primitive
  constructor
  · intro rest
    obtain ⟨s, parsed, l, line, tokens, place⟩ := Parser.parseNode_of_tree tree (n.segments_print indent rest)
      (s := .ofStream (.ofChars ((n.print indent).toList ++ rest) none)) (TokenStream.before_ofChars _)
    refine ⟨s, parsed, ?_⟩
    rw [tokens]
    exact ⟨rfl, congrArg (fun m : Lexer => m.scanner.stream.pushback) place.2, congrArg Lexer.ended place.2⟩
  · intro literal encoding
    have lexes : Lexes (n.print indent).toList n.tokens := by
      have segments := n.segments_print indent []
      rw [List.append_nil] at segments
      exact ⟨['\n'], segments, .blank (by decide) .nil⟩
    obtain ⟨s, parsed⟩ := Parser.parse_of_tree lexes tree literal
      (s := .ofStream (.ofChars (n.print indent).toList none)) (TokenStream.before_ofChars _)
    have read := (Reader.result_parseText encoding (n.print indent) n).2 ⟨s, parsed⟩
    exact ⟨read, by rw [read]; rfl⟩

/-- A tree with odd names and crossed bounds reads back: its root has no name, and the name of its argument opens a
comment. -/
theorem parseNode_print_oddNames :
    let n : Node := node "" none
      [node "//x" (some (.numeric .integer (⟨5, by decide, by decide⟩ : Numeric.Signed 32)
        (⟨3, by decide, by decide⟩ : Numeric.Signed 32))) [node "a\"\\\n" none []], node "/" none []]
    n.IsPrimitive ∧ n.isLiteral = true ∧
      (∃ s, Parser.parseNode .standard (.ofStream (.ofChars ((n.print (-1)).toList ++ ['"']) none)) = .ok n s ∧
        s.tokens.source.scanner.stream.text = ['\n', '"']) ∧
      ((Reader.standard "utf-8").parseText (n.print 2)).result = .ok n := by
  intro n
  have primitive : n.IsPrimitive := by
    simp [n, isPrimitive_iff, ArgumentType.isPrimitive]
  obtain ⟨s, parsed, -, left, -⟩ := (parseNode_print primitive (-1)).1 ['"']
  exact ⟨primitive, rfl, ⟨s, parsed, left⟩, ((parseNode_print primitive 2).2 rfl "utf-8").1⟩

end Node

end CommandTree
