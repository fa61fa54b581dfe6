import CommandTree.Proofs.Ensures
import CommandTree.Proofs.Faithful
/-!
Readers that know the primitive types by keys in a name space of their own.

The resolver of the primitive types has a name space that its owner chooses, but the types themselves do not know of it:
their keys begin with `builtin`, and so they are printed. A reader with another name space therefore does not read back
what is printed of its own trees, unless they hold no argument.

* `Registry.ofSpace` and `Reader.ofSpace` have the name space that they are given;
* `Registry.resolve_ofSpace_other`: under another name space no key of a primitive type is known;
* `Reader.parseText_print_ofSpace`: a tree reads back exactly if the name space is `builtin` or all its nodes are
  literals, and else its first argument is refused.
-/

namespace CommandTree

open Lexicon Grammar

/-! ### Keys of another name space -/

namespace Registry

variable {own : String}

/-- In the name space of the printed keys the registry leaves them to the resolver of the primitive types. -/
lemma claimant?_ofSpace_builtin (p : Primitive) :
    (ofSpace ArgumentType.builtinSpace).claimant? ArgumentType.builtinSpace p.name = some Primitive.resolver := by
  have claims : Primitive.resolver.claims ArgumentType.builtinSpace p.name = true := by
    simp [Primitive.claims_primitive, Primitive.ofName?_name]
  rw [claimant?, ofSpace]
  simp only [List.find?_cons, claims]

/-- In another one no printed key is known. -/
lemma resolve_ofSpace_other (other : own ≠ ArgumentType.builtinSpace) (name : String) :
    (ofSpace own).resolve ArgumentType.builtinSpace name =
      TokenStream.refuse (.unknownType ArgumentType.builtinSpace name) none := by
  have unclaimed : (ofSpace own).claimant? ArgumentType.builtinSpace name = none := by
    simp [claimant?, ofSpace, Primitive.claims_primitive, other.symm]
  rw [resolve]
  rw [unclaimed]

end Registry

/-- The complaint that the key of a primitive type is not known. -/
def IsUnknownType (e : TokenError) : Prop :=
  ∃ name line, e = .failed (.parse ⟨.unknownType ArgumentType.builtinSpace name, line, none⟩)

namespace Parser

variable {own : String}

/-- The printed key of a primitive type is refused in another name space. -/
lemma refuses_headTokens (other : own ≠ ArgumentType.builtinSpace) (name : String) {type : ArgumentType}
    (primitive : type.isPrimitive = true) : Refuses (.ofSpace own) IsUnknownType (Node.headTokens name (some type)) := by
  obtain ⟨p, refers, -⟩ := ArgumentType.exists_parameters primitive
  obtain ⟨space, word, split, spaceNe, wordNe, rfl, rfl⟩ := refers
  have parts := splitKey?_eq_some_iff.2 ⟨split, spaceNe, wordNe⟩
  intro s cs rest h segments
  obtain ⟨s1, cs1, begun, -, -⟩ := head_of_reference segments h
  obtain ⟨s2, recorded, -⟩ := recordClaimant_eq_ok (.ofSpace own) ArgumentType.builtinSpace p.name s1
  have failed : argumentType (.ofSpace own) type.key s1 =
      .error (.failed (.parse ⟨.unknownType ArgumentType.builtinSpace p.name, s2.line, none⟩)) s2 := by
    simp only [argumentType, parts]
    rw [bind_of_ok recorded, Registry.resolve_ofSpace_other other]
    rfl
  exact ⟨_, s2, begun.trans (bind_of_error failed), _, _, rfl⟩

/-- In another name space a head is read if it is that of a literal, and else refused. -/
lemma tries_headTokens (other : own ≠ ArgumentType.builtinSpace) (name : String) {type : Option ArgumentType}
    (primitive : ∀ t ∈ type, t.isPrimitive = true) :
    Tries (.ofSpace own) (fun type => type = none) IsUnknownType name type (Node.headTokens name type) where
  begins := ⟨_, rfl⟩
  becomes := by
    cases type with
    | none => exact .inl ⟨rfl, reads_literal _ name⟩
    | some type => exact .inr (refuses_headTokens other name (primitive type rfl))

end Parser

/-! ### Printing and reading back -/

namespace Reader

/-- The reader that knows the primitive types alone, by keys in a given name space. -/
def ofSpace (own encoding : String) : Reader := ⟨.ofSpace own, encoding⟩

variable {own encoding text : String} {root : Node}

/-- The tree of a text is a literal, and its types are primitive. -/
lemma isPrimitive_of_parseText_ofSpace (read : ((ofSpace own encoding).parseText text).result = .ok root) :
    root.isLiteral = true ∧ root.IsPrimitive := by
  obtain ⟨s, parsed⟩ := (result_parseText_iff _ _ _).1 read
  have types : Ensures (Parser.parse (.ofSpace own)) (Node.HasTypes fun type => ∀ t ∈ type, t.isPrimitive = true) :=
    Parser.ensures_parse fun _ _ _ _ _ run => Registry.isPrimitive_of_resolve_ofSpace run
  exact ⟨Parser.ensures_isLiteral _ _ _ parsed, types _ _ _ parsed⟩

/-- In the name space of the printed keys a tree reads back, and in any other one if it has no argument. -/
lemma parseText_print_of_plain (literal : root.isLiteral = true) (primitive : root.IsPrimitive)
    (plain : own = ArgumentType.builtinSpace ∨ ∀ n ∈ root.walk, n.isLiteral = true) (indent : Int) :
    ((ofSpace own encoding).parseText (root.print indent)).result = .ok root := by
  have segments := root.segments_print indent []
  rw [List.append_nil] at segments
  have faithful : ∀ m ∈ root.walk, ∀ type ∈ m.type, (Registry.ofSpace own).IsFaithful type := by
    intro m hm type ht
    rcases plain with rfl | literals
    · exact Registry.isFaithful_of_isPrimitive (primitive m hm type ht) Registry.claimant?_ofSpace_builtin
    · have none := literals m hm
      rw [Node.isLiteral, Option.mem_def.1 ht] at none
      cases none
  obtain ⟨s1, parsed, stands⟩ := Node.parseNode_of_isFaithful faithful segments
    (s := .ofStream (.ofChars (root.print indent).toList none)) (TokenStream.before_ofChars _)
  obtain ⟨s2, whole⟩ := Parser.parse_of_parseNode parsed stands (.blank (by decide) .nil) literal
  exact (result_parseText_iff _ _ _).2 ⟨s2, whole⟩

/-- In another name space the key of an argument is complained of. -/
lemma parseText_print_of_other (primitive : root.IsPrimitive) (other : own ≠ ArgumentType.builtinSpace)
    (argument : ¬ ∀ n ∈ root.walk, n.isLiteral = true) (indent : Int) :
    ∃ name line, ((ofSpace own encoding).parseText (root.print indent)).result =
      .error (.tokens (.failed (.parse ⟨.unknownType ArgumentType.builtinSpace name, line, none⟩))) := by
  have segments := root.segments_print indent []
  rw [List.append_nil] at segments
  have tree := Node.forestOf_tokens fun m hm => Parser.tries_headTokens other m.name (primitive m hm)
  have read := Parser.parseNode_of_forestOf tree segments
    (s := .ofStream (.ofChars (root.print indent).toList none)) (TokenStream.before_ofChars _)
  cases parsed : Parser.parseNode (.ofSpace own) (.ofStream (.ofChars (root.print indent).toList none)) with
  | ok again s =>
      rw [parsed] at read
      cases read with
      | tree _ types =>
          refine absurd (fun m hm => ?_) argument
          rw [Node.isLiteral, types m hm]
          rfl
  | error e s =>
      rw [parsed] at read
      cases read with
      | refusal unknown =>
          obtain ⟨name, line, rfl⟩ := unknown
          refine ⟨name, line, ?_⟩
          rw [parseText, parseStream, ofSpace, Parser.parse, bind_of_error parsed]
          rfl

/-- **What is printed of a tree reads back in the same name space** exactly if this is the one of the printed keys, or if
the tree has no argument. Else the key of the first argument is complained of. -/
theorem parseText_print_ofSpace (read : ((ofSpace own encoding).parseText text).result = .ok root) (indent : Int) :
    (((ofSpace own encoding).parseText (root.print indent)).result = .ok root ↔
      own = ArgumentType.builtinSpace ∨ ∀ n ∈ root.walk, n.isLiteral = true) ∧
    (¬ (own = ArgumentType.builtinSpace ∨ ∀ n ∈ root.walk, n.isLiteral = true) →
      ∃ name line, ((ofSpace own encoding).parseText (root.print indent)).result =
        .error (.tokens (.failed (.parse ⟨.unknownType ArgumentType.builtinSpace name, line, none⟩)))) := by
  obtain ⟨literal, primitive⟩ := isPrimitive_of_parseText_ofSpace read
  by_cases plain : own = ArgumentType.builtinSpace ∨ ∀ n ∈ root.walk, n.isLiteral = true
  · exact ⟨iff_of_true (parseText_print_of_plain literal primitive plain indent) plain, fun no => absurd plain no⟩
  · obtain ⟨other, argument⟩ := not_or.1 plain
    obtain ⟨name, line, fails⟩ := @parseText_print_of_other own encoding root primitive other argument indent
    refine ⟨iff_of_false (fun same => ?_) plain, fun _ => ⟨name, line, fails⟩⟩
    rw [fails] at same
    cases same

/-- A text with one argument in the name space `x` is read, but what is printed of its tree is not. -/
theorem parseText_print_ofSpace_flag :
    "x" ≠ "" ∧ ':' ∉ "x".toList ∧ ∃ root,
      ((ofSpace "x" "utf-8").parseText "root \x7b flag \"x:bool\"; \x7d").result = .ok root ∧
        (((ofSpace "x" "utf-8").parseText (root.print 4)).result = .ok root ↔
          "x" = ArgumentType.builtinSpace ∨ ∀ n ∈ root.walk, n.isLiteral = true) ∧
        (¬ ("x" = ArgumentType.builtinSpace ∨ ∀ n ∈ root.walk, n.isLiteral = true) →
          ∃ name line, ((ofSpace "x" "utf-8").parseText (root.print 4)).result =
            .error (.tokens (.failed (.parse ⟨.unknownType ArgumentType.builtinSpace name, line, none⟩)))) := by
  have accepted : ((ofSpace "x" "utf-8").parseText "root \x7b flag \"x:bool\"; \x7d").result.isOk = true := by
    decide +kernel
  refine ⟨by decide, by decide, ?_⟩
  cases read : ((ofSpace "x" "utf-8").parseText "root \x7b flag \"x:bool\"; \x7d").result with
  | ok root => exact ⟨root, rfl, parseText_print_ofSpace read 4⟩
  | error e =>
      rw [read] at accepted
      cases accepted

/-- The name space `x` is not empty and has no colon, and yet a text that is read under it gives a tree whose printed text
is refused: the key of its one argument is printed with another name space. -/
theorem parseText_print_ofSpace_refuted :
    "x" ≠ "" ∧ ':' ∉ "x".toList ∧ ∃ root,
      ((ofSpace "x" "utf-8").parseText "root \x7b flag \"x:bool\"; \x7d").result = .ok root ∧
        root.print 4 = "root \x7b\n    flag \"builtin:bool\";\n\x7d\n" ∧
        ∀ again, ((ofSpace "x" "utf-8").parseText (root.print 4)).result ≠ .ok again := by
  have computed : (((ofSpace "x" "utf-8").parseText "root \x7b flag \"x:bool\"; \x7d").result.toOption.any fun root =>
      decide (root.print 4 = "root \x7b\n    flag \"builtin:bool\";\n\x7d\n") &&
        !((ofSpace "x" "utf-8").parseText (root.print 4)).result.isOk) = true := by
    decide +kernel
  refine ⟨by decide, by decide, ?_⟩
  cases read : ((ofSpace "x" "utf-8").parseText "root \x7b flag \"x:bool\"; \x7d").result with
  | ok root =>
      simp only [read, Except.toOption, Option.any_some, Bool.and_eq_true, decide_eq_true_eq, Bool.not_eq_true'] at computed
      obtain ⟨printed, refused⟩ := computed
      refine ⟨root, rfl, printed, fun again same => ?_⟩
      rw [same] at refused
      cases refused
  | error e =>
      rw [read] at computed
      cases computed

end Reader

end CommandTree
