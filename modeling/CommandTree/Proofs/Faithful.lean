import CommandTree.Proofs.RoundTrip
/-!
Printed trees read back with the resolvers of a caller.

A caller's resolver may take any number of string tokens, and its types may have any texts as parameters. All that is
asked of it is that it is faithful to the types that it gives: from the parameters of a type it makes that type again,
and it leaves alone what follows them. Printing puts a token that is no string behind the parameters of each node, and
quotes them so that they read back as they are.

* `Registry.IsFaithful`: the key and the parameters of a type mean the type to a registry;
* `Parser.reads_of_isFaithful`: then the head of a node with this type is read from its tokens;
* `Node.parseNode_print_of_isFaithful`: a tree reads back from its printed text, whatever the resolvers are, if they are
  faithful to its types;
* `Registry.isFaithful_of_isPrimitive`: to the primitive types every registry is faithful that leaves them to their
  resolver, and `Registry.isFaithful_collected` to the types of a resolver that takes all string tokens.
-/

namespace CommandTree

open Lexicon Grammar

/-! ### Faithful resolvers -/

/-- **A registry is faithful to a type** if the key of the type has two parts, neither empty, and if these are resolved to
the type wherever the parameters of the type come next and then a token that is no string. Exactly the parameters are
taken; what follows them may have been looked at. -/
def Registry.IsFaithful (r : Registry) (type : ArgumentType) : Prop :=
  ∃ space name : String, Text.splitAt ':' type.key.toList = [space.toList, name.toList] ∧ space ≠ "" ∧ name ≠ "" ∧
    ∀ (q q1 q2 : TokenStream) (t : Token), q.Takes (type.parameters.map .string) q1 →
      TokenStream.peek q1 = .ok t q2 → t.isString = false →
        ∃ q', r.resolve space name q = .ok type q' ∧ (q' = q1 ∨ q' = q2)

variable {r : Registry}

/-- The head of a node is read from its tokens if the registry is faithful to its type. -/
lemma Parser.reads_of_isFaithful (name : String) {type : Option ArgumentType} (faithful : ∀ t ∈ type, r.IsFaithful t) :
    Reads r name type (Node.headTokens name type) := by
  cases type with
  | none => exact reads_literal r name
  | some type =>
      obtain ⟨space, word, split, spaceNe, wordNe, resolves⟩ := faithful type rfl
      intro s cs rest rest' t h segments follows other
      obtain ⟨s1, cs1, begun, place, more⟩ := head_of_reference segments h
      obtain ⟨s2, read, last⟩ := argumentType_of_takes (splitKey?_eq_some_iff.2 ⟨split, spaceNe, wordNe⟩)
        (fun q q1 q2 takes peeked => resolves q q1 q2 _ takes peeked other) more follows place
      refine ⟨s2, ?_, last⟩
      rw [begun, bind_of_ok read]
      rfl

namespace Node

/-- The parser of a registry reads a tree from its tokens if it is faithful to the types of the tree. -/
lemma parseNode_of_isFaithful {n : Node} (faithful : ∀ m ∈ n.walk, ∀ type ∈ m.type, r.IsFaithful type)
    {s : ParseState} {cs rest : List Char} (segments : Segments cs n.tokens rest) (h : s.Before cs) :
    ∃ s', Parser.parseNode r s = .ok n s' ∧ Parser.Rests s' rest := by
  have tries (m : Node) (hm : m ∈ n.walk) :
      Parser.Tries r (fun _ => True) (fun _ => False) m.name m.type (headTokens m.name m.type) :=
    ⟨⟨_, rfl⟩, .inl ⟨trivial, Parser.reads_of_isFaithful m.name (faithful m hm)⟩⟩
  exact (Parser.parseNode_of_forestOf (forestOf_tokens tries) segments h).exists_ok

end Node

/-! ### Resolvers that are faithful -/

namespace Registry

/-- **The resolver of the primitive types is faithful to them**, in every registry that leaves their names to it. -/
theorem isFaithful_of_isPrimitive {type : ArgumentType} (primitive : type.isPrimitive = true)
    (claimed : ∀ p : Primitive, r.claimant? ArgumentType.builtinSpace p.name = some Primitive.resolver) :
    r.IsFaithful type := by
  obtain ⟨p, refers, parameters⟩ := ArgumentType.exists_parameters primitive
  obtain ⟨space, name, split, spaceNe, nameNe, rfl, rfl⟩ := refers
  refine ⟨_, _, split, spaceNe, nameNe, fun q q1 q2 t takes peeked other => ?_⟩
  have resolves : r.resolve ArgumentType.builtinSpace p.name =
      Primitive.resolver.resolve ArgumentType.builtinSpace p.name := by
    rw [resolve]
    rw [claimed p]
  rw [resolves]
  exact Primitive.resolve_of_takes _ parameters takes peeked other

end Registry

/-- The type that holds some words. -/
def ArgumentType.collected (space name : String) (words : List String) : ArgumentType :=
  .custom ⟨.plain, space, name, words, [("words", .texts words)]⟩

/-- A resolver that takes all string tokens behind its key. -/
def Resolver.collecting (space name : String) : Resolver where
  display := "CollectingResolver(" ++ ArgumentType.keyOf space name ++ ")"
  claims space' name' := space' == space && name' == name
  request _ _ taken _ := Primitive.takeStringOr (.collected space name (taken.map Token.text))

namespace Resolver

lemma claims_collecting (space name space' name' : String) :
    (collecting space name).claims space' name' = (space' == space && name' == name) := rfl

/-- The resolver takes all words, by induction on the words, and holds those that it has taken before. -/
lemma resolveFrom_collecting (space name : String) {words : List String} {taken : List Token} {made : List ParseError}
    {q q1 q2 : TokenStream} {t : Token} (takes : q.Takes (words.map .string) q1) (peeked : TokenStream.peek q1 = .ok t q2)
    (other : t.isString = false) :
    (collecting space name).resolveFrom space name taken made q =
      .ok (.collected space name (taken.map Token.text ++ words)) q2 := by
  induction words generalizing q taken with
  | nil =>
      cases takes
      rw [List.append_nil]
      exact resolveFrom_answerFor rfl peeked other
  | cons word words ih =>
      obtain - | ⟨took, more⟩ := takes
      rw [resolveFrom_takeStringOr rfl took, ih more]
      simp [Token.text]

end Resolver

/-- **A resolver that takes all string tokens is faithful to its types**, whatever their words are. -/
theorem Registry.isFaithful_collected {space name : String} (spacePlain : ':' ∉ space.toList) (namePlain : ':' ∉ name.toList)
    (spaceNe : space ≠ "") (nameNe : name ≠ "")
    (claimed : r.claimant? space name = some (.collecting space name)) (words : List String) :
    r.IsFaithful (.collected space name words) := by
  have key : (ArgumentType.collected space name words).key.toList = space.toList ++ ':' :: name.toList := by
    simp [ArgumentType.key, ArgumentType.collected, ArgumentType.keyOf]
  refine ⟨space, name, ?_, spaceNe, nameNe, fun q q1 q2 t takes peeked other => ⟨q2, ?_, .inr rfl⟩⟩
  · rw [key]
    exact Text.splitAt_eq_pair_iff.2 ⟨spacePlain, namePlain, rfl⟩
  · rw [resolve]
    rw [claimed]
    exact Resolver.resolveFrom_collecting space name takes peeked other

/-- The registry of a collecting resolver and that of the primitive types, in this order. -/
def Registry.collecting (space name : String) : Registry := ⟨[.collecting space name, Primitive.resolver]⟩

namespace Registry

variable {space name : String}

lemma claimant?_collecting : (collecting space name).claimant? space name = some (.collecting space name) := by
  simp [claimant?, collecting, Resolver.claims_collecting]

lemma claimant?_collecting_builtin (other : space ≠ ArgumentType.builtinSpace) (p : Primitive) :
    (collecting space name).claimant? ArgumentType.builtinSpace p.name = some Primitive.resolver := by
  have first : (Resolver.collecting space name).claims ArgumentType.builtinSpace p.name = false := by
    simp [Resolver.claims_collecting, other.symm]
  have second : Primitive.resolver.claims ArgumentType.builtinSpace p.name = true := by
    simp [Primitive.claims_primitive, Primitive.ofName?_name]
  rw [claimant?, collecting]
  simp only [List.find?_cons, first, second]

end Registry

/-! ### Trees -/

namespace Node

/-- **A printed tree reads back with the resolvers of a caller**, whatever these are and in whatever order, if they are
faithful to its types. Whatever follows the text, exactly the tree is parsed, and the parser stops in front of the last
line feed without a look at what is behind it. -/
theorem parseNode_print_of_isFaithful {n : Node} (faithful : ∀ m ∈ n.walk, ∀ type ∈ m.type, r.IsFaithful type)
    (indent : Int) (rest : List Char) :
    ∃ s, Parser.parseNode r (.ofStream (.ofChars ((n.print indent).toList ++ rest) none)) = .ok n s ∧
      s.tokens.phase = .idle ∧ s.tokens.source.scanner.stream.text = '\n' :: rest := by
  have segments := n.segments_print indent rest
  obtain ⟨s, parsed, l, line, tokens, place⟩ := parseNode_of_isFaithful faithful segments
    (s := .ofStream (.ofChars ((n.print indent).toList ++ rest) none)) (TokenStream.before_ofChars _)
  refine ⟨s, parsed, ?_⟩
  rw [tokens]
  exact ⟨rfl, congrArg (fun m : Lexer => m.scanner.stream.pushback) place.2⟩

/-- A tree whose words look like anything else reads back. -/
theorem parseNode_print_of_isFaithful_oddWords :
    let n : Node := node "root" none
      [node "words" (some (.collected "demo" "words" ["", "a\"\\", "\r\n", "\x7d", "//", "demo:words"]))
        [node "flag" (some .bool) [], node "kind" (some (.string .greedyPhrase)) []]]
    (∀ m ∈ n.walk, ∀ type ∈ m.type, (Registry.collecting "demo" "words").IsFaithful type) ∧
      ∃ s, Parser.parseNode (.collecting "demo" "words")
          (.ofStream (.ofChars ((n.print 2).toList ++ ['"']) none)) = .ok n s ∧
        s.tokens.phase = .idle ∧ s.tokens.source.scanner.stream.text = ['\n', '"'] := by
  intro n
  have primitives := @Registry.claimant?_collecting_builtin "demo" "words" (by decide)
  have collected := Registry.isFaithful_collected (by decide) (by decide) (by decide) (by decide)
    (@Registry.claimant?_collecting "demo" "words")
  have bool : (Registry.collecting "demo" "words").IsFaithful .bool :=
    Registry.isFaithful_of_isPrimitive rfl primitives
  have string : (Registry.collecting "demo" "words").IsFaithful (.string .greedyPhrase) :=
    Registry.isFaithful_of_isPrimitive rfl primitives
  have faithful : ∀ m ∈ n.walk, ∀ type ∈ m.type, (Registry.collecting "demo" "words").IsFaithful type := by
    simp [n, walk_eq, Node.type, Node.children, collected, bool, string]
  exact ⟨faithful, parseNode_print_of_isFaithful faithful 2 ['"']⟩

end Node

end CommandTree
