import CommandTree.Proofs.Place
import CommandTree.Proofs.Types
/-!
What a parser reads, whatever its registry is.

Between the heads of nodes stand only semicolons and braces, which every parser reads in the same way. So all that has to
be known of a registry is what becomes of the tokens of a head: they are read, or they are refused.

* `Grammar.ForestOf` are the tokens of a list of nodes over any given heads; `Grammar.forest_iff` are those of the
  grammar;
* `Parser.Reads` and `Parser.Refuses` say what becomes of the tokens of a head, and `Parser.Tries` that one of them does;
* `Parser.outcome_perform`: a list of nodes inside a block is read as its children, or one of its heads is refused;
* `Parser.parseNode_of_forestOf`: so is a node, and no token behind it is computed (`Parser.TreeOrRefusal`).
-/

namespace CommandTree

open Lexicon Grammar

/-! ### Nodes over given heads -/

namespace Grammar

/-- The tokens of a list of nodes, where it is given which tokens a node has up to its semicolon or its block. -/
inductive ForestOf (heads : String → Option ArgumentType → List Token → Prop) : List Token → List Node → Prop
  | nil : ForestOf heads [] []
  | leaf {name : String} {type : Option ArgumentType} {hd ts : List Token} {ns : List Node} (head : heads name type hd)
      (more : ForestOf heads ts ns) : ForestOf heads (hd ++ .statementEnd :: ts) (.node name type [] :: ns)
  | block {name : String} {type : Option ArgumentType} {hd us ts : List Token} {children ns : List Node}
      (head : heads name type hd) (inside : ForestOf heads us children) (more : ForestOf heads ts ns) :
      ForestOf heads (hd ++ .openBlock :: (us ++ .closeBlock :: ts)) (.node name type children :: ns)

variable {heads heads' : String → Option ArgumentType → List Token → Prop} {ts us : List Token} {ms ns : List Node}

/-- Lists of nodes may be put together. -/
lemma ForestOf.append (h : ForestOf heads ts ms) (h' : ForestOf heads us ns) :
    ForestOf heads (ts ++ us) (ms ++ ns) := by
  induction h with
  | nil => exact h'
  | leaf head _ ih => simpa using ForestOf.leaf head ih
  | block head inside _ _ ih => simpa using ForestOf.block head inside ih

/-- The heads may be taken for others. -/
lemma ForestOf.mono (h : ForestOf heads ts ns)
    (weaker : ∀ name type hd, heads name type hd → heads' name type hd) : ForestOf heads' ts ns := by
  induction h with
  | nil => exact .nil
  | leaf head _ ih => exact .leaf (weaker _ _ _ head) ih
  | block head _ _ ihInside ih => exact .block (weaker _ _ _ head) ihInside ih

/-- The grammar is that over its own heads. -/
theorem forest_iff : Forest ts ns ↔ ForestOf Head ts ns := by
  constructor
  · intro h
    induction h with
    | nil => exact .nil
    | leaf head _ ih => exact .leaf head ih
    | block head _ _ ihInside ih => exact .block head ihInside ih
  · intro h
    induction h with
    | nil => exact .nil
    | leaf head _ ih => exact .leaf head ih
    | block head _ _ ihInside ih => exact .block head ihInside ih

end Grammar

namespace Parser

variable {registry : Registry} {s : ParseState} {cs rest : List Char} {name : String} {type : Option ArgumentType}
  {t : Token} {hd ts : List Token} {ns : List Node} {blocks outer : List OpenBlock} {block : OpenBlock} {root : Node}

/-! ### Between the heads -/

/-- A parser stands in front of a text, and its next token has not been computed. -/
def Rests (s : ParseState) (cs : List Char) : Prop := ∃ l line, s.tokens = .ofSource l ∧ Lexer.Before l cs line

lemma Rests.before (h : Rests s cs) : s.Before cs := by
  obtain ⟨l, line, idle, place⟩ := h
  exact ⟨l, line, place, .inl idle⟩

lemma rests_of_opens (h : s.Before cs) (o : Opens cs t rest) : ∃ s', next s = .ok t s' ∧ Rests s' rest := by
  obtain ⟨l, line, taken, place⟩ := next_of_opens h o
  exact ⟨_, taken, l, line, rfl, place⟩

/-- A brace or a semicolon is read. -/
lemma opensBlock_of_opens (opened : Bool) (h : s.Before cs)
    (o : Opens cs (if opened then .openBlock else .statementEnd) rest) :
    ∃ s', opensBlock s = .ok opened s' ∧ Rests s' rest := by
  obtain ⟨s1, peeked, place⟩ := peek_of_opens h o
  obtain ⟨s2, taken, place'⟩ := rests_of_opens place o
  refine ⟨s2, ?_, place'⟩
  rw [opensBlock]
  rw [bind_of_ok peeked]
  cases opened <;>
  · simp only [Bool.false_eq_true, if_false, if_true]
    rw [bind_of_ok taken]
    rfl

/-- Another token than a brace begins a node of the block. -/
lemma perform_leave_of_opens (h : s.Before cs) {x : String} (o : Opens cs (.string x) rest) :
    ∃ s', perform registry (.leave block outer) s = perform registry (.enter (block :: outer)) s' ∧ s'.Before cs := by
  obtain ⟨s1, peeked, place⟩ := peek_of_opens h o
  have left : leave block outer s = .ok none s1 := by
    rw [leave]
    rw [bind_of_ok peeked]
    rfl
  refine ⟨s1, ?_, place⟩
  rw [perform_leave_eq, bind_of_ok left]

/-- A closing brace closes the block. -/
lemma leave_of_opens (h : s.Before cs) (o : Opens cs .closeBlock rest) :
    ∃ s', leave block outer s = .ok (some (.attach block.close outer)) s' ∧ Rests s' rest := by
  obtain ⟨s1, peeked, place⟩ := peek_of_opens h o
  obtain ⟨s2, taken, place'⟩ := rests_of_opens place o
  refine ⟨s2, ?_, place'⟩
  rw [leave]
  rw [bind_of_ok peeked]
  simp only
  rw [bind_of_ok taken]
  rfl

/-! ### Heads -/

/-- The head of a node is read from its tokens, wherever they stand, if no other string token follows. -/
def Reads (registry : Registry) (name : String) (type : Option ArgumentType) (hd : List Token) : Prop :=
  ∀ ⦃s : ParseState⦄ ⦃cs rest rest' : List Char⦄ ⦃t : Token⦄, s.Before cs → Segments cs hd rest → Opens rest t rest' →
    t.isString = false → ∃ s', head registry s = .ok (name, type) s' ∧ s'.Before rest

/-- The tokens of a head are refused, wherever they stand, with an error as given. -/
def Refuses (registry : Registry) (refused : TokenError → Prop) (hd : List Token) : Prop :=
  ∀ ⦃s : ParseState⦄ ⦃cs rest : List Char⦄, s.Before cs → Segments cs hd rest →
    ∃ e s', head registry s = .error e s' ∧ refused e

/-- The tokens of a head are read, and then its type is as given, or they are refused. -/
structure Tries (registry : Registry) (good : Option ArgumentType → Prop) (refused : TokenError → Prop) (name : String)
    (type : Option ArgumentType) (hd : List Token) : Prop where
  begins : ∃ tail, hd = .string name :: tail
  becomes : (good type ∧ Reads registry name type hd) ∨ Refuses registry refused hd

/-- The name alone is the head of a literal. -/
lemma reads_literal (registry : Registry) (name : String) : Reads registry name none [.string name] := by
  intro s cs rest rest' t h segments follows other
  obtain ⟨_, opens, ⟨⟩⟩ := segments_cons_iff.1 segments
  obtain ⟨s1, taken, place⟩ := rests_of_opens h opens
  obtain ⟨s2, peeked, place'⟩ := peek_of_opens place.before follows
  refine ⟨s2, ?_, place'⟩
  rw [head]
  rw [bind_of_ok taken]
  simp only
  rw [bind_of_ok peeked]
  cases t with
  | string => cases other
  | openBlock => rfl
  | closeBlock => rfl
  | statementEnd => rfl
  | endOfInput => rfl

/-- Behind the name and the type reference the parser goes on with the type. -/
lemma head_of_reference {key : String} {ps : List Token}
    (segments : Segments cs (.string name :: .string key :: ps) rest) (h : s.Before cs) :
    ∃ s' cs', head registry s = (argumentType registry key >>= fun type => pure (name, some type)) s' ∧
      s'.Before cs' ∧ Segments cs' ps rest := by
  obtain ⟨_, opens, more⟩ := segments_cons_iff.1 segments
  obtain ⟨cs', opens', more⟩ := segments_cons_iff.1 more
  obtain ⟨s1, taken, place⟩ := rests_of_opens h opens
  obtain ⟨s2, peeked, place'⟩ := peek_of_opens place.before opens'
  obtain ⟨s3, taken', place''⟩ := rests_of_opens place' opens'
  refine ⟨s3, cs', ?_, place''.before, more⟩
  rw [head]
  rw [bind_of_ok taken]
  simp only
  rw [bind_of_ok peeked]
  simp only
  rw [bind_of_ok taken']

variable {good : Option ArgumentType → Prop} {refused : TokenError → Prop} {β : Type}

/-- What holds of all refusals, and of what comes behind a node up to its semicolon or its block, holds of the whole. -/
lemma outcome_enter (opened : Bool) (tries : Tries registry good refused name type hd)
    (segments : Segments cs (hd ++ [if opened then .openBlock else .statementEnd]) rest) (h : s.Before cs)
    (blocks : List OpenBlock) {next : ParseProgress → ParseM β} {outcome : EStateM.Result TokenError ParseState β → Prop}
    (refusal : ∀ e s', refused e → outcome (.error e s'))
    (behind : ∀ s', Rests s' rest → good type →
      outcome (next (if opened then .inside ⟨name, type, []⟩ blocks else .attach (.node name type []) blocks) s')) :
    outcome ((enter registry blocks >>= next) s) := by
  obtain ⟨mid, segments, last⟩ := segments_append_iff.1 segments
  obtain ⟨_, opens, ⟨⟩⟩ := segments_cons_iff.1 last
  rcases tries.becomes with ⟨holds, reads⟩ | refuses
  · obtain ⟨s1, found, place⟩ := reads h segments opens (by cases opened <;> rfl)
    obtain ⟨s2, read, place'⟩ := opensBlock_of_opens opened place opens
    have entered : enter registry blocks s =
        .ok (if opened then .inside ⟨name, type, []⟩ blocks else .attach (.node name type []) blocks) s2 := by
      rw [enter]
      rw [bind_of_ok found]
      simp only
      rw [bind_of_ok read]
      cases opened <;> rfl
    rw [bind_of_ok entered]
    exact behind s2 place' holds
  · obtain ⟨e, s1, failed, holds⟩ := refuses h segments
    have entered : enter registry blocks s = .error e s1 := by
      rw [enter]
      exact bind_of_error failed
    rw [bind_of_error entered]
    exact refusal e s1 holds

/-- A head begins a node of the block. -/
lemma perform_leave_of_tries {us : List Token} (tries : Tries registry good refused name type hd)
    (segments : Segments cs (hd ++ us) rest) (h : s.Before cs) :
    ∃ s', perform registry (.leave block outer) s = perform registry (.enter (block :: outer)) s' ∧ s'.Before cs := by
  obtain ⟨tail, rfl⟩ := tries.begins
  obtain ⟨_, opens, -⟩ := segments_cons_iff.1 segments
  exact perform_leave_of_opens h opens

/-! ### Nodes -/

variable {outcome : EStateM.Result TokenError ParseState Node → Prop}

/-- **A list of nodes inside a block is read as its children**, or a head is refused: what holds of all refusals, and of
what the parser comes to behind the nodes, holds of the whole. The induction is on the tokens of the nodes. -/
theorem outcome_perform (forest : ForestOf (Tries registry good refused) ts ns) (segments : Segments cs ts rest)
    (h : s.Before cs) (refusal : ∀ e s', refused e → outcome (.error e s'))
    (behind : ∀ s', s'.Before rest → (∀ n ∈ ns, n.HasTypes good) →
      outcome (perform registry (.leave { block with children := ns.reverse ++ block.children } outer) s')) :
    outcome (perform registry (.leave block outer) s) := by
  induction forest generalizing s cs rest block outer with
  | nil =>
      cases segments
      exact behind s h nofun
  | @leaf name type hd ts ns tries _ ih =>
      rw [List.append_cons] at segments
      obtain ⟨mid, segments, more⟩ := segments_append_iff.1 segments
      obtain ⟨s1, left, place⟩ := perform_leave_of_tries tries segments h
      rw [left, perform_enter_eq]
      refine outcome_enter false tries segments place (block :: outer) refusal fun s2 place2 holds => ?_
      refine ih more place2.before fun s3 last all => ?_
      have types : (Node.node name type []).HasTypes good := Node.hasTypes_iff.2 ⟨holds, nofun⟩
      simpa using behind s3 last (List.forall_mem_cons.2 ⟨types, all⟩)
  | @block name type hd us ts children ns tries _ _ ihInside ih =>
      rw [List.append_cons] at segments
      obtain ⟨mid, segments, more⟩ := segments_append_iff.1 segments
      obtain ⟨mid', inside, more⟩ := segments_append_iff.1 more
      obtain ⟨_, closes, more⟩ := segments_cons_iff.1 more
      obtain ⟨s1, left, place⟩ := perform_leave_of_tries tries segments h
      rw [left, perform_enter_eq]
      refine outcome_enter true tries segments place (block :: outer) refusal fun s2 place2 holds => ?_
      refine ihInside inside place2.before fun s3 place3 within => ?_
      obtain ⟨s4, closed, place4⟩ := leave_of_opens place3 closes
      rw [perform_leave_eq, bind_of_ok closed]
      refine ih more place4.before fun s5 last all => ?_
      have types : (Node.node name type children).HasTypes good := Node.hasTypes_iff.2 ⟨holds, within⟩
      simpa [OpenBlock.close] using behind s5 last (List.forall_mem_cons.2 ⟨types, all⟩)

/-- What reading the tokens of a tree comes to: the tree, whose types are as given, and no token behind it is computed; or
the refusal of a head. -/
inductive TreeOrRefusal (root : Node) (rest : List Char) (good : Option ArgumentType → Prop)
    (refused : TokenError → Prop) : EStateM.Result TokenError ParseState Node → Prop
  | tree {s : ParseState} (place : Rests s rest) (types : root.HasTypes good) :
      TreeOrRefusal root rest good refused (.ok root s)
  | refusal {e : TokenError} {s : ParseState} (holds : refused e) : TreeOrRefusal root rest good refused (.error e s)

/-- Without refusals the tree is read. -/
lemma TreeOrRefusal.exists_ok {r : EStateM.Result TokenError ParseState Node}
    (h : TreeOrRefusal root rest good (fun _ => False) r) : ∃ s, r = .ok root s ∧ Rests s rest := by
  cases h with
  | tree place => exact ⟨_, rfl, place⟩
  | refusal no => exact no.elim

/-- **A node is read**, and no token behind it is computed, or a head is refused. -/
theorem parseNode_of_forestOf (tree : ForestOf (Tries registry good refused) ts [root]) (segments : Segments cs ts rest)
    (h : s.Before cs) : TreeOrRefusal root rest good refused (parseNode registry s) := by
  rw [parseNode]
  rw [perform_enter_eq]
  cases tree with
  | @leaf name type hd _ _ tries more =>
      cases more
      refine outcome_enter false tries segments h [] (fun _ _ => .refusal) fun s1 place holds => ?_
      exact .tree place (Node.hasTypes_iff.2 ⟨holds, nofun⟩)
  | @block name type hd us _ children _ tries inside more =>
      cases more
      rw [List.append_cons] at segments
      obtain ⟨mid, segments, more⟩ := segments_append_iff.1 segments
      obtain ⟨mid', within, more⟩ := segments_append_iff.1 more
      obtain ⟨_, closes, ⟨⟩⟩ := segments_cons_iff.1 more
      refine outcome_enter true tries segments h [] (fun _ _ => .refusal) fun s1 place holds => ?_
      refine outcome_perform inside within place.before (fun _ _ => .refusal) fun s2 place2 all => ?_
      obtain ⟨s3, closed, place3⟩ := leave_of_opens place2 closes
      rw [perform_leave_eq, bind_of_ok closed]
      have read : OpenBlock.close ⟨name, type, children.reverse ++ []⟩ = .node name type children := by
        simp [OpenBlock.close]
      rw [read]
      exact .tree place3 (Node.hasTypes_iff.2 ⟨holds, all⟩)

end Parser

end CommandTree
