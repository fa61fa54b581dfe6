import CommandTree.Proofs.Types
/-!
What holds of every tree that a parser gives, whatever its text is.

The argument types of a tree are answers of the registry, and nothing else. So what is known of all answers holds of all
types: of those in the tree, and in the blocks that are still open on the way to it.

* `Ensures`: every success of a computation has a property; `Ensures.bind` passes it on;
* `OpenBlock.HasTypes`, `ParseProgress.HasTypes` and `Parser.Task.HasTypes`: the types of an unfinished tree are as given;
* `Parser.ensures_perform`: a task keeps that up, by induction along its run;
* `Parser.ensures_parse`: so the types of a parsed tree are as all answers of the registry are.
-/

namespace CommandTree

/-! ### Properties of all successes -/

section Ensures

variable {ε σ α β : Type} {m : EStateM ε σ α} {k : α → EStateM ε σ β} {post : α → Prop} {goal : β → Prop}

/-- Every success of a computation has a property. -/
def Ensures (m : EStateM ε σ α) (post : α → Prop) : Prop := ∀ s a s', m s = .ok a s' → post a

lemma Ensures.pure {a : α} (h : post a) : Ensures (Pure.pure a : EStateM ε σ α) post := by
  rintro s _ s' ⟨⟩
  exact h

lemma Ensures.trivial (m : EStateM ε σ α) : Ensures m fun _ => True := fun _ _ _ _ => True.intro

/-- Sequences ensure what their second part does behind their first. -/
lemma Ensures.bind (first : Ensures m post) (second : ∀ a, post a → Ensures (k a) goal) : Ensures (m >>= k) goal := by
  intro s b s' run
  obtain ⟨a, t, left, right⟩ := bind_eq_ok run
  exact second a (first s a t left) t b s' right

end Ensures

/-! ### Unfinished trees -/

/-- The types of an open block and of the children read so far are as given. -/
def OpenBlock.HasTypes (good : Option ArgumentType → Prop) (block : OpenBlock) : Prop :=
  good block.type ∧ ∀ c ∈ block.children, c.HasTypes good

/-- The types of a complete node, or of all blocks that are open, are as given. -/
def ParseProgress.HasTypes (good : Option ArgumentType → Prop) : ParseProgress → Prop
  | complete n => n.HasTypes good
  | inside block outer => ∀ b ∈ block :: outer, b.HasTypes good

/-- The types of all blocks that are open during a task are as given. -/
def Parser.Task.HasTypes (good : Option ArgumentType → Prop) : Task → Prop
  | enter blocks => ∀ b ∈ blocks, b.HasTypes good
  | leave block outer => ∀ b ∈ block :: outer, b.HasTypes good

variable {good : Option ArgumentType → Prop}

lemma OpenBlock.HasTypes.close {block : OpenBlock} (h : block.HasTypes good) : block.close.HasTypes good :=
  Node.hasTypes_iff.2 ⟨h.1, fun c hc => h.2 c (List.mem_reverse.1 hc)⟩

/-- A node becomes a child of the innermost block. -/
lemma ParseProgress.HasTypes.attach {n : Node} {blocks : List OpenBlock} (node : n.HasTypes good)
    (h : ∀ b ∈ blocks, b.HasTypes good) : (ParseProgress.attach n blocks).HasTypes good := by
  cases blocks with
  | nil => exact node
  | cons block outer =>
      obtain ⟨first, others⟩ := List.forall_mem_cons.1 h
      exact List.forall_mem_cons.2 ⟨⟨first.1, List.forall_mem_cons.2 ⟨node, first.2⟩⟩, others⟩

/-! ### The parser -/

namespace Parser

variable {registry : Registry} {P : ArgumentType → Prop}

lemma ensures_onTokens {α : Type} {m : TokenM α} {post : α → Prop} (h : Ensures m post) :
    Ensures (onTokens m) post := by
  intro s a s' run
  unfold onTokens at run
  split at run
  · rename_i done
    cases run
    exact h _ _ _ done
  · cases run

lemma ensures_refuse {α : Type} (complaint : Complaint) {post : α → Prop} :
    Ensures (refuse complaint : ParseM α) post :=
  ensures_onTokens fun _ _ _ run => nomatch run

variable (answers : ∀ space name, Ensures (registry.resolve space name) P)
include answers

/-- A type reference has an answer of the registry. -/
lemma ensures_argumentType (key : String) : Ensures (argumentType registry key) P := by
  unfold argumentType
  split
  · exact ensures_refuse _
  · exact (Ensures.trivial _).bind fun _ _ => ensures_onTokens (answers _ _)

/-- The type of a head is an answer of the registry. -/
lemma ensures_head : Ensures (head registry) fun found => ∀ type ∈ found.2, P type := by
  refine (Ensures.trivial next).bind fun token _ => ?_
  split
  · refine (Ensures.trivial peek).bind fun following _ => ?_
    split
    · refine (Ensures.trivial next).bind fun _ _ => (ensures_argumentType answers _).bind fun type holds => .pure ?_
      rintro _ ⟨⟩
      exact holds
    · exact .pure fun _ no => nomatch no
  · exact ensures_refuse _

/-- A node is begun with an answer of the registry. -/
lemma ensures_enter {blocks : List OpenBlock} (h : ∀ b ∈ blocks, b.HasTypes fun type => ∀ t ∈ type, P t) :
    Ensures (enter registry blocks) (ParseProgress.HasTypes fun type => ∀ t ∈ type, P t) := by
  refine (ensures_head answers).bind fun (name, type) holds => (Ensures.trivial opensBlock).bind fun opened _ => ?_
  cases opened with
  | true => exact .pure (List.forall_mem_cons.2 ⟨⟨holds, nofun⟩, h⟩)
  | false => exact .pure (.attach (Node.hasTypes_iff.2 ⟨holds, nofun⟩) h)

omit answers in
/-- A block that is closed becomes a child of the block around it. -/
lemma ensures_leave {block : OpenBlock} {outer : List OpenBlock} (h : ∀ b ∈ block :: outer, b.HasTypes good) :
    Ensures (leave block outer) fun found => ∀ progress ∈ found, progress.HasTypes good := by
  obtain ⟨first, others⟩ := List.forall_mem_cons.1 h
  refine (Ensures.trivial peek).bind fun token _ => ?_
  split
  · exact ensures_refuse _
  · refine (Ensures.trivial next).bind fun _ _ => .pure ?_
    rintro _ ⟨⟩
    exact .attach first.close others
  · exact .pure fun _ no => nomatch no

/-- **A task adds no types but answers of the registry**, by induction along its run. -/
theorem ensures_perform {task : Task} (h : task.HasTypes fun type => ∀ t ∈ type, P t) :
    Ensures (perform registry task) (Node.HasTypes fun type => ∀ t ∈ type, P t) := by
  intro s root s' run
  fun_induction perform registry task s with
  | case1 => cases run
  | case2 s blocks n s1 entered =>
      cases run
      exact ensures_enter answers h _ _ _ entered
  | case3 s blocks block outer s1 entered ih => exact ih (ensures_enter answers h _ _ _ entered) run
  | case4 => cases run
  | case5 s block outer s1 left ih => exact ih h run
  | case6 s block outer n s1 left =>
      cases run
      exact ensures_leave h _ _ _ left _ rfl
  | case7 s block outer inner outer' s1 left ih => exact ih (ensures_leave h _ _ _ left _ rfl) run

/-- **The types of a parsed tree are answers of the registry.** -/
theorem ensures_parse : Ensures (parse registry) (Node.HasTypes fun type => ∀ t ∈ type, P t) := by
  have whole : Ensures (parseNode registry) (Node.HasTypes fun type => ∀ t ∈ type, P t) :=
    ensures_perform answers fun _ no => nomatch no
  refine whole.bind fun root holds => ?_
  cases root.isLiteral with
  | false => exact ensures_refuse _
  | true =>
      refine (Ensures.trivial peek).bind fun token _ => ?_
      split
      · exact .pure holds
      · exact ensures_refuse _

omit answers in
/-- A parsed tree is a literal. -/
lemma ensures_isLiteral : Ensures (parse registry) fun root => root.isLiteral = true := by
  refine (Ensures.trivial (parseNode registry)).bind fun root _ => ?_
  cases literal : root.isLiteral with
  | false => exact ensures_refuse _
  | true =>
      refine (Ensures.trivial peek).bind fun token _ => ?_
      split
      · exact .pure literal
      · exact ensures_refuse _

end Parser

end CommandTree
