import CommandTree.Proofs.Grammar.Reading
/-!
What the parser makes of nodes: the grammar and nothing else.

* `Grammar.Encloses` says how a complete node becomes the outermost one, while the blocks around it are closed one by
  one, and `Parser.Task.Derives` what a task has to read;
* `Parser.comes_perform`: performing a task comes to what it has to read, or to a complaint;
* `Parser.parseNode_of_tree`: a node is read, and no token behind it is computed.
-/

namespace CommandTree

open Lexicon Grammar

/-! ### Nodes inside blocks -/

namespace Grammar

/-- A complete node becomes part of the outermost one: each block around it goes on with nodes and is closed. -/
inductive Encloses : List OpenBlock → Node → List Token → Node → Prop
  | outermost (n : Node) : Encloses [] n [] n
  | inside {block : OpenBlock} {outer : List OpenBlock} {n root : Node} {us vs : List Token} {ns : List Node}
      (more : Forest us ns)
      (around : Encloses outer (.node block.name block.type (block.children.reverse ++ n :: ns)) vs root) :
      Encloses (block :: outer) n (us ++ .closeBlock :: vs) root

end Grammar

namespace Parser

/-- The tokens that a task has to read, with the outermost node that comes of it: those of a node, or of the rest of a
block, and then those up to the end of the outermost block. -/
def Task.Derives (ts : List Token) (root : Node) : Task → Prop
  | .enter blocks => ∃ us n vs, ts = us ++ vs ∧ Tree us n ∧ Encloses blocks n vs root
  | .leave block outer => ∃ us ns vs, ts = us ++ .closeBlock :: vs ∧ Forest us ns ∧
      Encloses outer (.node block.name block.type (block.children.reverse ++ ns)) vs root

/-- What is left to read behind a complete node or the beginning of a block. -/
def Goal (ts : List Token) (root : Node) : ParseProgress → Prop
  | .complete n => ts = [] ∧ root = n
  | .inside block outer => Task.Derives ts root (.leave block outer)

variable {ts us vs : List Token} {root n : Node} {blocks outer : List OpenBlock} {block : OpenBlock}

/-- A complete node is attached to the block around it. -/
lemma encloses_of_goal_attach (h : Goal ts root (.attach n blocks)) : Encloses blocks n ts root := by
  cases blocks with
  | nil =>
      obtain ⟨rfl, rfl⟩ := h
      exact .outermost root
  | cons block outer =>
      obtain ⟨us, ns, vs, rfl, forest, around⟩ := h
      exact .inside forest (by simpa using around)

/-- A further node in a block comes before the others. -/
lemma derives_leave_of_enter (h : Task.Derives ts root (.enter (block :: outer))) :
    Task.Derives ts root (.leave block outer) := by
  obtain ⟨us, n, vs, rfl, tree, around⟩ := h
  cases around with
  | @inside _ _ _ _ us' vs' ns more around =>
      exact ⟨us ++ us', n :: ns, vs', by simp, tree.append more, around⟩

/-! ### Reading comes to the grammar or to a complaint -/

variable {s : ParseState} {cs rest : List Char} {name : String} {type : Option ArgumentType}

/-- Reading the head of a node comes to a head of the grammar, or to a complaint. -/
lemma comes_head (h : s.Before cs) : Comes ParseState.Before
    (fun found rest => ∃ ts, Segments cs ts rest ∧ Head found.1 found.2 ts) (head .standard s) := by
  refine comes_next_bind h (fun t rest s' opens h' => ?_) fun s' => comes_refuse s' _
  cases t with
  | string name =>
      refine (comes_peek h').bind fun key s'' _ h'' => ?_
      rintro ⟨rfl, upcoming⟩
      cases key with
      | string key =>
          obtain ⟨⟨⟩, -⟩ | ⟨rest', opens'⟩ := upcoming
          obtain ⟨l, line, taken, place⟩ := next_of_opens h'' opens'
          simp only
          rw [bind_of_ok taken]
          refine (comes_argumentType key ⟨l, line, place, .inl rfl⟩).bind fun type s3 rest'' h3 => ?_
          rintro ⟨p, ps, refers, segments, parameters⟩
          exact .ok h3 ⟨_, .cons opens (.cons opens' segments), .argument refers parameters⟩
      | openBlock => exact .ok h'' ⟨_, .cons opens (.nil _), .literal name⟩
      | closeBlock => exact .ok h'' ⟨_, .cons opens (.nil _), .literal name⟩
      | statementEnd => exact .ok h'' ⟨_, .cons opens (.nil _), .literal name⟩
      | endOfInput => exact .ok h'' ⟨_, .cons opens (.nil _), .literal name⟩
  | openBlock => exact comes_refuse s' _
  | closeBlock => exact comes_refuse s' _
  | statementEnd => exact comes_refuse s' _
  | endOfInput => exact comes_refuse s' _

/-- Behind a head comes an opening brace or a semicolon, or a complaint. -/
lemma comes_opensBlock (h : s.Before cs) : Comes ParseState.Before
    (fun opened rest => Opens cs (if opened then .openBlock else .statementEnd) rest) (opensBlock s) := by
  refine (comes_peek h).bind fun t s' _ h' => ?_
  rintro ⟨rfl, upcoming⟩
  cases t with
  | openBlock =>
      obtain ⟨⟨⟩, -⟩ | ⟨rest, opens⟩ := upcoming
      obtain ⟨l, line, taken, place⟩ := next_of_opens h' opens
      simp only
      rw [bind_of_ok taken]
      exact .ok ⟨l, line, place, .inl rfl⟩ opens
  | statementEnd =>
      obtain ⟨⟨⟩, -⟩ | ⟨rest, opens⟩ := upcoming
      obtain ⟨l, line, taken, place⟩ := next_of_opens h' opens
      simp only
      rw [bind_of_ok taken]
      exact .ok ⟨l, line, place, .inl rfl⟩ opens
  | string => exact comes_refuse s' _
  | closeBlock => exact comes_refuse s' _
  | endOfInput => exact comes_refuse s' _

/-- Reading a node up to its semicolon or its block leaves what is left to read of it. -/
lemma comes_enter (blocks : List OpenBlock) (h : s.Before cs) : Comes ParseState.Before
    (fun progress rest => ∃ ts, Segments cs ts rest ∧
      ∀ us root, Goal us root progress → Task.Derives (ts ++ us) root (.enter blocks)) (enter .standard blocks s) := by
  refine (comes_head h).bind fun (name, type) s' rest h' => ?_
  rintro ⟨hd, segments, head⟩
  replace head : Head name type hd := head
  refine (comes_opensBlock h').bind fun opened s'' rest' h'' opens => ?_
  have all := segments_append_iff.2 ⟨rest, segments, .cons opens (.nil rest')⟩
  cases opened with
  | true =>
      refine .ok h'' ⟨_, all, fun us root goal => ?_⟩
      obtain ⟨us, ns, vs, rfl, inside, around⟩ := goal
      exact ⟨hd ++ Token.openBlock :: (us ++ [Token.closeBlock]), .node name type ns, vs, by simp,
        .block head inside .nil, around⟩
  | false =>
      refine .ok h'' ⟨_, all, fun us root goal => ?_⟩
      exact ⟨hd ++ [Token.statementEnd], .node name type [], us, by simp, .leaf head .nil, encloses_of_goal_attach goal⟩

/-- Looking for the end of a block leaves what is left to read behind it, or a node of the block. -/
lemma comes_leave (block : OpenBlock) (outer : List OpenBlock) (h : s.Before cs) : Comes ParseState.Before
    (fun left rest => match left with
      | none => rest = cs
      | some progress => Opens cs .closeBlock rest ∧ progress = .attach block.close outer)
    (leave block outer s) := by
  refine (comes_peek h).bind fun t s' _ h' => ?_
  rintro ⟨rfl, upcoming⟩
  cases t with
  | closeBlock =>
      obtain ⟨⟨⟩, -⟩ | ⟨rest, opens⟩ := upcoming
      obtain ⟨l, line, taken, place⟩ := next_of_opens h' opens
      simp only
      rw [bind_of_ok taken]
      exact .ok ⟨l, line, place, .inl rfl⟩ ⟨opens, rfl⟩
  | endOfInput => exact comes_refuse s' _
  | string => exact .ok h' rfl
  | openBlock => exact .ok h' rfl
  | statementEnd => exact .ok h' rfl

/-- **Performing a task comes to what the grammar says of the tokens read, or to a complaint.** -/
theorem comes_perform (task : Task) (h : s.Before cs) : Comes ParseState.Before
    (fun root rest => ∃ ts, Segments cs ts rest ∧ task.Derives ts root) (perform .standard task s) := by
  fun_induction perform Registry.standard task s generalizing cs with
  | case1 s blocks e s' entered => exact .error (entered ▸ comes_enter blocks h).of_error
  | case2 s blocks n s' entered =>
      obtain ⟨rest, h', ts, segments, derives⟩ := (entered ▸ comes_enter blocks h).of_ok
      exact .ok h' ⟨ts, segments, by simpa using derives [] n ⟨rfl, rfl⟩⟩
  | case3 s blocks block outer s' entered ih =>
      obtain ⟨rest, h', ts, segments, derives⟩ := (entered ▸ comes_enter blocks h).of_ok
      refine (ih h').mono ?_
      rintro root last ⟨us, segments', goal⟩
      exact ⟨ts ++ us, segments_append_iff.2 ⟨rest, segments, segments'⟩, derives us root goal⟩
  | case4 s block outer e s' left => exact .error (left ▸ comes_leave block outer h).of_error
  | case5 s block outer s' left ih =>
      obtain ⟨rest, h', rfl⟩ := (left ▸ comes_leave block outer h).of_ok
      refine (ih h').mono ?_
      rintro root last ⟨ts, segments, derives⟩
      exact ⟨ts, segments, derives_leave_of_enter derives⟩
  | case6 s block outer n s' left =>
      obtain ⟨rest, h', opens, attached⟩ := (left ▸ comes_leave block outer h).of_ok
      have goal : Goal [] n (.attach block.close outer) := attached ▸ ⟨rfl, rfl⟩
      exact .ok h' ⟨[.closeBlock], .cons opens (.nil rest), [], [], [], rfl, .nil, by
        simpa [OpenBlock.close] using encloses_of_goal_attach goal⟩
  | case7 s block outer inner outer' s' left ih =>
      obtain ⟨rest, h', opens, attached⟩ := (left ▸ comes_leave block outer h).of_ok
      refine (ih h').mono ?_
      rintro root last ⟨ts, segments, derives⟩
      have goal : Goal ts root (.attach block.close outer) := attached ▸ derives
      exact ⟨.closeBlock :: ts, .cons opens segments, [], [], ts, rfl, .nil, by
        simpa [OpenBlock.close] using encloses_of_goal_attach goal⟩

/-- **Parsing a node comes to a node of the grammar, or to a complaint.** -/
theorem comes_parseNode (h : s.Before cs) : Comes ParseState.Before
    (fun root rest => ∃ ts, Segments cs ts rest ∧ Tree ts root) (parseNode .standard s) := by
  refine (comes_perform (.enter []) h).mono ?_
  rintro root rest ⟨ts, segments, us, n, vs, rfl, tree, around⟩
  cases around
  exact ⟨us, by simpa using segments, tree⟩

/-! ### All of the grammar is read -/

variable {hd : List Token}

/-- The heads of the grammar are read. -/
lemma tries_head (head' : Head name type hd) :
    Tries .standard (fun _ => True) (fun _ => False) name type hd where
  begins := head'.exists_tail
  becomes := by
    refine .inl ⟨trivial, ?_⟩
    cases head' with
    | literal => exact reads_literal .standard name
    | argument refers parameters =>
        intro s cs rest rest' t h segments follows other
        obtain ⟨s1, cs1, begun, place, more⟩ := head_of_reference segments h
        obtain ⟨s2, resolved, last⟩ := argumentType_of_parameters refers parameters more follows other place
        refine ⟨s2, ?_, last⟩
        rw [begun, bind_of_ok resolved]
        rfl

/-- **A node of the grammar is read**, and no token behind it is computed. -/
theorem parseNode_of_tree (tree : Tree ts root) (segments : Segments cs ts rest) (h : s.Before cs) :
    ∃ s', parseNode .standard s = .ok root s' ∧ Rests s' rest := by
  have tries := (forest_iff.1 tree).mono fun _ _ _ => tries_head
  exact (parseNode_of_forestOf tries segments h).exists_ok

end Parser

end CommandTree
