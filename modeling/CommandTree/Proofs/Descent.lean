import CommandTree.Proofs.Unfolding
/-!
The parser as recursive descent.

The nodes of a file can be read by two procedures that call each other: one reads a node, the other the children of a
block up to its brace. The parser makes no such calls; it keeps the blocks that are open on a stack. Each block on the
stack is a call that has been begun, and what is left of the call is to read the other children and to hand the node over
to the block around it.

* `Descent.node` and `Descent.children` are the two procedures, and `Descent.node_eq` and `Descent.children_eq` say what
  they do; `Descent.start` reads what they have in common with every node, its head;
* `Parser.Task.descent` is what is left of the calls that a task of the parser stands for;
* `Parser.run_eq_descent`: to perform a task is to carry these calls out;
* `Parser.parseNode_eq_descent`: **the parser is recursive descent**, in what it comes to and in what it leaves.
-/

namespace CommandTree

/-! ### The procedures -/

namespace Descent

open CommandTree.Parser

variable {α : Type}

/-- What a procedure comes to in a state: a failure, or a success that leaves fewer tokens. -/
abbrev Read (α : Type) (s : ParseState) : Type :=
  { r : EStateM.Result TokenError ParseState α // ∀ a s', r = .ok a s' → s'.size < s.size }

/-- A failure. -/
def Read.error {s : ParseState} (e : TokenError) (s' : ParseState) : Read α s := ⟨.error e s', nofun⟩

/-- A success. -/
def Read.ok {s : ParseState} (a : α) (s' : ParseState) (less : s'.size < s.size) : Read α s :=
  ⟨.ok a s', by rintro _ _ ⟨⟩; exact less⟩

/-- Reads the head of a node: a string, its name, and if another string follows an argument type, which that one is the key
of. -/
def start (registry : Registry) : ParseM (String × Option ArgumentType) := do
  let first ← next
  if let .string name := first then
    let second ← peek
    if let .string key := second then
      let _ ← next
      let type ← argumentType registry key
      return (name, some type)
    else return (name, none)
  else refuse (.nameExpected first)

/-- The parser reads heads in the same way. -/
lemma start_eq_head (registry : Registry) : start registry = head registry := by
  funext s
  refine bind_congr_of_ok fun first s1 _ => ?_
  cases first with
  | string name =>
      refine bind_congr_of_ok fun second s2 _ => ?_
      cases second <;> rfl
  | _ => rfl

lemma consumes_start (registry : Registry) : Consumes ParseState.size (start registry) := by
  rw [start_eq_head]
  exact consumes_head registry

mutual

/-- Reads a node: its head, and then a semicolon, or an opening brace and its children. -/
def nodeFrom (registry : Registry) (s : ParseState) : Read Node s :=
  match begun : start registry s with
  | .error e s' => .error e s'
  | .ok (name, type) s' =>
    have left := consumes_start _ _ _ _ begun
    match seen : peek s' with
    | .error e s'' => .error e s''
    | .ok mark s'' =>
      have left := Nat.lt_of_le_of_lt (keepsWithin_peek _ _ _ seen) left
      if mark = .statementEnd then
        match taken : next s'' with
        | .error e t => .error e t
        | .ok _ t => .ok (.node name type []) t (Nat.lt_trans (consumes_next _ _ _ taken) left)
      else if mark = .openBlock then
        match taken : next s'' with
        | .error e t => .error e t
        | .ok _ t =>
          have left := Nat.lt_trans (consumes_next _ _ _ taken) left
          match childrenFrom registry name t with
          | ⟨.error e u, _⟩ => .error e u
          | ⟨.ok children u, less⟩ => .ok (.node name type children) u (Nat.lt_trans (less _ _ rfl) left)
      else ⟨refuse (.statementEndExpected mark) s'', nofun⟩
termination_by 2 * s.size
decreasing_by omega

/-- Reads the children of a node of the given name, and the brace behind them. -/
def childrenFrom (registry : Registry) (name : String) (s : ParseState) : Read (List Node) s :=
  match seen : peek s with
  | .error e s' => .error e s'
  | .ok token s' =>
    have left := keepsWithin_peek _ _ _ seen
    if token = .endOfInput then ⟨refuse (.unclosedBlock name) s', nofun⟩
    else if token = .closeBlock then
      match taken : next s' with
      | .error e s'' => .error e s''
      | .ok _ s'' => .ok [] s'' (Nat.lt_of_lt_of_le (consumes_next _ _ _ taken) left)
    else
      match nodeFrom registry s' with
      | ⟨.error e s'', _⟩ => .error e s''
      | ⟨.ok n s'', less⟩ =>
        have left := Nat.lt_of_lt_of_le (less _ _ rfl) left
        match childrenFrom registry name s'' with
        | ⟨.error e t, _⟩ => .error e t
        | ⟨.ok ns t, less⟩ => .ok (n :: ns) t (Nat.lt_trans (less _ _ rfl) left)
termination_by 2 * s.size + 1
decreasing_by all_goals omega

end

/-- Reads a node. -/
def node (registry : Registry) : ParseM Node := fun s => (nodeFrom registry s).1

/-- Reads the children of a node of the given name, up to the end of its block. -/
def children (registry : Registry) (name : String) : ParseM (List Node) := fun s => (childrenFrom registry name s).1

/-- **A node** is its head, and then a semicolon, or an opening brace and the children. -/
theorem node_eq (registry : Registry) : node registry = (do
    let (name, type) ← start registry
    let mark ← peek
    if mark = .statementEnd then do
      let _ ← next
      return .node name type []
    else if mark = .openBlock then do
      let _ ← next
      return .node name type (← children registry name)
    else refuse (.statementEndExpected mark)) := by
  funext s
  rw [node, nodeFrom]
  split
  · rename_i begun
    rw [bind_of_error begun]
    rfl
  · rename_i name type s' begun
    rw [bind_of_ok begun]
    simp only
    split
    · rename_i seen
      rw [bind_of_error seen]
      rfl
    · rename_i mark s'' seen
      rw [bind_of_ok seen]
      split
      · split
        · rename_i taken
          rw [bind_of_error taken]
          rfl
        · rename_i taken
          rw [bind_of_ok taken]
          rfl
      split
      · split
        · rename_i taken
          rw [bind_of_error taken]
          rfl
        · rename_i taken
          rw [bind_of_ok taken]
          split
          · rename_i read
            rw [bind_of_error (congrArg Subtype.val read)]
            rfl
          · rename_i read
            rw [bind_of_ok (congrArg Subtype.val read)]
            rfl
      · rfl

/-- The parser looks at the mark behind a head in the same way. -/
lemma node_eq_head (registry : Registry) : node registry = do
    let (name, type) ← head registry
    if ← opensBlock then return .node name type (← children registry name)
    else return .node name type [] := by
  rw [node_eq, start_eq_head]
  funext s
  refine bind_congr_of_ok fun begun s1 _ => ?_
  obtain ⟨name, type⟩ := begun
  simp only [opensBlock, bind_assoc]
  refine bind_congr_of_ok fun mark s2 _ => ?_
  cases mark with
  | openBlock => simp only [reduceCtorEq, if_false, if_true, bind_assoc, pure_bind]
  | statementEnd => simp only [Bool.false_eq_true, if_false, if_true, bind_assoc, pure_bind]
  | _ => rfl

/-- **The children** end at the closing brace. At the end of the input the block is not closed. -/
theorem children_eq (registry : Registry) (name : String) : children registry name = do
    let token ← peek
    if token = .endOfInput then refuse (.unclosedBlock name)
    else if token = .closeBlock then do
      let _ ← next
      return []
    else do
      let n ← node registry
      let ns ← children registry name
      return n :: ns := by
  funext s
  rw [children, childrenFrom]
  split
  · rename_i seen
    rw [bind_of_error seen]
    rfl
  · rename_i token s' seen
    rw [bind_of_ok seen]
    simp only
    split
    · rfl
    split
    · split
      · rename_i taken
        rw [bind_of_error taken]
        rfl
      · rename_i taken
        rw [bind_of_ok taken]
        rfl
    · split
      · rename_i read
        rw [bind_of_error (congrArg Subtype.val read)]
        rfl
      · rename_i read
        rw [bind_of_ok (congrArg Subtype.val read)]
        split
        · rename_i read
          rw [bind_of_error (congrArg Subtype.val read)]
          rfl
        · rename_i read
          rw [bind_of_ok (congrArg Subtype.val read)]
          rfl

/-- Reading a node consumes. -/
lemma consumes_node (registry : Registry) : Consumes ParseState.size (node registry) :=
  fun s => (nodeFrom registry s).2

end Descent

/-! ### The stack as pending calls -/

namespace Parser

variable {registry : Registry}

/-- A task as a computation. -/
def Task.run (registry : Registry) (task : Task) : ParseM Node := perform registry task

/-- Goes on behind a complete node or the beginning of a block. -/
def resume (registry : Registry) : ParseProgress → ParseM Node
  | .complete n => pure n
  | .inside block outer => (Task.leave block outer).run registry

/-- What is left of the calls that a task stands for: the innermost one reads a node, or the other children of its block,
and hands its node over to the block around it. -/
def Task.descent (registry : Registry) : Task → ParseM Node
  | enter blocks => do
    let n ← Descent.node registry
    resume registry (.attach n blocks)
  | leave block outer => do
    let ns ← Descent.children registry block.name
    resume registry (.attach (.node block.name block.type (block.children.reverse ++ ns)) outer)

/-- One step of a task that begins a node. -/
lemma run_enter (registry : Registry) (blocks : List OpenBlock) : (Task.enter blocks).run registry = (do
    let (name, type) ← head registry
    if ← opensBlock then (Task.leave ⟨name, type, []⟩ blocks).run registry
    else resume registry (.attach (.node name type []) blocks)) := by
  have step : (Task.enter blocks).run registry = enter registry blocks >>= resume registry := by
    funext s
    rw [Task.run, perform_enter_eq]
    refine bind_congr_of_ok fun progress s' _ => ?_
    cases progress <;> rfl
  rw [step, enter, bind_assoc]
  funext s
  refine bind_congr_of_ok fun begun s1 _ => ?_
  obtain ⟨name, type⟩ := begun
  simp only [bind_assoc]
  refine bind_congr_of_ok fun opened s2 _ => ?_
  cases opened <;> rfl

/-- One step of a task that goes on with a block. -/
lemma run_leave (registry : Registry) (block : OpenBlock) (outer : List OpenBlock) :
    (Task.leave block outer).run registry = (do
      let token ← peek
      if token = .endOfInput then refuse (.unclosedBlock block.name)
      else if token = .closeBlock then do
        let _ ← next
        resume registry (.attach block.close outer)
      else (Task.enter (block :: outer)).run registry) := by
  have step : (Task.leave block outer).run registry = leave block outer >>= fun
      | none => (Task.enter (block :: outer)).run registry
      | some progress => resume registry progress := by
    funext s
    rw [Task.run, perform_leave_eq]
    refine bind_congr_of_ok fun left s' _ => ?_
    rcases left with _ | _ | _ <;> rfl
  rw [step, leave, bind_assoc]
  funext s
  refine bind_congr_of_ok fun token s1 _ => ?_
  cases token with
  | closeBlock => simp only [reduceCtorEq, if_false, if_true, bind_assoc, pure_bind]
  | _ => rfl

/-- **To perform a task is to carry out the calls that it stands for**, by induction on the tokens that are left. -/
theorem run_eq_descent (registry : Registry) (task : Task) (s : ParseState) :
    task.run registry s = task.descent registry s := by
  match task with
  | .enter blocks =>
      rw [run_enter, Task.descent, Descent.node_eq_head, bind_assoc]
      refine bind_congr_of_ok fun begun s1 read => ?_
      obtain ⟨name, type⟩ := begun
      simp only [bind_assoc]
      refine bind_congr_of_ok fun opened s2 looked => ?_
      cases opened with
      | false => rfl
      | true =>
          have := consumes_head _ _ _ _ read
          have := consumes_opensBlock _ _ _ looked
          have inside := run_eq_descent registry (.leave ⟨name, type, []⟩ blocks) s2
          simpa only [↓reduceIte, bind_assoc, pure_bind, Task.descent, List.reverse_nil, List.nil_append] using inside
  | .leave block outer =>
      rw [run_leave, Task.descent, Descent.children_eq, bind_assoc]
      refine bind_congr_of_ok fun token s1 seen => ?_
      have := keepsWithin_peek _ _ _ seen
      by_cases atEnd : token = .endOfInput
      · rw [if_pos atEnd, if_pos atEnd]
        rfl
      rw [if_neg atEnd, if_neg atEnd]
      by_cases closes : token = .closeBlock
      · rw [if_pos closes, if_pos closes]
        simp only [bind_assoc, pure_bind, List.append_nil, OpenBlock.close]
      -- the other children are a first one and those behind it
      rw [if_neg closes, if_neg closes, run_eq_descent registry (.enter (block :: outer)) s1]
      simp only [Task.descent, bind_assoc, pure_bind]
      refine bind_congr_of_ok fun n s2 read => ?_
      have := Descent.consumes_node registry _ _ _ read
      have behind := run_eq_descent registry (.leave { block with children := n :: block.children } outer) s2
      simpa only [resume, ParseProgress.attach, Task.descent, List.reverse_cons, List.append_assoc,
        List.singleton_append] using behind
termination_by 2 * s.size + task.rank
decreasing_by all_goals simp only [Task.rank]; omega

/-- **The parser is recursive descent.** In every state, whatever the registry and the tokens to come are and however these
end, the parser with its stack comes to what the procedures do that call each other: to the same node or the same
complaint about the same line, with the same tokens taken and the same one looked at. -/
theorem parseNode_eq_descent (registry : Registry) : parseNode registry = Descent.node registry := by
  funext s
  have calls : (Task.enter []).descent registry = Descent.node registry := bind_pure _
  rw [← calls]
  exact run_eq_descent registry (.enter []) s

end Parser

end CommandTree
