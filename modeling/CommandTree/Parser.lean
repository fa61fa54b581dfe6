import CommandTree.Node
import CommandTree.Registry
/-!
The parser of command files.

A file is one node and the end of the input. A node is a name, for an argument a type reference with its parameters,
and then a semicolon or a block of nodes between braces. The nodes whose blocks are open are kept on a stack,
innermost first, so nesting is bounded by memory alone. The first complaint ends the parse.

* `Parser.splitKey?` takes a type reference apart;
* `Parser.enter` reads a node up to its semicolon or opening brace, `Parser.leave` looks for the brace that closes a
  block;
* `Parser.parseNode` goes on with these until the first node is complete;
* `Parser.parse` also demands a literal and the end of the input.
-/

namespace CommandTree

/-! ### States -/

/-- A type reference for which a resolver was found, and how the resolver is named. -/
structure Resolution where
  space : String
  name : String
  resolver : String
  deriving DecidableEq, Repr

/-- The tokens to come, and a record of the resolvers found, the last one first. -/
structure ParseState where
  tokens : TokenStream
  resolutions : List Resolution

namespace ParseState

/-- The state before the first token of a stream. -/
def ofStream (stream : CharStream) : ParseState := ⟨.ofStream stream, []⟩

/-- The line that the lexer has reached. -/
def line (s : ParseState) : Nat := s.tokens.line

/-- How many tokens are left at most. -/
def size (s : ParseState) : Nat := s.tokens.size

end ParseState

/-- A computation of the parser. -/
abbrev ParseM (α : Type) : Type := EStateM TokenError ParseState α

/-- A node whose block is open. -/
structure OpenBlock where
  name : String
  type : Option ArgumentType
  -- the children read so far, the last one first
  children : List Node

/-- The node that an open block becomes when it is closed. -/
def OpenBlock.close (b : OpenBlock) : Node := .node b.name b.type b.children.reverse

/-- How far a parse has come after a node or a block is complete. -/
inductive ParseProgress where
  | complete (n : Node)
  | inside (block : OpenBlock) (outer : List OpenBlock)

/-- Adds a complete node to the innermost open block, if there is one. -/
def ParseProgress.attach (n : Node) : List OpenBlock → ParseProgress
  | [] => complete n
  | block :: outer => inside { block with children := n :: block.children } outer

namespace Parser

/-! ### Tokens -/

/-- A computation on the tokens as one of the parser. -/
def onTokens {α : Type} (m : TokenM α) : ParseM α := fun s =>
  match m s.tokens with
  | .ok a ts => .ok a { s with tokens := ts }
  | .error e ts => .error e { s with tokens := ts }

/-- The next token, which stays in place. -/
def peek : ParseM Token := onTokens TokenStream.peek

/-- Takes the next token. -/
def next : ParseM Token := onTokens TokenStream.next

/-- Fails at the line that the lexer has reached. -/
def refuse {α : Type} (complaint : Complaint) : ParseM α := onTokens (TokenStream.refuse complaint none)

/-- Records that a resolver was found. -/
def record (r : Resolution) : ParseM Unit := fun s => .ok () { s with resolutions := r :: s.resolutions }

/-! ### Parts of nodes -/

/-- The two parts of a type reference: neither is empty, and there is no further colon. -/
def splitKey? (key : String) : Option (String × String) :=
  let space := key.toList.takeWhile (· ≠ ':')
  let name := (key.toList.dropWhile (· ≠ ':')).drop 1
  if space ≠ [] ∧ name ≠ [] ∧ ':' ∉ name then some (.ofList space, .ofList name) else none

/-- Records which resolver claims a key, if there is one. -/
def recordClaimant (registry : Registry) (space name : String) : ParseM Unit :=
  match registry.claimant? space name with
  | none => pure ()
  | some resolver => record ⟨space, name, resolver.display⟩

/-- The argument type of a type reference, with the parameters behind it. -/
def argumentType (registry : Registry) (key : String) : ParseM ArgumentType :=
  match splitKey? key with
  | none => refuse (.invalidKey key)
  | some (space, name) => do
    recordClaimant registry space name
    onTokens (registry.resolve space name)

/-- The name of a node and, for an argument, its type. -/
def head (registry : Registry) : ParseM (String × Option ArgumentType) := do
  match ← next with
  | .string name =>
    match ← peek with
    | .string key => do
      let _ ← next
      let type ← argumentType registry key
      return (name, some type)
    | _ => return (name, none)
  | token => refuse (.nameExpected token)

/-- What follows the head of a node: whether a block is opened. -/
def opensBlock : ParseM Bool := do
  match ← peek with
  | .openBlock => do
    let _ ← next
    return true
  | .statementEnd => do
    let _ ← next
    return false
  | token => refuse (.statementEndExpected token)

/-! ### Nodes -/

/-- Reads a node up to its semicolon or opening brace. -/
def enter (registry : Registry) (blocks : List OpenBlock) : ParseM ParseProgress := do
  let (name, type) ← head registry
  if ← opensBlock then return .inside ⟨name, type, []⟩ blocks
  else return .attach (.node name type []) blocks

/-- Reads the brace that closes a block, if it comes next. -/
def leave (block : OpenBlock) (outer : List OpenBlock) : ParseM (Option ParseProgress) := do
  match ← peek with
  | .endOfInput => refuse (.unclosedBlock block.name)
  | .closeBlock => do
    let _ ← next
    return some (.attach block.close outer)
  | _ => return none

/-! ### Parsing uses the tokens up -/

/-- A computation on the tokens keeps within them as it does alone. -/
theorem keepsWithin_onTokens {α : Type} {m : TokenM α} (h : KeepsWithin TokenStream.size m) :
    KeepsWithin ParseState.size (onTokens m) := by
  intro s a s' run
  unfold onTokens at run
  split at run
  · rename_i done
    cases run
    exact h _ _ _ done
  · cases run

/-- A computation on the tokens consumes them as it does alone. -/
theorem consumes_onTokens {α : Type} {m : TokenM α} (h : Consumes TokenStream.size m) :
    Consumes ParseState.size (onTokens m) := by
  intro s a s' run
  unfold onTokens at run
  split at run
  · rename_i done
    cases run
    exact h _ _ _ done
  · cases run

/-- Looking at a token keeps. -/
theorem keepsWithin_peek : KeepsWithin ParseState.size peek :=
  keepsWithin_onTokens TokenStream.keepsWithin_peek

/-- Taking a token consumes. -/
theorem consumes_next : Consumes ParseState.size next := consumes_onTokens TokenStream.consumes_next

/-- Refusing consumes, for want of successful runs. -/
theorem consumes_refuse {α : Type} (complaint : Complaint) :
    Consumes ParseState.size (refuse complaint : ParseM α) :=
  consumes_onTokens (TokenStream.consumes_refuse _ _)

/-- Recording keeps. -/
theorem keepsWithin_record (r : Resolution) : KeepsWithin ParseState.size (record r) := by
  intro s a s' run
  cases run
  exact Nat.le_refl _

/-- Recording a claimant keeps. -/
theorem keepsWithin_recordClaimant (registry : Registry) (space name : String) :
    KeepsWithin ParseState.size (recordClaimant registry space name) := by
  unfold recordClaimant
  split
  · exact .pure _
  · exact keepsWithin_record _

/-- A type reference keeps. -/
theorem keepsWithin_argumentType (registry : Registry) (key : String) :
    KeepsWithin ParseState.size (argumentType registry key) := by
  unfold argumentType
  split
  · exact (consumes_refuse _).keepsWithin
  · exact (keepsWithin_recordClaimant _ _ _).bind fun _ =>
      keepsWithin_onTokens (registry.keepsWithin_resolve _ _)

/-- The head of a node consumes. -/
theorem consumes_head (registry : Registry) : Consumes ParseState.size (head registry) := by
  refine consumes_next.bind_left fun token => ?_
  split
  · refine keepsWithin_peek.bind fun following => ?_
    split
    · exact consumes_next.keepsWithin.bind fun _ => (keepsWithin_argumentType _ _).bind fun _ => .pure _
    · exact .pure _
  · exact (consumes_refuse _).keepsWithin

/-- What follows the head of a node consumes. -/
theorem consumes_opensBlock : Consumes ParseState.size opensBlock := by
  refine Consumes.bind_right keepsWithin_peek fun token => ?_
  split
  · exact consumes_next.bind_left fun _ => .pure _
  · exact consumes_next.bind_left fun _ => .pure _
  · exact consumes_refuse _

/-- Reading a node up to its semicolon or opening brace consumes. -/
theorem consumes_enter (registry : Registry) (blocks : List OpenBlock) :
    Consumes ParseState.size (enter registry blocks) := by
  refine (consumes_head registry).bind_left fun (name, type) => consumes_opensBlock.keepsWithin.bind fun b => ?_
  cases b <;> exact .pure _

/-- Looking for a closing brace keeps, and consumes if it is found. -/
theorem size_leave {block : OpenBlock} {outer : List OpenBlock} {s s' : ParseState} {o : Option ParseProgress}
    (h : leave block outer s = .ok o s') : s'.size ≤ s.size ∧ (o.isSome → s'.size < s.size) := by
  obtain ⟨token, t, peeked, rest⟩ := bind_eq_ok h
  have kept := keepsWithin_peek _ _ _ peeked
  split at rest
  · cases rest
  · obtain ⟨_, u, taken, done⟩ := bind_eq_ok rest
    have used := consumes_next _ _ _ taken
    cases done
    exact ⟨by omega, fun _ => by omega⟩
  · cases rest
    exact ⟨kept, nofun⟩

/-! ### Whole trees -/

/-- What a parse does next. -/
inductive Task where
  | enter (blocks : List OpenBlock)
  | leave (block : OpenBlock) (outer : List OpenBlock)

/-- A task that may be followed by another one before a token is taken comes later. -/
def Task.rank : Task → Nat
  | enter _ => 0
  | leave .. => 1

/-- Goes on with a task until the outermost node is complete. -/
def perform (registry : Registry) (task : Task) (s : ParseState) : EStateM.Result TokenError ParseState Node :=
  match task with
  | .enter blocks =>
    match _entered : enter registry blocks s with
    | .error e s' => .error e s'
    | .ok (.complete n) s' => .ok n s'
    | .ok (.inside block outer) s' => perform registry (.leave block outer) s'
  | .leave block outer =>
    match _left : leave block outer s with
    | .error e s' => .error e s'
    | .ok none s' => perform registry (.enter (block :: outer)) s'
    | .ok (some (.complete n)) s' => .ok n s'
    | .ok (some (.inside block outer)) s' => perform registry (.leave block outer) s'
termination_by 2 * s.size + task.rank
decreasing_by
  · have := consumes_enter _ _ _ _ _ _entered
    simp only [Task.rank]
    omega
  · have := (size_leave _left).1
    simp only [Task.rank]
    omega
  · have := (size_leave _left).2 rfl
    simp only [Task.rank]
    omega

/-- Parses one node with its descendants. -/
def parseNode (registry : Registry) : ParseM Node := perform registry (.enter [])

/-- Parses a literal with its descendants, and the end of the input. -/
def parse (registry : Registry) : ParseM Node := do
  let root ← parseNode registry
  if !root.isLiteral then refuse .argumentRoot
  match ← peek with
  | .endOfInput => return root
  | token => refuse (.endExpected token)

end Parser

end CommandTree
