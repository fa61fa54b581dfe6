import CommandTree.Proofs.Prompt
import CommandTree.Proofs.Simulation
/-!
Token streams and parsers that proceed alike.

A parser and its resolvers see the tokens through two queries, one that looks at the next token and one that takes it, and
name the line of the lexer when they refuse. A simulation of token streams is a relation that these keep, so that a whole
parse comes to the same. A resolver that looks at the lines of errors may still tell two token streams apart, unless they
are on the same lines. Two parsers may also differ in their registries, as long as the same resolver answers for each
key. Only where the first parse fails in an excused way nothing is said of the other.

* `TokenStream.Simulation` relates token streams that answer alike, `TokenStream.Simulation.States` the parsers;
* `TokenStream.Simulation.Respects`: a resolver answers alike; so do all if lines are kept, and those that are prompt;
* `TokenStream.Simulation.Agree`: two registries name the same claimants, or the first one has none and is excused;
* `peek`, `next` and `hasNext` are the queries, `resolve` the answer of a registry;
* `perform` is the loop of the parser, by induction along the run of the first one;
* `TokenStream.Simulation.parse`: the trees and the complaints are the same, and a tree is read only where an end may be
  met.
-/

namespace CommandTree

/-- A relation between token streams that is kept by what is asked of them, where the first stream may fail in a way that
is excused. Whether the end of the input is ever met is part of the simulation. -/
structure TokenStream.Simulation where
  -- the token streams answer alike
  related : TokenStream → TokenStream → Prop
  -- the errors of the first token stream that the other one need not meet
  excused : TokenError → Prop
  -- whether the end of the input may be met
  ends : Prop
  peek? : ∀ {q q'}, related q q' → Corresponds (fun o q q' => related q q' ∧ (o = some .endOfInput → ends)) related
    excused (Lookahead.peek? Lexer.producer q) (Lookahead.peek? Lexer.producer q')
  next? : ∀ {q q'}, related q q' → Corresponds (fun _ q q' => related q q' ∧ True) related excused
    (Lookahead.next? Lexer.producer q) (Lookahead.next? Lexer.producer q')
  refusal : ∀ {q q'}, related q q' → ∀ complaint cause, q.errorAt complaint cause = q'.errorAt complaint cause ∨
    excused (.failed (.parse (q.errorAt complaint cause)))

namespace TokenStream.Simulation

variable {sim : Simulation} {α β : Type}

/-! ### Queries -/

/-- Two computations on tokens answer the same, of which something is known. -/
abbrev Answers (sim : Simulation) (known : α → Prop) :
    EStateM.Result TokenError TokenStream α → EStateM.Result TokenError TokenStream α → Prop :=
  Corresponds (fun a q q' => sim.related q q' ∧ known a) sim.related sim.excused

variable {q q' : TokenStream} {known : α → Prop}

/-- A refusal is the same. -/
lemma refuse (h : sim.related q q') (complaint : Complaint) (cause : Option Cause) :
    sim.Answers known (TokenStream.refuse complaint cause q) (TokenStream.refuse complaint cause q') := by
  have refuses (q : TokenStream) : TokenStream.refuse complaint cause q =
      (.error (.failed (.parse (q.errorAt complaint cause))) q : EStateM.Result TokenError TokenStream α) := rfl
  rw [refuses, refuses]
  rcases sim.refusal h complaint cause with same | excused
  · rw [same]
    exact .error h
  · exact .excused excused

/-- There is a next token for both or for neither. -/
lemma hasNext (h : sim.related q q') :
    sim.Answers (fun _ => True) (TokenStream.hasNext q) (TokenStream.hasNext q') :=
  (sim.peek? h).bind fun _ _ _ _ behind => .ok ⟨behind.1, trivial⟩

/-- The next token is looked at, which is the end of the input only where an end may be met. -/
lemma peek (h : sim.related q q') :
    sim.Answers (fun t => t = .endOfInput → sim.ends) (TokenStream.peek q) (TokenStream.peek q') := by
  refine (sim.peek? h).bind fun o _ _ _ behind => ?_
  obtain ⟨related, atEnd⟩ := behind
  cases o with
  | none => exact .error related
  | some t => exact .ok ⟨related, fun same => atEnd (congrArg some same)⟩

/-- The next token is taken. -/
lemma next (h : sim.related q q') : sim.Answers (fun _ => True) (TokenStream.next q) (TokenStream.next q') := by
  refine (sim.next? h).bind fun o _ _ _ behind => ?_
  cases o with
  | none => exact .error behind.1
  | some t => exact .ok behind

/-! ### Resolvers -/

/-- Related token streams are on the same line. -/
def KeepsLines (sim : Simulation) : Prop := ∀ q q' : TokenStream, sim.related q q' → q.line = q'.line

/-- Requests are carried out alike, if lines are kept or if no error is looked at. -/
lemma follow {r : Request} (fits : sim.KeepsLines ∨ r.IsPrompt) (made : List ParseError) (h : sim.related q q') :
    sim.Answers (fun _ => True) (r.follow made q) (r.follow made q') := by
  induction r generalizing made q q' with
  | answer type => exact .ok ⟨h, trivial⟩
  | raise e => exact .error h
  | create complaint cause next ih =>
      rcases fits with lines | rfl
      · have same : q.errorAt complaint cause = q'.errorAt complaint cause := by
          rw [TokenStream.errorAt, TokenStream.errorAt, lines _ _ h]
        have created : sim.Answers (fun _ => True) (TokenStream.create complaint cause q)
            (TokenStream.create complaint cause q') := by
          rw [TokenStream.create, TokenStream.create, same]
          exact .ok ⟨h, trivial⟩
        exact created.bind fun e _ _ _ behind => ih e (.inl lines) _ behind.1
      · exact sim.refuse h complaint cause
  | hasNext _ ih => exact (sim.hasNext h).bind fun b _ _ _ behind => ih b (fits.imp id (· b)) made behind.1
  | peek _ ih => exact (sim.peek h).bind fun t _ _ _ behind => ih t (fits.imp id (· t)) made behind.1
  | take => exact .ok ⟨h, trivial⟩

/-- A resolver gives the same answer, by induction on the tokens that are left. One that looks at no error has none in its
hands. -/
lemma resolveFrom {r : Resolver} (space name : String) (taken : List Token) {made : List ParseError}
    (fits : sim.KeepsLines ∨ r.IsPrompt ∧ made = []) {q q' : TokenStream} (h : sim.related q q') :
    sim.Answers (fun _ => True) (r.resolveFrom space name taken made q) (r.resolveFrom space name taken made q') := by
  have request : sim.KeepsLines ∨ (r.request space name taken made).IsPrompt := by
    rcases fits with lines | ⟨prompt, rfl⟩
    · exact .inl lines
    · exact .inr (prompt space name taken)
  rw [Resolver.resolveFrom_eq, Resolver.resolveFrom_eq r space name taken made q']
  refine (sim.follow request made h).bind fun o q1 q1' followed behind => ?_
  cases o with
  | inl type => exact .ok behind
  | inr made' =>
      refine (sim.next behind.1).bind fun token q2 q2' took behind' => ?_
      have less : q2.size < q.size := Nat.lt_of_lt_of_le (TokenStream.consumes_next _ _ _ took)
        (Request.keepsWithin_follow _ _ _ _ _ followed)
      refine resolveFrom space name (taken ++ [token]) ?_ behind'.1
      rcases fits with lines | ⟨prompt, rfl⟩
      · exact .inl lines
      · exact .inr ⟨prompt, Request.made_of_follow (prompt space name taken) followed⟩
termination_by q.size

/-- A resolver gives the same answer for a key. -/
def Respects (sim : Simulation) (r : Resolver) (space name : String) : Prop :=
  ∀ q q' : TokenStream, sim.related q q' →
    sim.Answers (fun _ => True) (r.resolve space name q) (r.resolve space name q')

/-- Where lines are kept every resolver answers alike. -/
lemma KeepsLines.respects (lines : sim.KeepsLines) (r : Resolver) (space name : String) : sim.Respects r space name :=
  fun _ _ h => sim.resolveFrom space name [] (.inl lines) h

/-- A prompt resolver answers alike. -/
lemma respects_of_isPrompt {r : Resolver} (prompt : r.IsPrompt) (space name : String) : sim.Respects r space name :=
  fun _ _ h => sim.resolveFrom space name [] (.inr ⟨prompt, rfl⟩) h

/-! ### Registries -/

/-- Two registries name the same claimant of each key, and it answers alike. Where the first one has none the other one
may, if it is excused that the first one does not know the key. -/
def Agree (sim : Simulation) (registry registry' : Registry) : Prop :=
  ∀ space name,
    (registry.claimant? space name = registry'.claimant? space name ∧
      ∀ r ∈ registry.claimant? space name, sim.Respects r space name) ∨
    (registry.claimant? space name = none ∧
      ∀ line, sim.excused (.failed (.parse ⟨.unknownType space name, line, none⟩)))

lemma KeepsLines.agree_refl (lines : sim.KeepsLines) (registry : Registry) : sim.Agree registry registry :=
  fun space name => .inl ⟨rfl, fun r _ => lines.respects r space name⟩

variable {registry registry' : Registry}

/-- Registries that name the same claimant give the same answer. -/
lemma resolve {space name : String} (same : registry.claimant? space name = registry'.claimant? space name)
    (respects : ∀ r ∈ registry.claimant? space name, sim.Respects r space name) (h : sim.related q q') :
    sim.Answers (fun _ => True) (registry.resolve space name q) (registry'.resolve space name q') := by
  unfold Registry.resolve
  rw [← same]
  cases claims : registry.claimant? space name with
  | some resolver => exact respects resolver claims _ _ h
  | none => exact sim.refuse h _ _

/-! ### Parsers -/

/-- Two parsers go on alike, and have found the same resolvers. -/
structure States (sim : Simulation) (s s' : ParseState) : Prop where
  tokens : sim.related s.tokens s'.tokens
  resolutions : s.resolutions = s'.resolutions

/-- Two computations of the parser come to the same, of which something is known. -/
abbrev Parses (sim : Simulation) (known : α → Prop) :
    EStateM.Result TokenError ParseState α → EStateM.Result TokenError ParseState α → Prop :=
  Corresponds (fun a s s' => sim.States s s' ∧ known a) sim.States sim.excused

variable {s s' : ParseState}

/-- Computations on tokens come to the same in a parser. -/
lemma onTokens {m m' : TokenM α} (h : sim.States s s') (answers : sim.Answers known (m s.tokens) (m' s'.tokens)) :
    sim.Parses known (Parser.onTokens m s) (Parser.onTokens m' s') := by
  unfold Parser.onTokens
  generalize m s.tokens = r at answers
  generalize m' s'.tokens = r' at answers
  cases answers with
  | ok behind => exact .ok ⟨⟨behind.1, h.resolutions⟩, behind.2⟩
  | error stopped => exact .error ⟨stopped, h.resolutions⟩
  | excused h => exact .excused h

/-- The parser complains of the same line. -/
lemma complains (h : sim.States s s') (complaint : Complaint) :
    sim.Parses known (Parser.refuse complaint s) (Parser.refuse complaint s') :=
  sim.onTokens h (sim.refuse h.tokens complaint none)

lemma peekToken (h : sim.States s s') :
    sim.Parses (fun t => t = .endOfInput → sim.ends) (Parser.peek s) (Parser.peek s') :=
  sim.onTokens h (sim.peek h.tokens)

lemma nextToken (h : sim.States s s') : sim.Parses (fun _ => True) (Parser.next s) (Parser.next s') :=
  sim.onTokens h (sim.next h.tokens)

/-- The same claimant is recorded. -/
lemma recordClaimant {space name : String} (same : registry.claimant? space name = registry'.claimant? space name)
    (h : sim.States s s') :
    sim.Parses (fun _ => True) (Parser.recordClaimant registry space name s)
      (Parser.recordClaimant registry' space name s') := by
  unfold Parser.recordClaimant
  rw [← same]
  cases registry.claimant? space name with
  | none => exact .ok ⟨h, trivial⟩
  | some resolver => exact .ok ⟨⟨h.tokens, congrArg (_ :: ·) h.resolutions⟩, trivial⟩

/-- Type references mean the same, or the first registry does not know one and is excused. -/
lemma argumentType (agree : sim.Agree registry registry') (key : String) (h : sim.States s s') :
    sim.Parses (fun _ => True) (Parser.argumentType registry key s) (Parser.argumentType registry' key s') := by
  unfold Parser.argumentType
  cases Parser.splitKey? key with
  | none => exact sim.complains h _
  | some parts =>
      obtain ⟨space, name⟩ := parts
      rcases agree space name with ⟨same, respects⟩ | ⟨unclaimed, excused⟩
      · refine (sim.recordClaimant same h).bind fun _ _ _ _ behind => ?_
        exact sim.onTokens behind.1 (sim.resolve same respects behind.1.tokens)
      · -- nothing is recorded for a key without a claimant, and then the key is refused
        have refused : (Parser.recordClaimant registry space name >>= fun _ =>
            Parser.onTokens (registry.resolve space name)) s =
              .error (.failed (.parse ⟨.unknownType space name, s.line, none⟩)) s := by
          simp only [Parser.recordClaimant, Registry.resolve, unclaimed]
          rfl
        simp only [refused]
        exact .excused (excused _)

/-- The heads of nodes are the same. -/
lemma head (agree : sim.Agree registry registry') (h : sim.States s s') :
    sim.Parses (fun _ => True) (Parser.head registry s) (Parser.head registry' s') := by
  refine (sim.nextToken h).bind fun token _ _ _ behind => ?_
  cases token with
  | string name =>
      refine (sim.peekToken behind.1).bind fun following _ _ _ behind => ?_
      cases following with
      | string key =>
          exact (sim.nextToken behind.1).bind fun _ _ _ _ behind =>
            (sim.argumentType agree key behind.1).bind fun _ _ _ _ behind => .ok ⟨behind.1, trivial⟩
      | openBlock => exact .ok ⟨behind.1, trivial⟩
      | closeBlock => exact .ok ⟨behind.1, trivial⟩
      | statementEnd => exact .ok ⟨behind.1, trivial⟩
      | endOfInput => exact .ok ⟨behind.1, trivial⟩
  | openBlock => exact sim.complains behind.1 _
  | closeBlock => exact sim.complains behind.1 _
  | statementEnd => exact sim.complains behind.1 _
  | endOfInput => exact sim.complains behind.1 _

/-- Blocks are opened alike. -/
lemma opensBlock (h : sim.States s s') :
    sim.Parses (fun _ => True) (Parser.opensBlock s) (Parser.opensBlock s') := by
  refine (sim.peekToken h).bind fun token _ _ _ behind => ?_
  cases token with
  | openBlock => exact (sim.nextToken behind.1).bind fun _ _ _ _ behind => .ok ⟨behind.1, trivial⟩
  | statementEnd => exact (sim.nextToken behind.1).bind fun _ _ _ _ behind => .ok ⟨behind.1, trivial⟩
  | string => exact sim.complains behind.1 _
  | closeBlock => exact sim.complains behind.1 _
  | endOfInput => exact sim.complains behind.1 _

/-- Nodes are begun alike. -/
lemma enter (agree : sim.Agree registry registry') (blocks : List OpenBlock) (h : sim.States s s') :
    sim.Parses (fun _ => True) (Parser.enter registry blocks s) (Parser.enter registry' blocks s') := by
  refine (sim.head agree h).bind fun (name, type) _ _ _ behind => ?_
  refine (sim.opensBlock behind.1).bind fun opened _ _ _ behind => ?_
  cases opened with
  | true => exact .ok ⟨behind.1, trivial⟩
  | false => exact .ok ⟨behind.1, trivial⟩

/-- Blocks are closed alike. -/
lemma leave (block : OpenBlock) (outer : List OpenBlock) (h : sim.States s s') :
    sim.Parses (fun _ => True) (Parser.leave block outer s) (Parser.leave block outer s') := by
  refine (sim.peekToken h).bind fun token _ _ _ behind => ?_
  cases token with
  | endOfInput => exact sim.complains behind.1 _
  | closeBlock => exact (sim.nextToken behind.1).bind fun _ _ _ _ behind => .ok ⟨behind.1, trivial⟩
  | string => exact .ok ⟨behind.1, trivial⟩
  | openBlock => exact .ok ⟨behind.1, trivial⟩
  | statementEnd => exact .ok ⟨behind.1, trivial⟩

/-- **Tasks are performed alike**, by induction on the tokens that are left. -/
theorem perform (agree : sim.Agree registry registry') (task : Parser.Task) {s s' : ParseState} (h : sim.States s s') :
    sim.Parses (fun _ => True) (Parser.perform registry task s) (Parser.perform registry' task s') := by
  cases task with
  | enter blocks =>
      rw [Parser.perform_enter_eq, Parser.perform_enter_eq registry' blocks s']
      refine (sim.enter agree blocks h).bind fun progress t t' entered behind => ?_
      have less := Parser.consumes_enter registry blocks _ _ _ entered
      cases progress with
      | complete n => exact .ok ⟨behind.1, trivial⟩
      | inside block outer => exact perform agree (.leave block outer) behind.1
  | leave block outer =>
      rw [Parser.perform_leave_eq, Parser.perform_leave_eq registry' block outer s']
      refine (sim.leave block outer h).bind fun found t t' left behind => ?_
      have size := Parser.size_leave left
      match found with
      | none => exact perform agree (.enter (block :: outer)) behind.1
      | some (.complete n) => exact .ok ⟨behind.1, trivial⟩
      | some (.inside block outer) => exact perform agree (.leave block outer) behind.1
termination_by 2 * s.size + task.rank
decreasing_by
  · simp only [Parser.Task.rank]
    omega
  · simp only [Parser.Task.rank]
    have := size.1
    omega
  · simp only [Parser.Task.rank]
    have := size.2 rfl
    omega

/-- **Files are parsed alike**: the trees are the same, or the errors are, unless the first parser is excused. A tree is
read only where an end may be met. -/
theorem parse (agree : sim.Agree registry registry') (h : sim.States s s') :
    sim.Parses (fun _ => sim.ends) (Parser.parse registry s) (Parser.parse registry' s') := by
  refine (sim.perform agree (.enter []) h).bind fun root _ _ _ behind => ?_
  cases root.isLiteral with
  | false => exact sim.complains behind.1 .argumentRoot
  | true =>
      refine (sim.peekToken behind.1).bind fun token _ _ _ behind => ?_
      cases token with
      | endOfInput => exact .ok ⟨behind.1, behind.2 rfl⟩
      | string => exact sim.complains behind.1 _
      | openBlock => exact sim.complains behind.1 _
      | closeBlock => exact sim.complains behind.1 _
      | statementEnd => exact sim.complains behind.1 _

end TokenStream.Simulation

end CommandTree
