import CommandTree.Proofs.Prompt
/-!
What the queries of a token stream keep, the parser keeps.

The parser and the resolvers see the tokens through three queries, and name the line of the lexer when they refuse. So
what each query keeps is kept by all of them, and what is known of a query that fails and of a refusal is known of every
error, but for those of resolvers that are not prompt: such a resolver may raise an error that it has kept, or one of its
own. All that is known of these is where they come from.

* `Leaves`: a computation comes to a success in a good state, or to an error of which something is known;
  `Leaves.bind` goes on from it;
* `TokenStream.Invariant` is what the queries keep from the first token on, under a registry;
* `TokenStream.Invariant.resolve` is the answer of a registry, `TokenStream.Invariant.perform` the loop of the parser, by
  induction along its run;
* `TokenStream.Invariant.parse`: so whole files are parsed.
-/

namespace CommandTree

/-! ### Results in good states -/

/-- A computation comes to a success in a good state, or to an error that is accounted for. -/
inductive Leaves {ε σ α : Type} (good : σ → Prop) (known : ε → σ → Prop) : EStateM.Result ε σ α → Prop
  | ok {a : α} {s : σ} (holds : good s) : Leaves good known (.ok a s)
  | error {e : ε} {s : σ} (accounts : known e s) : Leaves good known (.error e s)

namespace Leaves

variable {ε σ α β : Type} {good goal : σ → Prop} {known : ε → σ → Prop}

/-- A sequence leaves what its second part leaves behind its first. -/
lemma bind {m : EStateM ε σ α} {k : α → EStateM ε σ β} {s : σ} (first : Leaves good known (m s))
    (second : ∀ a t, good t → Leaves goal known (k a t)) : Leaves goal known ((m >>= k) s) := by
  simp only [Bind.bind, EStateM.bind]
  generalize m s = r at first
  cases first with
  | ok holds => exact second _ _ holds
  | error accounts => exact .error accounts

lemma mono {known' : ε → σ → Prop} {r : EStateM.Result ε σ α} (h : Leaves good known r)
    (more : ∀ e s, known e s → known' e s) : Leaves good known' r := by
  cases h with
  | ok holds => exact .ok holds
  | error accounts => exact .error (more _ _ accounts)

lemma of_ok {a : α} {s : σ} (h : Leaves good known (.ok a s)) : good s := by
  cases h with
  | ok holds => exact holds

lemma of_error {e : ε} {s : σ} (h : Leaves good known (.error e s : EStateM.Result ε σ α)) : known e s := by
  cases h with
  | error accounts => exact accounts

end Leaves

/-! ### Token streams -/

/-- What the queries of a token stream keep from the first token on, and what is known of each error under a registry. -/
structure TokenStream.Invariant (registry : Registry) where
  -- what holds in front of the first token
  begins : TokenStream → Prop
  -- what holds from the first token on
  holds : TokenStream → Prop
  -- what is known of an error and of the token stream behind it
  known : TokenError → TokenStream → Prop
  first : ∀ {q}, begins q → Leaves holds known (TokenStream.next q)
  next : ∀ {q}, holds q → Leaves holds known (TokenStream.next q)
  peek : ∀ {q}, holds q → Leaves holds known (TokenStream.peek q)
  hasNext : ∀ {q}, holds q → Leaves holds known (TokenStream.hasNext q)
  refuse : ∀ {q}, holds q → ∀ complaint cause, known (.failed (.parse (q.errorAt complaint cause))) q
  -- a resolver that is not prompt may raise any error
  resolve : ∀ {q q' space name r e}, holds q → registry.claimant? space name = some r → ¬ r.IsPrompt →
    r.resolve space name q = .error e q' → known e q'

namespace TokenStream.Invariant

variable {registry : Registry} {inv : Invariant registry} {α : Type} {q : TokenStream} {s : ParseState}

/-! ### Resolvers -/

/-- Requests keep the invariant, and if a request is prompt, its error is known. -/
lemma follow (r : Request) (made : List ParseError) (h : inv.holds q) :
    Leaves inv.holds (fun e q' => r.IsPrompt → inv.known e q') (r.follow made q) := by
  induction r generalizing q made with
  | answer type => exact .ok h
  | raise => exact .error nofun
  | create complaint cause next ih =>
      by_cases prompt : next = .raise
      · subst prompt
        exact .error fun _ => inv.refuse h complaint cause
      · exact (ih (q.errorAt complaint cause) _ h).mono fun _ _ _ same => absurd same prompt
  | hasNext _ ih =>
      refine ((inv.hasNext h).mono fun _ _ known _ => known).bind fun b _ h => ?_
      exact (ih b made h).mono fun _ _ known prompt => known (prompt b)
  | peek _ ih =>
      refine ((inv.peek h).mono fun _ _ known _ => known).bind fun t _ h => ?_
      exact (ih t made h).mono fun _ _ known prompt => known (prompt t)
  | take => exact .ok h

/-- A resolver keeps the invariant, by induction along its run. If it is prompt, it has never an error in its hands, and the
one that it ends with is known. -/
lemma resolveFrom (r : Resolver) (space name : String) (taken : List Token) (made : List ParseError) (h : inv.holds q) :
    Leaves inv.holds (fun e q' => r.IsPrompt → made = [] → inv.known e q') (r.resolveFrom space name taken made q) := by
  fun_induction Resolver.resolveFrom r space name taken made q with
  | case1 taken made q e q' followed =>
      have known := (followed ▸ inv.follow (r.request space name taken made) made h).of_error
      refine .error fun prompt none => ?_
      subst none
      exact known (prompt space name taken)
  | case2 taken made q type q' followed =>
      exact .ok (followed ▸ inv.follow (r.request space name taken made) made h).of_ok
  | case3 taken made q made' q' followed e q'' took =>
      have behind : inv.holds q' := (followed ▸ inv.follow (r.request space name taken made) made h).of_ok
      exact .error fun _ _ => (took ▸ inv.next behind).of_error
  | case4 taken made q made' q' followed token q'' took ih =>
      have behind : inv.holds q' := (followed ▸ inv.follow (r.request space name taken made) made h).of_ok
      refine (ih (took ▸ inv.next behind).of_ok).mono fun _ _ known prompt none => known prompt ?_
      subst none
      exact Request.made_of_follow (prompt space name taken) followed

/-- A registry keeps the invariant, and what it ends with is known, or the error of a resolver that is not prompt. -/
lemma onRegistry (inv : Invariant registry) (space name : String) (h : inv.holds q) :
    Leaves inv.holds inv.known (registry.resolve space name q) := by
  unfold Registry.resolve
  cases claims : registry.claimant? space name with
  | none => exact .error (inv.refuse h _ _)
  | some r =>
      have leaves : Leaves inv.holds (fun e q' => r.IsPrompt → inv.known e q') (r.resolve space name q) :=
        (inv.resolveFrom r space name [] [] h).mono fun _ _ known prompt => known prompt rfl
      change Leaves inv.holds inv.known (r.resolve space name q)
      generalize resolved : r.resolve space name q = result at leaves ⊢
      cases leaves with
      | ok holds => exact .ok holds
      | error known =>
          by_cases prompt : r.IsPrompt
          · exact .error (known prompt)
          · exact .error (inv.resolve h claims prompt resolved)

/-! ### The parser -/

/-- The tokens of a parser are as the invariant says. -/
def Holds (inv : Invariant registry) (s : ParseState) : Prop := inv.holds s.tokens

/-- What is known of an error of the parser. -/
def Known (inv : Invariant registry) (e : TokenError) (s : ParseState) : Prop := inv.known e s.tokens

/-- Computations on tokens keep in a parser what they keep alone. -/
lemma onTokens {m : TokenM α} (h : Leaves inv.holds inv.known (m s.tokens)) :
    Leaves inv.Holds inv.Known (Parser.onTokens m s) := by
  unfold Parser.onTokens
  generalize m s.tokens = r at h
  cases h with
  | ok holds => exact .ok holds
  | error accounts => exact .error accounts

lemma complains (h : inv.Holds s) (complaint : Complaint) :
    Leaves inv.Holds inv.Known (Parser.refuse complaint s : EStateM.Result TokenError ParseState α) :=
  inv.onTokens (.error (inv.refuse h complaint none))

/-- Recording a claimant touches no token. -/
lemma recordClaimant (space name : String) (h : inv.Holds s) :
    Leaves inv.Holds inv.Known (Parser.recordClaimant registry space name s) := by
  unfold Parser.recordClaimant
  cases registry.claimant? space name with
  | none => exact .ok h
  | some resolver => exact .ok h

/-- Type references keep the invariant. -/
lemma argumentType (key : String) (h : inv.Holds s) :
    Leaves inv.Holds inv.Known (Parser.argumentType registry key s) := by
  unfold Parser.argumentType
  cases Parser.splitKey? key with
  | none => exact inv.complains h _
  | some parts => exact (inv.recordClaimant _ _ h).bind fun _ _ h => inv.onTokens (inv.onRegistry _ _ h)

/-- The head of a node is read from its first token on. -/
lemma head (first : Leaves inv.holds inv.known (TokenStream.next s.tokens)) :
    Leaves inv.Holds inv.Known (Parser.head registry s) := by
  refine Leaves.bind (inv.onTokens first) fun token _ h => ?_
  split
  · refine (inv.onTokens (inv.peek h)).bind fun following _ h => ?_
    split
    · exact (inv.onTokens (inv.next h)).bind fun _ _ h => (inv.argumentType _ h).bind fun _ _ h => .ok h
    · exact .ok h
  · exact inv.complains h _

/-- What follows a head keeps the invariant. -/
lemma opensBlock (h : inv.Holds s) : Leaves inv.Holds inv.Known (Parser.opensBlock s) := by
  refine Leaves.bind (inv.onTokens (inv.peek h)) fun token _ h => ?_
  split
  · exact (inv.onTokens (inv.next h)).bind fun _ _ h => .ok h
  · exact (inv.onTokens (inv.next h)).bind fun _ _ h => .ok h
  · exact inv.complains h _

/-- A node is begun from its first token on. -/
lemma enter (blocks : List OpenBlock)
    (first : Leaves inv.holds inv.known (TokenStream.next s.tokens)) :
    Leaves inv.Holds inv.Known (Parser.enter registry blocks s) := by
  refine (inv.head first).bind fun (name, type) _ h => (inv.opensBlock h).bind fun opened _ h => ?_
  cases opened with
  | true => exact .ok h
  | false => exact .ok h

/-- Closing blocks keeps the invariant. -/
lemma leave (block : OpenBlock) (outer : List OpenBlock) (h : inv.Holds s) :
    Leaves inv.Holds inv.Known (Parser.leave block outer s) := by
  refine Leaves.bind (inv.onTokens (inv.peek h)) fun token _ h => ?_
  split
  · exact inv.complains h _
  · exact (inv.onTokens (inv.next h)).bind fun _ _ h => .ok h
  · exact .ok h

/-- What a task begins with: a first token to be taken, or a token to be looked at. -/
def Meets (inv : Invariant registry) (s : ParseState) : Parser.Task → Prop
  | .enter _ => Leaves inv.holds inv.known (TokenStream.next s.tokens)
  | .leave .. => inv.Holds s

/-- **Tasks keep the invariant**, by induction along their run. -/
theorem perform {task : Parser.Task} (h : inv.Meets s task) :
    Leaves inv.Holds inv.Known (Parser.perform registry task s) := by
  fun_induction Parser.perform registry task s with
  | case1 s blocks e s' entered => exact .error (entered ▸ inv.enter blocks h).of_error
  | case2 s blocks n s' entered => exact .ok (entered ▸ inv.enter blocks h).of_ok
  | case3 s blocks block outer s' entered ih => exact ih (entered ▸ inv.enter blocks h).of_ok
  | case4 s block outer e s' left => exact .error (left ▸ inv.leave block outer h).of_error
  | case5 s block outer s' left ih =>
      have behind : inv.Holds s' := (left ▸ inv.leave block outer h).of_ok
      exact ih (inv.next behind)
  | case6 s block outer n s' left => exact .ok (left ▸ inv.leave block outer h).of_ok
  | case7 s block outer inner outer' s' left ih => exact ih (left ▸ inv.leave block outer h).of_ok

/-- **A file is parsed under the invariant.** -/
theorem parse (h : inv.begins s.tokens) :
    Leaves inv.Holds inv.Known (Parser.parse registry s) := by
  have whole : Leaves inv.Holds inv.Known (Parser.parseNode registry s) := inv.perform (inv.first h)
  refine whole.bind fun root _ h => ?_
  cases root.isLiteral with
  | false => exact inv.complains h .argumentRoot
  | true =>
      refine (inv.onTokens (inv.peek h)).bind fun token _ h => ?_
      split
      · exact .ok h
      · exact inv.complains h _

end TokenStream.Invariant

end CommandTree
