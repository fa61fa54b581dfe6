import CommandTree.CommandLine
import CommandTree.Platform.Standard
import CommandTree.Proofs.Descent
import CommandTree.Proofs.Grammar.Acceptance
import CommandTree.Proofs.Insertion
import CommandTree.Proofs.Preorder
/-!
The order of the names in a source.

A parser takes the tokens of a source from left to right, and the name of a node is the first token that it takes of it.
So the names of a tree, in the order of the walk, stand in its source in this order, whatever the resolvers take.

* `TokenStream.Left` are the tokens that are left to take, and `Parser.Takes` which of them a computation takes;
* `Request.Leads` and `Resolver.Answers` are the tokens that a resolver may take on the way to an answer;
* `Descent.takes_node`: the tokens that are taken of a node are those of the node, with the heads of the registry;
* `Grammar.Divided`: tokens are divided into those of the nodes of the walk; `Grammar.ForestOf.divided`: so are those of
  a tree;
* `Grammar.nameTokens` are the strings that stand behind no other string, and `Grammar.Divided.nameTokens_eq`: these are
  the names, if resolvers take strings alone;
* `Node.walk_in_order`: **all orders of the nodes of a tree are the one of the walk.** A tree may be too deep to be drawn,
  as a chain of nodes is in `Node.not_drawn_chain`.
-/

namespace CommandTree

/-! ### Tokens left to take -/

namespace TokenStream

variable {q q' : TokenStream} {t : Token} {ts : List Token}

/-- These tokens are left to take, and then the end or an error. -/
def Left (q : TokenStream) (ts : List Token) : Prop := ∃ e, q.Yields ts e

/-- Looking at the next token takes none. -/
lemma Left.of_peek? {o : Option Token} (h : q.Left ts) (seen : Lookahead.peek? Lexer.producer q = .ok o q') :
    q'.Left ts ∧ ts.head? = o := by
  obtain ⟨e, yields⟩ := h
  have again := Lookahead.run_of_peek? seen
  have run := Lookahead.run_eq Lexer.producer q
  refine ⟨⟨e, by rw [Yields, Lookahead.Yields, again]; exact yields⟩, ?_⟩
  cases o with
  | none =>
      simp only [Lookahead.next?, seen] at run
      rw [← yields.1, run]
      rfl
  | some t =>
      simp only [Lookahead.next?, seen] at run
      rw [← yields.1, run]
      rfl

lemma Left.of_hasNext {b : Bool} (h : q.Left ts) (run : hasNext q = .ok b q') : q'.Left ts := by
  obtain ⟨o, m, seen, done⟩ := bind_eq_ok run
  cases done
  exact (h.of_peek? seen).1

lemma Left.of_peek (h : q.Left ts) (run : peek q = .ok t q') : q'.Left ts ∧ ts.head? = some t := by
  obtain ⟨o, m, seen, done⟩ := bind_eq_ok run
  cases o with
  | none => cases done
  | some u =>
      cases done
      exact h.of_peek? seen

/-- Taking a token leaves those behind it. -/
lemma Left.of_next (h : q.Left ts) (run : next q = .ok t q') : ∃ us, ts = t :: us ∧ q'.Left us := by
  obtain ⟨o, m, taken, done⟩ := bind_eq_ok run
  cases o with
  | none => cases done
  | some u =>
      cases done
      obtain ⟨e, yields⟩ := h
      have whole := Lookahead.run_eq Lexer.producer q
      simp only [taken] at whole
      rw [Yields, Lookahead.Yields, whole] at yields
      exact ⟨_, yields.1.symm, e, rfl, yields.2⟩

end TokenStream

/-! ### Resolvers -/

/-- What a request may come to, whatever the tokens are and the lines of errors: an answer, or the wish to take a token, with
all errors that have been made by then. -/
inductive Request.Leads : Request → List ParseError → ArgumentType ⊕ List ParseError → Prop
  | answer (type : ArgumentType) (made : List ParseError) : Leads (.answer type) made (.inl type)
  | take (made : List ParseError) : Leads .take made (.inr made)
  | create {complaint : Complaint} {cause : Option Cause} {next : ParseError → Request} {made : List ParseError}
      {o : ArgumentType ⊕ List ParseError} (e : ParseError) (more : Leads (next e) (made ++ [e]) o) :
      Leads (.create complaint cause next) made o
  | hasNext {next : Bool → Request} {made : List ParseError} {o : ArgumentType ⊕ List ParseError} (b : Bool)
      (more : Leads (next b) made o) : Leads (.hasNext next) made o
  | peek {next : Token → Request} {made : List ParseError} {o : ArgumentType ⊕ List ParseError} (t : Token)
      (more : Leads (next t) made o) : Leads (.peek next) made o

/-- A refusal leads nowhere. -/
lemma Request.not_leads_refuse {complaint : Complaint} {cause : Option Cause} {made : List ParseError}
    {o : ArgumentType ⊕ List ParseError} : ¬ (refuse complaint cause).Leads made o := by
  rintro (_ | _ | ⟨_, more⟩)
  cases more

/-- Carrying a request out takes no token. -/
lemma Request.leads_of_follow {r : Request} {q q' : TokenStream} {made : List ParseError}
    {o : ArgumentType ⊕ List ParseError} {ts : List Token} (h : q.Left ts) (run : r.follow made q = .ok o q') :
    r.Leads made o ∧ q'.Left ts := by
  induction r generalizing made q with
  | answer type =>
      cases run
      exact ⟨.answer type made, h⟩
  | raise => cases run
  | create complaint cause next ih =>
      obtain ⟨e, m, created, rest⟩ := bind_eq_ok run
      cases created
      obtain ⟨leads, left⟩ := ih _ h rest
      exact ⟨.create _ leads, left⟩
  | hasNext next ih =>
      obtain ⟨b, m, asked, rest⟩ := bind_eq_ok run
      obtain ⟨leads, left⟩ := ih b (h.of_hasNext asked) rest
      exact ⟨.hasNext b leads, left⟩
  | peek next ih =>
      obtain ⟨t, m, seen, rest⟩ := bind_eq_ok run
      obtain ⟨leads, left⟩ := ih t (h.of_peek seen).1 rest
      exact ⟨.peek t leads, left⟩
  | take =>
      cases run
      exact ⟨.take made, h⟩

namespace Resolver

variable {r : Resolver} {space name : String} {taken ps ts : List Token} {made : List ParseError} {type : ArgumentType}

/-- Behind the tokens taken and the errors made, a resolver may take these tokens and answer with a type. -/
inductive Answers (r : Resolver) (space name : String) :
    (taken : List Token) → (made : List ParseError) → List Token → ArgumentType → Prop
  | answer {taken : List Token} {made : List ParseError} {type : ArgumentType}
      (leads : (r.request space name taken made).Leads made (.inl type)) : Answers r space name taken made [] type
  | take {taken ps : List Token} {made made' : List ParseError} {t : Token} {type : ArgumentType}
      (leads : (r.request space name taken made).Leads made (.inr made'))
      (more : Answers r space name (taken ++ [t]) made' ps type) : Answers r space name taken made (t :: ps) type

/-- A resolver that answers has taken tokens that it may take. -/
lemma exists_answers_of_resolveFrom {q q' : TokenStream} (h : q.Left ts)
    (run : r.resolveFrom space name taken made q = .ok type q') :
    ∃ ps us, ts = ps ++ us ∧ r.Answers space name taken made ps type ∧ q'.Left us := by
  fun_induction resolveFrom r space name taken made q generalizing ts with
  | case1 => cases run
  | case2 taken made q type' q'' followed =>
      cases run
      obtain ⟨leads, left⟩ := Request.leads_of_follow h followed
      exact ⟨[], ts, rfl, .answer leads, left⟩
  | case3 => cases run
  | case4 taken made q made' q'' followed t q''' took ih =>
      obtain ⟨leads, left⟩ := Request.leads_of_follow h followed
      obtain ⟨us, rfl, behind⟩ := left.of_next took
      obtain ⟨ps, vs, rfl, answers, last⟩ := ih behind run
      exact ⟨t :: ps, vs, rfl, .take leads answers, last⟩

/-- A resolver takes nothing but strings on the way to an answer. -/
def TakesStrings (r : Resolver) : Prop :=
  ∀ space name ps type, r.Answers space name [] [] ps type → ∀ t ∈ ps, t.isString = true

end Resolver

/-- The heads of nodes under a registry: a name, and for an argument a type reference with tokens that the first claimant
of its key may take. -/
inductive Registry.Heads (registry : Registry) : String → Option ArgumentType → List Token → Prop
  | literal (name : String) : Heads registry name none [.string name]
  | argument {name key space kind : String} {r : Resolver} {ps : List Token} {type : ArgumentType}
      (parts : Parser.splitKey? key = some (space, kind)) (claims : registry.claimant? space kind = some r)
      (answers : r.Answers space kind [] [] ps type) : Heads registry name (some type) (.string name :: .string key :: ps)

/-! ### The parser -/

namespace Parser

variable {registry : Registry} {s s' : ParseState} {ts : List Token}

lemma tokens_of_onTokens {α : Type} {m : TokenM α} {a : α} (run : onTokens m s = .ok a s') :
    m s.tokens = .ok a s'.tokens := by
  unfold onTokens at run
  split at run
  · rename_i done
    cases run
    exact done
  · cases run

lemma left_of_peek {t : Token} (h : s.tokens.Left ts) (run : peek s = .ok t s') :
    s'.tokens.Left ts ∧ ts.head? = some t :=
  h.of_peek (tokens_of_onTokens run)

lemma left_of_next {t : Token} (h : s.tokens.Left ts) (run : next s = .ok t s') :
    ∃ us, ts = t :: us ∧ s'.tokens.Left us :=
  h.of_next (tokens_of_onTokens run)

/-- A refusal is no success. -/
lemma ne_ok_of_refuse {α : Type} {complaint : Complaint} {a : α} : refuse complaint s ≠ .ok a s' := nofun

/-- Of a type reference the tokens are taken that its resolver takes. -/
lemma takes_argumentType {key : String} {type : ArgumentType} (h : s.tokens.Left ts)
    (run : argumentType registry key s = .ok type s') : ∃ space kind r ps us, splitKey? key = some (space, kind) ∧
      registry.claimant? space kind = some r ∧ r.Answers space kind [] [] ps type ∧ ts = ps ++ us ∧ s'.tokens.Left us := by
  rw [argumentType] at run
  cases parts : splitKey? key with
  | none =>
      rw [parts] at run
      exact absurd run ne_ok_of_refuse
  | some both =>
      obtain ⟨space, kind⟩ := both
      obtain ⟨s1, recorded, same⟩ := recordClaimant_eq_ok registry space kind s
      simp only [parts] at run
      rw [bind_of_ok recorded] at run
      have resolved := tokens_of_onTokens run
      rw [same, Registry.resolve] at resolved
      cases claims : registry.claimant? space kind with
      | none =>
          rw [claims] at resolved
          cases resolved
      | some r =>
          rw [claims] at resolved
          obtain ⟨ps, us, whole, answers, left⟩ := Resolver.exists_answers_of_resolveFrom h resolved
          exact ⟨space, kind, r, ps, us, rfl, claims, answers, whole, left⟩

/-- The tokens that are taken in front of a semicolon or a block are a head. -/
lemma takes_head {found : String × Option ArgumentType} (h : s.tokens.Left ts)
    (run : head registry s = .ok found s') :
    ∃ hd us, ts = hd ++ us ∧ registry.Heads found.1 found.2 hd ∧ s'.tokens.Left us := by
  obtain ⟨first, s1, taken, run⟩ := bind_eq_ok run
  obtain ⟨us, rfl, left1⟩ := left_of_next h taken
  split at run
  · rename_i name
    obtain ⟨second, s2, peeked, run⟩ := bind_eq_ok run
    obtain ⟨left2, ahead⟩ := left_of_peek left1 peeked
    split at run
    · rename_i key
      obtain ⟨again, s3, taken, run⟩ := bind_eq_ok run
      obtain ⟨vs, rfl, left3⟩ := left_of_next left2 taken
      obtain rfl : again = .string key := Option.some.inj ahead
      obtain ⟨type, s4, resolved, done⟩ := bind_eq_ok run
      cases done
      obtain ⟨space, kind, r, ps, ws, parts, claims, answers, rfl, left4⟩ := takes_argumentType left3 resolved
      exact ⟨_, ws, rfl, .argument parts claims answers, left4⟩
    · cases run
      exact ⟨[.string name], us, rfl, .literal name, left2⟩
  · exact absurd run ne_ok_of_refuse

/-- Behind a head a semicolon or an opening brace is taken. -/
lemma takes_opensBlock {opened : Bool} (h : s.tokens.Left ts) (run : opensBlock s = .ok opened s') :
    ∃ us, ts = (if opened then .openBlock else .statementEnd) :: us ∧ s'.tokens.Left us := by
  obtain ⟨t, s1, peeked, run⟩ := bind_eq_ok run
  obtain ⟨left1, ahead⟩ := left_of_peek h peeked
  split at run
  · obtain ⟨again, s2, taken, done⟩ := bind_eq_ok run
    obtain ⟨us, rfl, left2⟩ := left_of_next left1 taken
    cases done
    exact ⟨us, congrArg (· :: us) (Option.some.inj ahead), left2⟩
  · obtain ⟨again, s2, taken, done⟩ := bind_eq_ok run
    obtain ⟨us, rfl, left2⟩ := left_of_next left1 taken
    cases done
    exact ⟨us, congrArg (· :: us) (Option.some.inj ahead), left2⟩
  · exact absurd run ne_ok_of_refuse

/-- A file is a node, and behind it the end of the input is seen. -/
lemma parseNode_of_parse {root : Node} (run : parse registry s = .ok root s') :
    ∃ s1, parseNode registry s = .ok root s1 ∧ peek s1 = .ok .endOfInput s' := by
  obtain ⟨found, s1, read, run⟩ := bind_eq_ok run
  cases literal : found.isLiteral with
  | false =>
      simp only [literal] at run
      cases run
  | true =>
      simp only [literal] at run
      obtain ⟨t, s2, peeked, run⟩ := bind_eq_ok run
      cases t with
      | endOfInput =>
          cases run
          exact ⟨s1, read, peeked⟩
      | _ => cases run

end Parser

namespace Descent

open CommandTree.Parser Grammar

mutual

/-- **The tokens that are taken of a node are those of the node**, with the heads of the registry. The induction is along
the calls of the two procedures. -/
theorem takes_node {registry : Registry} {s s' : ParseState} {ts : List Token} {n : Node} (h : s.tokens.Left ts)
    (run : node registry s = .ok n s') :
    ∃ us vs, ts = us ++ vs ∧ ForestOf registry.Heads us [n] ∧ s'.tokens.Left vs := by
  rw [node_eq_head] at run
  obtain ⟨⟨name, type⟩, s1, begun, run⟩ := bind_eq_ok run
  obtain ⟨hd, us, rfl, head, left1⟩ := takes_head h begun
  obtain ⟨opened, s2, looked, run⟩ := bind_eq_ok run
  obtain ⟨vs, rfl, left2⟩ := takes_opensBlock left1 looked
  cases opened with
  | false =>
      cases run
      exact ⟨hd ++ [.statementEnd], vs, by simp, .leaf head .nil, left2⟩
  | true =>
      obtain ⟨ns, s3, read, done⟩ := bind_eq_ok run
      cases done
      have := consumes_head _ _ _ _ begun
      have := consumes_opensBlock _ _ _ looked
      obtain ⟨us, ws, rfl, inside, left3⟩ := takes_children left2 read
      exact ⟨hd ++ .openBlock :: (us ++ [.closeBlock]), ws, by simp, .block head inside .nil, left3⟩
termination_by 2 * s.size
decreasing_by omega

/-- Of the children of a node their tokens are taken, and the brace behind them. -/
theorem takes_children {registry : Registry} {s s' : ParseState} {ts : List Token} {name : String} {ns : List Node}
    (h : s.tokens.Left ts) (run : children registry name s = .ok ns s') :
    ∃ us vs, ts = us ++ .closeBlock :: vs ∧ ForestOf registry.Heads us ns ∧ s'.tokens.Left vs := by
  rw [children_eq] at run
  obtain ⟨t, s1, seen, run⟩ := bind_eq_ok run
  obtain ⟨left1, ahead⟩ := left_of_peek h seen
  have := keepsWithin_peek _ _ _ seen
  split at run
  · exact absurd run ne_ok_of_refuse
  split at run
  · rename_i closes
    obtain ⟨again, s2, taken, done⟩ := bind_eq_ok run
    obtain ⟨us, rfl, left2⟩ := left_of_next left1 taken
    cases done
    obtain rfl : again = .closeBlock := (Option.some.inj ahead).trans closes
    exact ⟨[], us, rfl, .nil, left2⟩
  · obtain ⟨n, s2, read, run⟩ := bind_eq_ok run
    obtain ⟨us, vs, rfl, first, left2⟩ := takes_node left1 read
    have := consumes_node registry _ _ _ read
    obtain ⟨ms, s3, rest, done⟩ := bind_eq_ok run
    cases done
    obtain ⟨ws, xs, rfl, others, left3⟩ := takes_children left2 rest
    exact ⟨us ++ ws, xs, by simp, first.append others, left3⟩
termination_by 2 * s.size + 1
decreasing_by all_goals omega

end

end Descent

/-! ### Names -/

namespace Grammar

variable {heads : String → Option ArgumentType → List Token → Prop} {ts us : List Token} {ms ns : List Node}

/-- The tokens of some nodes, one node after the other: each has its head, a semicolon or an opening brace, and the
closing braces that stand in front of the next one. -/
inductive Divided (heads : String → Option ArgumentType → List Token → Prop) : List Token → List Node → Prop
  | nil : Divided heads [] []
  | cons {n : Node} {hd ts : List Token} {ns : List Node} {ending : Token} (closings : Nat) (head : heads n.name n.type hd)
      (ends : ending = .statementEnd ∨ ending = .openBlock) (more : Divided heads ts ns) :
      Divided heads (hd ++ ending :: (List.replicate closings .closeBlock ++ ts)) (n :: ns)

/-- Nodes may be put one after the other. -/
lemma Divided.append (h : Divided heads ts ms) (h' : Divided heads us ns) : Divided heads (ts ++ us) (ms ++ ns) := by
  induction h with
  | nil => exact h'
  | cons closings head ends _ ih => simpa using Divided.cons closings head ends ih

/-- A closing brace behind the last node belongs to it. -/
lemma Divided.close (h : Divided heads ts ns) (ne : ns ≠ []) : Divided heads (ts ++ [.closeBlock]) ns := by
  induction h with
  | nil => exact absurd rfl ne
  | @cons n hd ts ns ending closings head ends more ih =>
      cases more with
      | nil =>
          have last := Divided.cons (closings + 1) head ends .nil
          simpa [List.replicate_succ'] using last
      | cons closings' head' ends' more' =>
          have behind := Divided.cons closings head ends (ih (List.cons_ne_nil _ _))
          simpa using behind

/-- **The tokens of a list of nodes are divided into those of the nodes of the walk.** -/
theorem ForestOf.divided (forest : ForestOf heads ts ns) : Divided heads ts (ns.flatMap Node.walk) := by
  induction forest with
  | nil => exact .nil
  | @leaf name type hd ts ns head _ ih =>
      have first : Divided heads (hd ++ .statementEnd :: []) [Node.node name type []] := .cons 0 head (.inl rfl) .nil
      rw [List.flatMap_cons, Node.walk_eq]
      simpa [Node.children] using first.append ih
  | @block name type hd us ts children ns head _ _ inside ih =>
      have first : Divided heads (hd ++ .openBlock :: us) (.node name type children :: children.flatMap Node.walk) :=
        .cons 0 head (.inr rfl) inside
      rw [List.flatMap_cons, Node.walk_eq]
      simpa [Node.children] using (first.close (List.cons_ne_nil _ _)).append ih

/-- The strings among some tokens that stand directly behind no other string. -/
def firstStrings (behindString : Bool) : List Token → List String
  | [] => []
  | .string s :: ts => (if behindString then [] else [s]) ++ firstStrings true ts
  | .openBlock :: ts | .closeBlock :: ts | .statementEnd :: ts | .endOfInput :: ts => firstStrings false ts

/-- The names among the tokens of a file. -/
def nameTokens (ts : List Token) : List String := firstStrings false ts

lemma firstStrings_append (strings : ∀ t ∈ us, t.isString = true) :
    firstStrings true (us ++ ts) = firstStrings true ts := by
  induction us with
  | nil => rfl
  | cons u us ih =>
      obtain ⟨first, others⟩ := List.forall_mem_cons.1 strings
      cases u with
      | string s => exact ih others
      | _ => cases first

lemma firstStrings_replicate (closings : Nat) :
    firstStrings false (List.replicate closings .closeBlock ++ ts) = firstStrings false ts := by
  induction closings with
  | zero => rfl
  | succ k ih => exact ih

/-- **The names of divided tokens are those of the nodes**, if heads are made of strings. -/
theorem Divided.nameTokens_eq (h : Divided heads ts ns)
    (strings : ∀ name type hd, heads name type hd → ∃ us, hd = .string name :: us ∧ ∀ t ∈ us, t.isString = true) :
    nameTokens ts = ns.map Node.name := by
  induction h with
  | nil => rfl
  | @cons n hd ts ns ending closings head ends _ ih =>
      obtain ⟨us, rfl, others⟩ := strings _ _ _ head
      have behind : firstStrings true (ending :: (List.replicate closings .closeBlock ++ ts)) = ns.map Node.name := by
        rcases ends with rfl | rfl
        · exact (firstStrings_replicate closings).trans ih
        · exact (firstStrings_replicate closings).trans ih
      rw [nameTokens, List.cons_append, firstStrings, firstStrings_append others, behind, List.map_cons]
      rfl

end Grammar

/-! ### Registries whose resolvers take strings -/

namespace Primitive

variable {t : NumericType} {token : Token} {next : t.Bound → Request} {made : List ParseError}
  {o : ArgumentType ⊕ List ParseError}

/-- Only a string is taken for a bound. -/
lemma isString_of_leads_withBound (h : (withBound t token next).Leads made o) :
    token.isString = true ∧ ∃ b, (next b).Leads made o := by
  unfold withBound at h
  split at h
  · refine ⟨rfl, ?_⟩
    split at h
    · exact ⟨_, h⟩
    · exact absurd h Request.not_leads_refuse
    · exact absurd h Request.not_leads_refuse
  · exact absurd h Request.not_leads_refuse

/-- Only a string is taken for a kind of strings, and nothing behind it. -/
lemma isString_of_leads_stringRequest {taken : List Token} (h : (stringRequest (token :: taken)).Leads made o) :
    token.isString = true ∧ ∀ made', o ≠ .inr made' := by
  unfold stringRequest at h
  split at h
  · rename_i empty
    cases empty
  · rename_i same
    cases same
    refine ⟨rfl, ?_⟩
    split at h
    · cases h
      nofun
    · exact absurd h Request.not_leads_refuse
  · exact absurd h Request.not_leads_refuse

/-- A token that is wanted for a primitive type is a string, if anything comes of it. -/
lemma isString_of_leads {p : Primitive} {taken : List Token} {made' : List ParseError}
    (wanted : (p.request taken).Leads made (.inr made')) (leads : (p.request (taken ++ [token])).Leads made' o) :
    token.isString = true := by
  cases p with
  | bool => cases wanted
  | string =>
      match taken with
      | [] => exact (isString_of_leads_stringRequest leads).1
      | _ :: _ => exact absurd rfl ((isString_of_leads_stringRequest wanted).2 _)
  | numeric t =>
      match taken with
      | [] => exact (isString_of_leads_withBound leads).1
      | [first] =>
          obtain ⟨-, _, leads⟩ := isString_of_leads_withBound leads
          exact (isString_of_leads_withBound leads).1
      | first :: second :: _ =>
          obtain ⟨-, _, wanted⟩ := isString_of_leads_withBound wanted
          obtain ⟨-, _, wanted⟩ := isString_of_leads_withBound wanted
          cases wanted

end Primitive

namespace Resolver

/-- A resolver takes nothing but strings if each token that it has wanted is one, as far as anything comes of it. -/
lemma Answers.forall_isString {r : Resolver} {space name : String} {taken ps : List Token} {made : List ParseError}
    {type : ArgumentType} (h : r.Answers space name taken made ps type)
    (strings : ∀ taken made made' token o, (r.request space name taken made).Leads made (.inr made') →
      (r.request space name (taken ++ [token]) made').Leads made' o → token.isString = true) :
    ∀ t ∈ ps, t.isString = true := by
  induction h with
  | answer => exact nofun
  | take wanted more ih =>
      refine List.forall_mem_cons.2 ⟨?_, ih⟩
      cases more with
      | answer leads => exact strings _ _ _ _ _ wanted leads
      | take leads => exact strings _ _ _ _ _ wanted leads

/-- **The resolver of the primitive types takes nothing but strings**, whatever its name space is. -/
theorem takesStrings_primitive (own : String) : (primitive own).TakesStrings := by
  intro space name ps type answers
  refine answers.forall_isString fun taken made made' token o wanted leads => ?_
  rw [Primitive.request_primitive] at wanted leads
  split at wanted
  · rename_i p same named
    simp only [same, named] at leads
    exact Primitive.isString_of_leads wanted leads
  · exact absurd wanted Request.not_leads_refuse

end Resolver

namespace Registry

variable {registry : Registry} {name : String} {type : Option ArgumentType} {hd : List Token}

/-- Heads are made of strings if resolvers take nothing else. -/
lemma Heads.exists_tail (strings : ∀ r ∈ registry.resolvers, r.TakesStrings) (h : registry.Heads name type hd) :
    ∃ us, hd = .string name :: us ∧ ∀ t ∈ us, t.isString = true := by
  cases h with
  | literal => exact ⟨[], rfl, nofun⟩
  | argument parts claims answers =>
      have among := List.mem_of_find?_eq_some claims
      exact ⟨_, rfl, List.forall_mem_cons.2 ⟨rfl, strings _ among _ _ _ _ answers⟩⟩

end Registry

/-! ### Sources -/

namespace Lexicon

variable {cs last : List Char} {ts : List Token}

/-- The end of the input is no lexeme. -/
lemma Segments.endOfInput_notMem (h : Segments cs ts last) : .endOfInput ∉ ts := by
  induction h with
  | nil => exact nofun
  | cons opens _ ih => exact List.not_mem_cons_of_ne_of_not_mem opens.ne_endOfInput.symm ih

end Lexicon

/-- The end of the input is the last token of a text, and no error follows it. -/
lemma TokenStream.yields_endOfInput {text : String} {ts us : List Token} {e : Option TokenError}
    (h : (ofText text).Yields (ts ++ .endOfInput :: us) e) : us = [] ∧ e = none := by
  have place := Lexer.before_ofChars text.toList
  rcases Lexicon.lexes_or_offends text.toList with ⟨vs, lexes⟩ | ⟨vs, before, complaint, offends⟩
  · obtain ⟨same, rfl⟩ := yields_unique h (place.yields_of_lexes lexes)
    obtain ⟨_, segments, -⟩ := lexes
    refine ⟨?_, rfl⟩
    by_contra more
    have front := congrArg List.dropLast same
    rw [List.dropLast_append_of_ne_nil (List.cons_ne_nil _ _), List.dropLast_cons_of_ne_nil more,
      List.dropLast_concat] at front
    exact segments.endOfInput_notMem (front ▸ List.mem_append_right _ List.mem_cons_self)
  · obtain ⟨rfl, -⟩ := yields_unique h (place.yields_of_offends offends)
    obtain ⟨_, _, _, _, -, segments, -⟩ := offends
    exact absurd (List.mem_append_right _ List.mem_cons_self) segments.endOfInput_notMem

namespace Reader

variable {r : Reader} {text : String} {root : Node}

/-- **The tokens of a source are those of the tree that is read from it**, with the heads of the registry. -/
theorem exists_forestOf_of_parseText (read : (r.parseText text).result = .ok root) :
    ∃ ts, (TokenStream.ofText text).Yields (ts ++ [.endOfInput]) none ∧ Grammar.ForestOf r.registry.Heads ts [root] := by
  obtain ⟨s, parsed⟩ := (r.result_parseText_iff text root).1 read
  obtain ⟨s1, node, peeked⟩ := Parser.parseNode_of_parse parsed
  have calls : (Parser.Task.enter []).descent r.registry = Descent.node r.registry := bind_pure _
  rw [Parser.parseNode, ← Parser.Task.run, Parser.run_eq_descent, calls] at node
  obtain ⟨us, e, yields⟩ : ∃ us e, (TokenStream.ofText text).Yields us e := ⟨_, _, rfl, rfl⟩
  obtain ⟨ts, vs, rfl, forest, left⟩ := Descent.takes_node (s := .ofStream (.ofChars text.toList none)) ⟨e, yields⟩ node
  have ends := (Parser.left_of_peek left peeked).2
  obtain ⟨ws, rfl⟩ : ∃ ws, vs = .endOfInput :: ws := List.head?_eq_some_iff.1 ends
  obtain ⟨rfl, rfl⟩ := TokenStream.yields_endOfInput yields
  exact ⟨ts, yields, forest⟩

end Reader

namespace Node

/-- **All orders of the nodes of a tree are the one of the walk.** A tree is walked by its root and then by its children in
turn, which leads from one address to the next, through each node once. The labels of a drawn tree stand in this order, but
a tree is drawn only if the call stack has a frame for each level down to any of its nodes, and those that the label of the
node needs. And in the source of a tree, whatever resolvers read it, the tokens of each node stand behind those of the node
before; so the names are the strings that stand behind no other string, unless a resolver takes other tokens. -/
theorem walk_in_order (n : Node) :
    n.walk = n :: n.children.flatMap walk ∧ n.walk.length = n.size ∧
    (n.addresses.Pairwise (· < ·) ∧ (∀ path, path ∈ n.addresses ↔ (at? path n).isSome = true) ∧
      n.addresses.map (at? · n) = n.walk.map some) ∧
    (∀ stack labels, n.buildTree? stack = some labels → labels.preorder = n.walk.map label) ∧
    (∀ stack, (∃ labels, n.buildTree? stack = some labels) ↔
      ∀ path m, at? path n = some m → path.length + stack.need m.label < stack.frames) ∧
    ∀ (r : Reader) (text : String), (r.parseText text).result = .ok n →
      ∃ ts, (TokenStream.ofText text).Yields (ts ++ [.endOfInput]) none ∧
        Grammar.Divided r.registry.Heads ts n.walk ∧
        ((∀ p ∈ r.registry.resolvers, p.TakesStrings) → Grammar.nameTokens ts = n.walk.map name) := by
  refine ⟨n.walk_eq, n.length_walk, n.walk_addresses, fun stack labels built => ?_, fun stack => ?_, fun r text read => ?_⟩
  · rw [(buildTree_eq_some_iff.1 built).2, preorder_labelTree]
  · simp only [buildTree?, buildTree_eq_some_iff, exists_and_left, exists_eq, and_true]
    rfl
  obtain ⟨ts, yields, forest⟩ := Reader.exists_forestOf_of_parseText read
  have divided := forest.divided
  rw [List.flatMap_singleton] at divided
  exact ⟨ts, yields, divided, fun strings => divided.nameTokens_eq fun _ _ _ head => head.exists_tail strings⟩

/-- In this source a node stands behind the closing braces of two others, and the name of one is quoted. -/
theorem walk_in_order_blocks :
    let text := "a \x7b b builtin:integer 1 \x7b \"c d\" \x7b\x7d \x7d e; \x7d"
    ∃ root ts labels, ((Reader.standard "utf-8").parseText text).result = .ok root ∧
      root.walk.map name = ["a", "b", "c d", "e"] ∧ root.walk.length = root.size ∧
      root.buildTree? .standard = some labels ∧ labels.preorder = [[⟨"a", "bold"⟩],
        [⟨"<b>", "bold cyan"⟩, ⟨" builtin:integer", "magenta"⟩, ⟨" 1", "dim"⟩], [⟨"c d", "bold"⟩], [⟨"e", "bold"⟩]] ∧
      (TokenStream.ofText text).Yields (ts ++ [.endOfInput]) none ∧
      Grammar.nameTokens ts = ["a", "b", "c d", "e"] := by
  intro text
  have computed : (((Reader.standard "utf-8").parseText text).result.toOption.any fun root =>
      decide (root.walk.map name = ["a", "b", "c d", "e"] ∧ (root.buildTree? .standard).isSome = true ∧
        root.walk.map label = [[⟨"a", "bold"⟩],
          [⟨"<b>", "bold cyan"⟩, ⟨" builtin:integer", "magenta"⟩, ⟨" 1", "dim"⟩], [⟨"c d", "bold"⟩], [⟨"e", "bold"⟩]])) =
      true := by
    decide +kernel
  cases read : ((Reader.standard "utf-8").parseText text).result with
  | ok root =>
      simp only [read, Except.toOption, Option.any_some, decide_eq_true_eq] at computed
      obtain ⟨names, room, inOrder⟩ := computed
      obtain ⟨labels, built⟩ := Option.isSome_iff_exists.1 room
      obtain ⟨-, size, -, preorder, -, sources⟩ := walk_in_order root
      obtain ⟨ts, yields, -, tokens⟩ := sources (.standard "utf-8") text read
      have strings : ∀ p ∈ (Reader.standard "utf-8").registry.resolvers, p.TakesStrings :=
        List.forall_mem_singleton.2 (Resolver.takesStrings_primitive _)
      exact ⟨root, ts, labels, rfl, names, size, built, (preorder _ _ built).trans inOrder, yields,
        (tokens strings).trans names⟩
  | error e =>
      rw [read] at computed
      cases computed

/-- A node below so many others. -/
def chain : Nat → Node
  | 0 => node "a" none []
  | depth + 1 => node "a" none [chain depth]

/-- The deepest node of a chain. -/
lemma at?_chain (depth : Nat) : at? (List.replicate depth 0) (chain depth) = some (chain 0) := by
  induction depth with
  | zero => rfl
  | succ depth ih =>
      rw [List.replicate_succ, chain, at?]
      exact ih

lemma size_chain (depth : Nat) : (chain depth).size = depth + 1 := by
  induction depth with
  | zero => rfl
  | succ depth ih =>
      rw [chain, size, sizes, sizes, ih]
      omega

/-- A tree may be walked and yet not be drawn: it has too many levels for the call stack, and to show it fails. -/
theorem not_drawn_chain :
    (chain 5000).walk.length = 5001 ∧ (chain 5000).buildTree? .standard = none ∧
      ∀ folder file, Command.display .standard folder file false (chain 5000) =
        ⟨1, [.title file.text], some .recursion, folder⟩ := by
  have overflow : (chain 5000).buildTree? .standard = none := by
    refine Option.eq_none_iff_forall_ne_some.2 fun labels built => ?_
    have room := (buildTree_eq_some_iff.1 built).1 _ _ (at?_chain 5000)
    rw [List.length_replicate] at room
    exact absurd room (by decide)
  refine ⟨(length_walk _).trans (size_chain 5000), overflow, fun folder file => ?_⟩
  have same : (chain 5000).buildTree? Platform.standard.stack = none := overflow
  rw [Command.display, same]
  rfl

end Node

end CommandTree
