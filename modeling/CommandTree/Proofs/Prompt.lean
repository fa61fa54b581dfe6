import CommandTree.Proofs.Unfolding
/-!
Resolvers that raise an error as soon as it is made.

A resolver may keep an error that it has had made, and look at its line. One that is prompt does neither: the only thing it
does with an error is to raise it on the spot. So all its errors name the line of the lexer at that moment, and what it
answers depends on the tokens alone.

* `Request.IsPrompt`, `Resolver.IsPrompt` and `Registry.IsPrompt` say so of a request, a resolver and a registry;
* `Request.made_of_follow`: a prompt request leaves no error behind;
* `Request.OfPrimitive`: what is asked for a primitive type, and `Resolver.ofPrimitive_primitive`: their resolver asks for
  nothing else;
* `Resolver.isPrompt_primitive`: the resolver of the primitive types is prompt.
-/

namespace CommandTree

/-! ### Prompt requests -/

namespace Request

/-- Every error that a request has made is raised on the spot, and no other error is. -/
def IsPrompt : Request → Prop
  | answer _ => True
  | raise _ => False
  | create _ _ next => next = raise
  | hasNext next => ∀ b, (next b).IsPrompt
  | peek next => ∀ t, (next t).IsPrompt
  | take => True

/-- **A prompt request leaves no error behind.** -/
theorem made_of_follow {r : Request} (prompt : r.IsPrompt) {made made' : List ParseError} {q q' : TokenStream}
    (run : r.follow made q = .ok (.inr made') q') : made' = made := by
  induction r generalizing q with
  | answer => cases run
  | raise => cases run
  | create =>
      cases prompt
      cases run
  | hasNext next ih =>
      obtain ⟨b, _, -, rest⟩ := bind_eq_ok run
      exact ih b (prompt b) rest
  | peek next ih =>
      obtain ⟨t, _, -, rest⟩ := bind_eq_ok run
      exact ih t (prompt t) rest
  | take =>
      cases run
      rfl

end Request

/-! ### Prompt resolvers -/

/-- All requests of a resolver are prompt, as long as it has no error in its hands. -/
def Resolver.IsPrompt (r : Resolver) : Prop := ∀ space name taken, (r.request space name taken []).IsPrompt

/-- All resolvers of a registry are prompt. -/
def Registry.IsPrompt (registry : Registry) : Prop := ∀ r ∈ registry.resolvers, r.IsPrompt

lemma Registry.IsPrompt.claimant {registry : Registry} (prompt : registry.IsPrompt) {space name : String} {r : Resolver}
    (claims : registry.claimant? space name = some r) : r.IsPrompt :=
  prompt r (List.mem_of_find?_eq_some claims)

/-! ### The resolver of the primitive types -/

/-- A request as one for a primitive type is: it looks at tokens, and then takes one, refuses, or answers with a type that is
not added by a caller. -/
inductive Request.OfPrimitive : Request → Prop
  | answer {type : ArgumentType} (own : ∀ c, type ≠ .custom c) : OfPrimitive (.answer type)
  | refuse (complaint : Complaint) (cause : Option Cause) : OfPrimitive (.refuse complaint cause)
  | peek {next : Token → Request} (h : ∀ t, (next t).OfPrimitive) : OfPrimitive (.peek next)
  | take : OfPrimitive .take

/-- The requests for primitive types are prompt. -/
lemma Request.OfPrimitive.isPrompt {r : Request} (h : r.OfPrimitive) : r.IsPrompt := by
  induction h with
  | answer => trivial
  | refuse => rfl
  | peek _ ih => exact ih
  | take => trivial

namespace Primitive

lemma request_primitive (own space name : String) (taken : List Token) (made : List ParseError) :
    (Resolver.primitive own).request space name taken made = match space == own, ofName? name with
      | true, some p => p.request taken
      | _, _ => .refuse (.unsupportedType space name) none := rfl

lemma ofPrimitive_takeStringOr {type : ArgumentType} (own : ∀ c, type ≠ .custom c) : (takeStringOr type).OfPrimitive := by
  refine .peek fun token => ?_
  cases token with
  | string => exact .take
  | _ => exact .answer own

lemma ofPrimitive_withBound {t : NumericType} (token : Token) {next : t.Bound → Request}
    (h : ∀ b, (next b).OfPrimitive) : (withBound t token next).OfPrimitive := by
  unfold withBound
  split
  · split
    · exact h _
    · exact .refuse _ _
    · exact .refuse _ _
  · exact .refuse _ _

lemma ofPrimitive_request (p : Primitive) (taken : List Token) : (p.request taken).OfPrimitive := by
  cases p with
  | bool => exact .answer nofun
  | string =>
      change (stringRequest taken).OfPrimitive
      unfold stringRequest
      split
      · exact .take
      · split
        · exact .answer nofun
        · exact .refuse _ _
      · exact .refuse _ _
  | numeric t =>
      match taken with
      | [] => exact ofPrimitive_takeStringOr nofun
      | [first] => exact ofPrimitive_withBound first fun a => ofPrimitive_takeStringOr nofun
      | first :: second :: _ =>
          exact ofPrimitive_withBound first fun a => ofPrimitive_withBound second fun b => .answer nofun

end Primitive

namespace Resolver

/-- Whatever the resolver of the primitive types asks for is as it is for one of them. -/
lemma ofPrimitive_primitive (own space name : String) (taken : List Token) (made : List ParseError) :
    ((primitive own).request space name taken made).OfPrimitive := by
  rw [Primitive.request_primitive]
  split
  · exact Primitive.ofPrimitive_request _ taken
  · exact .refuse _ _

/-- **The resolver of the primitive types is prompt**, in any name space. -/
theorem isPrompt_primitive (own : String) : (primitive own).IsPrompt := fun space name taken =>
  (ofPrimitive_primitive own space name taken []).isPrompt

end Resolver

/-- The standard registry is prompt. -/
theorem Registry.isPrompt_standard : Registry.standard.IsPrompt :=
  List.forall_mem_singleton.2 (Resolver.isPrompt_primitive _)

end CommandTree
