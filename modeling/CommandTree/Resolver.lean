import CommandTree.ArgumentType
import CommandTree.TokenStream
/-!
Resolvers, which say what a type reference means.

A resolver claims some keys. For a key that it claims it may look at the tokens behind the reference and take some
of them before it gives its answer, an argument type, or raises an error. An error is made by the token stream, which
puts the line of the lexer on it; the resolver may look at it, keep it, and raise it later or never. It has no state of its
own: what it asks for next depends on the key, on the tokens it has taken and on the errors it has had made.

* `Request` is what a resolver asks for until it takes a token or answers;
* `Resolver.resolve` carries a resolver out on a token stream;
* `keepsWithin_resolve`: resolving never leaves more tokens than there were.
-/

namespace CommandTree

/-- What a resolver asks of a token stream, up to the next token that it takes: it answers, or raises an error; it has an
error made about the line that the lexer has reached, and gets it back; it asks whether there is a next token, looks at the
next token, or takes it. -/
inductive Request where
  | answer (type : ArgumentType)
  | raise (error : ParseError)
  | create (complaint : Complaint) (cause : Option Cause) (next : ParseError → Request)
  | hasNext (next : Bool → Request)
  | peek (next : Token → Request)
  | take

namespace Request

/-- A refusal raises an error as soon as it is made. -/
def refuse (complaint : Complaint) (cause : Option Cause) : Request := .create complaint cause .raise

/-- Carries a request out, given the errors that were made before: the answer, or these and further errors if the resolver
wants to take a token. -/
def follow (made : List ParseError) : Request → TokenM (ArgumentType ⊕ List ParseError)
  | answer t => pure (.inl t)
  | raise e => TokenStream.raise e
  | create complaint cause next =>
    TokenStream.create complaint cause >>= fun e => (next e).follow (made ++ [e])
  | hasNext next => TokenStream.hasNext >>= fun b => (next b).follow made
  | peek next => TokenStream.peek >>= fun t => (next t).follow made
  | take => pure (.inr made)

/-- Carrying a request out keeps within the tokens that are left. -/
theorem keepsWithin_follow (r : Request) (made : List ParseError) : KeepsWithin TokenStream.size (r.follow made) := by
  induction r generalizing made with
  | answer t => exact .pure _
  | raise e => exact (TokenStream.consumes_raise _).keepsWithin
  | create complaint cause _ ih => exact (TokenStream.keepsWithin_create _ _).bind fun e => ih e _
  | hasNext _ ih => exact TokenStream.keepsWithin_hasNext.bind fun b => ih b made
  | peek _ ih => exact TokenStream.keepsWithin_peek.bind fun t => ih t made
  | take => exact .pure _

end Request

/-- A resolver of argument types: how it is named in logs and listings, which keys it claims, and what it asks for, given a
key, the tokens that it has taken so far, and the errors that it has had made so far. -/
structure Resolver where
  display : String
  claims : (space name : String) → Bool
  request : (space name : String) → (taken : List Token) → (made : List ParseError) → Request

namespace Resolver

/-- Carries a resolver on, given the tokens that it has taken and the errors that it has had made so far. -/
def resolveFrom (r : Resolver) (space name : String) (taken : List Token) (made : List ParseError) (ts : TokenStream) :
    EStateM.Result TokenError TokenStream ArgumentType :=
  match _followed : (r.request space name taken made).follow made ts with
  | .error e ts' => .error e ts'
  | .ok (.inl t) ts' => .ok t ts'
  | .ok (.inr made) ts' =>
    match _took : TokenStream.next ts' with
    | .error e ts'' => .error e ts''
    | .ok token ts'' => resolveFrom r space name (taken ++ [token]) made ts''
termination_by ts.size
decreasing_by
  exact Nat.lt_of_lt_of_le (TokenStream.consumes_next _ _ _ _took)
    (Request.keepsWithin_follow _ _ _ _ _ _followed)

/-- The argument type that a resolver gives for a key, taking the tokens that belong to it. -/
def resolve (r : Resolver) (space name : String) : TokenM ArgumentType :=
  r.resolveFrom space name [] []

/-- Carrying a resolver on keeps within the tokens that are left. -/
theorem keepsWithin_resolveFrom (r : Resolver) (space name : String) (taken : List Token) (made : List ParseError) :
    KeepsWithin TokenStream.size (r.resolveFrom space name taken made) := by
  intro ts t ts' h
  fun_induction resolveFrom r space name taken made ts with
  | case1 => cases h
  | case2 _ _ _ _ _ followed =>
    cases h
    exact Request.keepsWithin_follow _ _ _ _ _ followed
  | case3 => cases h
  | case4 _ _ _ _ _ followed _ _ took ih =>
    exact Nat.le_trans (ih h) (Nat.le_trans (Nat.le_of_lt (TokenStream.consumes_next _ _ _ took))
      (Request.keepsWithin_follow _ _ _ _ _ followed))

/-- Resolving keeps within the tokens that are left. -/
theorem keepsWithin_resolve (r : Resolver) (space name : String) :
    KeepsWithin TokenStream.size (r.resolve space name) :=
  r.keepsWithin_resolveFrom space name [] []

end Resolver

end CommandTree
