import CommandTree.Resolver.Primitive
/-!
Ordered collections of resolvers, in which the first claimant of a key decides what the key means.

* `Registry.claimant?` is the first resolver that claims a key;
* `Registry.resolve` is the answer of that resolver, and a refusal if there is none.
-/

namespace CommandTree

/-- Resolvers in the order in which they are asked. -/
structure Registry where
  resolvers : List Resolver

namespace Registry

/-- A registry without resolvers. -/
def empty : Registry := ⟨[]⟩

/-- The registry that knows the primitive types alone. -/
def standard : Registry := ⟨[.primitive ArgumentType.builtinSpace]⟩

/-- How many resolvers a registry has. -/
def size (r : Registry) : Nat := r.resolvers.length

/-- A registry with one more resolver, which is asked last. -/
def push (r : Registry) (resolver : Resolver) : Registry := ⟨r.resolvers ++ [resolver]⟩

/-- The first resolver that claims a key. -/
def claimant? (r : Registry) (space name : String) : Option Resolver :=
  r.resolvers.find? fun resolver => resolver.claims space name

/-- Whether some resolver claims a key. -/
def claims (r : Registry) (space name : String) : Bool := (r.claimant? space name).isSome

/-- The argument type of a key, by the first resolver that claims it. -/
def resolve (r : Registry) (space name : String) : TokenM ArgumentType :=
  match r.claimant? space name with
  | some resolver => resolver.resolve space name
  | none => TokenStream.refuse (.unknownType space name) none

/-- How a registry is listed. -/
def display (r : Registry) : String :=
  "ArgumentTypeRegistry([" ++ ", ".intercalate (r.resolvers.map Resolver.display) ++ "])"

/-- Resolving keeps within the tokens that are left. -/
theorem keepsWithin_resolve (r : Registry) (space name : String) :
    KeepsWithin TokenStream.size (r.resolve space name) := by
  unfold resolve
  split
  · exact Resolver.keepsWithin_resolve _ _ _
  · exact (TokenStream.consumes_refuse _ _).keepsWithin

end Registry

end CommandTree
