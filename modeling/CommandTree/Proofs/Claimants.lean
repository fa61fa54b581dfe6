import Mathlib.Data.List.Pairwise
import CommandTree.Proofs.Grammar.Resolving
import CommandTree.Proofs.Simulation.Reading
/-!
The first claimant of a key decides what the key means.

Of a registry a parse sees nothing but the first claimant of each key that it meets. So registries with the same claimants
lead through the same states, token by token, also where a resolver takes tokens or refuses. The order of resolvers that
claim no key in common does not matter, and a resolver that is asked last matters only for keys that are unknown without
it.

* `TokenStream.itself`: a token stream answers like itself, which relates parses with different registries;
* `Registry.Shuffled`: neighbours that claim no key in common change places; `Registry.shuffled_of_perm`: so resolvers of
  which no two claim a key in common may stand in any order;
* `Registry.claimant?_push`: the claimant of a key in a registry with one more resolver;
* `Reader.parseStream_of_claimants`: **the first claimants decide what a reader makes of a stream.**
-/

namespace CommandTree

/-! ### A token stream and itself -/

/-- A result corresponds to itself. -/
lemma Corresponds.of_self {ε σ α : Type} {known : α → Prop} {excused : ε → Prop} {r : EStateM.Result ε σ α}
    (holds : ∀ a s, r = .ok a s → known a) : Corresponds (fun a s s' => s = s' ∧ known a) Eq excused r r := by
  cases r with
  | ok a s => exact .ok ⟨rfl, holds a s rfl⟩
  | error e s => exact .error rfl

/-- A token stream answers like itself, whatever is excused. -/
def TokenStream.itself (excused : TokenError → Prop) : TokenStream.Simulation where
  related := Eq
  excused := excused
  ends := True
  peek? h := h ▸ .of_self fun _ _ _ _ => trivial
  next? h := h ▸ .of_self fun _ _ _ => trivial
  refusal h _ _ := .inl (h ▸ rfl)

lemma TokenStream.keepsLines_itself (excused : TokenError → Prop) : (itself excused).KeepsLines :=
  fun _ _ h => congrArg TokenStream.line h

/-! ### Registries -/

/-- Two resolvers claim no key in common. -/
def Resolver.Apart (r r' : Resolver) : Prop := ∀ space name, ¬ (r.claims space name = true ∧ r'.claims space name = true)

lemma Resolver.Apart.symm {r r' : Resolver} (h : r.Apart r') : r'.Apart r :=
  fun space name both => h space name both.symm

namespace Registry

/-- Lists of resolvers that become the same when neighbours that claim no key in common change places, any number of
times. -/
inductive Shuffled : List Resolver → List Resolver → Prop
  | nil : Shuffled [] []
  | cons (r : Resolver) {rs rs' : List Resolver} (more : Shuffled rs rs') : Shuffled (r :: rs) (r :: rs')
  | swap {r r' : Resolver} (apart : r.Apart r') (rs : List Resolver) : Shuffled (r :: r' :: rs) (r' :: r :: rs)
  | trans {rs rs' rs'' : List Resolver} (first : Shuffled rs rs') (second : Shuffled rs' rs'') : Shuffled rs rs''

/-- Resolvers of which no two claim a key in common may stand in any order. -/
lemma shuffled_of_perm {rs rs' : List Resolver} (perm : rs.Perm rs') (apart : rs.Pairwise Resolver.Apart) :
    Shuffled rs rs' := by
  induction perm with
  | nil => exact .nil
  | cons r _ ih => exact .cons r (ih apart.of_cons)
  | swap r r' rs => exact .swap (List.rel_of_pairwise_cons apart List.mem_cons_self) rs
  | trans first _ ih ih' => exact .trans (ih apart) (ih' (first.pairwise apart fun h => h.symm))

variable {R R' : Registry}

/-- The first resolver that claims a key stays the first one. -/
lemma Shuffled.find?_eq {rs rs' : List Resolver} (h : Shuffled rs rs') (space name : String) :
    (rs.find? fun r => r.claims space name) = rs'.find? fun r => r.claims space name := by
  induction h with
  | nil => rfl
  | cons r _ ih => rw [List.find?_cons, List.find?_cons, ih]
  | @swap r r' apart rs =>
      have once := apart space name
      simp only [List.find?_cons]
      cases claimed : r.claims space name with
      | false => rfl
      | true =>
          have other : r'.claims space name = false := by simpa [claimed] using once
          rw [other]
  | trans _ _ ih ih' => exact ih.trans ih'

/-- The claimants are the same when resolvers that claim no key in common change places. -/
lemma Shuffled.claimant?_eq (h : Shuffled R.resolvers R'.resolvers) (space name : String) :
    R.claimant? space name = R'.claimant? space name := h.find?_eq space name

/-- A resolver that is asked last is the claimant of the keys that it claims and that had no claimant. -/
lemma claimant?_push (R : Registry) (p : Resolver) (space name : String) :
    (R.push p).claimant? space name = (R.claimant? space name).or (if p.claims space name then some p else none) := by
  rw [claimant?, push, List.find?_append, List.find?_singleton]
  rfl

/-- A registry without a claimant does not know the key. -/
lemma claims_eq_false_iff {space name : String} : R.claims space name = false ↔ R.claimant? space name = none := by
  rw [claims, Option.isSome_eq_false_iff, Option.isNone_iff_eq_none]

/-- An error says that a key is unknown that one more resolver would claim. -/
def IsUnknownTo (R : Registry) (p : Resolver) (e : TokenError) : Prop :=
  ∃ space name line, e = .failed (.parse ⟨.unknownType space name, line, none⟩) ∧ R.claims space name = false ∧
    p.claims space name = true

/-- One more resolver is asked only for keys that are unknown without it. -/
lemma agree_push (R : Registry) (p : Resolver) : (TokenStream.itself (R.IsUnknownTo p)).Agree R (R.push p) := by
  intro space name
  have respects (r : Resolver) := (TokenStream.keepsLines_itself (R.IsUnknownTo p)).respects r space name
  rw [claimant?_push]
  cases found : R.claimant? space name with
  | some r => exact .inl ⟨rfl, fun r _ => respects r⟩
  | none =>
      cases claimed : p.claims space name with
      | false => exact .inl ⟨rfl, nofun⟩
      | true => exact .inr ⟨rfl, fun line => ⟨space, name, line, rfl, claims_eq_false_iff.2 found, claimed⟩⟩

end Registry

/-! ### Readers -/

namespace Reader

variable {R R' : Registry}

/-- Readers whose registries have the same claimants read alike. -/
lemma parseStream_congr (same : ∀ space name, R.claimant? space name = R'.claimant? space name) (encoding : String)
    (stream : CharStream) : (mk R encoding).parseStream stream = (mk R' encoding).parseStream stream := by
  have lines := TokenStream.keepsLines_itself fun _ => False
  have agree : (TokenStream.itself fun _ => False).Agree R R' :=
    fun space name => .inl ⟨same space name, fun r _ => lines.respects r space name⟩
  have either := (TokenStream.itself fun _ => False).report_cases ⟨R, encoding⟩ ⟨R', encoding⟩ lines agree
    (rfl : TokenStream.ofStream stream = .ofStream stream)
  exact either.resolve_right fun ⟨_, no, _⟩ => no

/-- **The first claimants decide.** Whatever a stream delivers, a text or less than that, readers with the same claimant
of each key make the same of it: the same tree with the same log, or the same error at the same line. This is so if
resolvers that claim no key in common change places; and one more resolver that is asked last changes nothing, unless
without it the reader stops at a key that is unknown and that the new resolver claims. -/
theorem parseStream_of_claimants (R : Registry) (encoding : String) (stream : CharStream) :
    (∀ R' : Registry, (∀ space name, R.claimant? space name = R'.claimant? space name) →
      (mk R encoding).parseStream stream = (mk R' encoding).parseStream stream) ∧
    (∀ R' : Registry, Registry.Shuffled R.resolvers R'.resolvers →
      (mk R encoding).parseStream stream = (mk R' encoding).parseStream stream) ∧
    (∀ R' : Registry, R.resolvers.Perm R'.resolvers → R.resolvers.Pairwise Resolver.Apart →
      (mk R encoding).parseStream stream = (mk R' encoding).parseStream stream) ∧
    ∀ p : Resolver, (mk (R.push p) encoding).parseStream stream = (mk R encoding).parseStream stream ∨
      ∃ space name line, ((mk R encoding).parseStream stream).result =
          .error (.tokens (.failed (.parse ⟨.unknownType space name, line, none⟩))) ∧
        R.claims space name = false ∧ p.claims space name = true := by
  refine ⟨fun R' same => parseStream_congr same encoding stream,
    fun R' shuffled => parseStream_congr shuffled.claimant?_eq encoding stream,
    fun R' perm apart => parseStream_congr (Registry.shuffled_of_perm perm apart).claimant?_eq encoding stream,
    fun p => ?_⟩
  have either := (TokenStream.itself (R.IsUnknownTo p)).report_cases ⟨R, encoding⟩ ⟨R.push p, encoding⟩
    (TokenStream.keepsLines_itself _) (R.agree_push p) (rfl : TokenStream.ofStream stream = .ofStream stream)
  rcases either with same | ⟨_, ⟨space, name, line, rfl, unknown, claimed⟩, stopped⟩
  · exact .inl same.symm
  · exact .inr ⟨space, name, line, stopped, unknown, claimed⟩

/-- Resolvers of two name spaces may change places. -/
theorem parseStream_of_claimants_swapped :
    let R : Registry := ⟨[.primitive "a", .primitive "b"]⟩
    let R' : Registry := ⟨[.primitive "b", .primitive "a"]⟩
    let stream : CharStream := .ofChars "root { x b:integer 1; y a:bool z; }".toList none
    (∀ space name, R.claimant? space name = R'.claimant? space name) ∧
      Registry.Shuffled R.resolvers R'.resolvers ∧ R.resolvers.Perm R'.resolvers ∧ R.resolvers.Pairwise Resolver.Apart ∧
      (mk R "utf-8").parseStream stream = (mk R' "utf-8").parseStream stream := by
  intro R R' stream
  have apart : (Resolver.primitive "a").Apart (.primitive "b") := by
    intro space name
    rintro ⟨first, second⟩
    rw [Primitive.claims_primitive, Bool.and_eq_true, beq_iff_eq] at first second
    exact absurd (first.1.symm.trans second.1) (by decide)
  have perm : R.resolvers.Perm R'.resolvers := .swap _ _ _
  have pairwise : R.resolvers.Pairwise Resolver.Apart := by simpa [R] using apart
  have shuffled : Registry.Shuffled R.resolvers R'.resolvers := .swap apart []
  have same := (parseStream_of_claimants R "utf-8" stream).2.2.1 R' perm pairwise
  exact ⟨shuffled.claimant?_eq, shuffled, perm, pairwise, same⟩

end Reader

end CommandTree
