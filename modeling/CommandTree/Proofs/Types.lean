import CommandTree.Proofs.Bounds
import CommandTree.Proofs.Grammar.Resolving
/-!
Trees whose argument types are the primitive ones, which are all that files hold unless callers add types.

* `Node.walk_eq`: a tree is walked by its root and then by its children in order;
* `Node.HasTypes`: all nodes of a tree have types as given; `hasTypes_iff` goes down one level;
* `Node.IsPrimitive`: no argument of a tree has a type that a caller adds, and `Grammar.Forest.isPrimitive` says that
  the grammar gives no other trees;
* `ArgumentType.isAdmitted_iff`: the types made from their own values with all checks are the primitive ones;
* `Request.Promises`: what holds of every answer that a resolver may give, whatever the tokens are, and
  `Registry.isPrimitive_of_resolve_standard`.
-/

namespace CommandTree

/-! ### Types and their checks -/

namespace ArgumentType

/-- Whether a type is one that callers do not have to add. -/
def isPrimitive : ArgumentType → Bool
  | custom _ => false
  | _ => true

/-- The values of a type pass the checks for given values, and make the type itself. -/
def IsAdmitted : ArgumentType → Prop
  | bool => True
  | string kind => ofKind? (some kind.name) = .ok (string kind)
  | numeric t minimum maximum =>
    ofBounds? t (some (t.number minimum)) (some (t.number maximum)) = .ok (numeric t minimum maximum)
  | custom _ => False

/-- **The checks admit every primitive type**: bounds are never out of range, not even after another rounding. -/
theorem isAdmitted_iff {type : ArgumentType} : type.IsAdmitted ↔ type.isPrimitive = true := by
  cases type with
  | bool => exact iff_of_true trivial rfl
  | string kind =>
      refine iff_of_true ?_ rfl
      simp only [IsAdmitted, ofKind?, StringKind.ofName?_name]
  | numeric t minimum maximum =>
      refine iff_of_true ?_ rfl
      simp only [IsAdmitted, ofBounds?, NumericType.boundOr?, NumericType.bound?_number]
  | custom c => exact iff_of_false id Bool.false_ne_true

end ArgumentType

/-! ### Answers of resolvers -/

namespace Request

variable {P : ArgumentType → Prop}

/-- Every answer that a request may come to has a property, whatever the tokens are. -/
def Promises (P : ArgumentType → Prop) : Request → Prop
  | answer type => P type
  | raise _ => True
  | create _ _ next => ∀ e, (next e).Promises P
  | hasNext next => ∀ b, (next b).Promises P
  | peek next => ∀ t, (next t).Promises P
  | take => True

/-- Whatever is asked for a primitive type is answered with one. -/
lemma OfPrimitive.promises {r : Request} (h : r.OfPrimitive) : r.Promises fun t => t.isPrimitive = true := by
  induction h with
  | @answer type own =>
      cases type with
      | custom c => exact absurd rfl (own c)
      | _ => exact rfl
  | refuse => exact fun _ => trivial
  | peek _ ih => exact ih
  | take => trivial

/-- What is promised of the answers holds of the answer. -/
lemma Promises.follow {r : Request} (h : r.Promises P) {made : List ParseError} {q q' : TokenStream} {type : ArgumentType}
    (run : r.follow made q = .ok (.inl type) q') : P type := by
  induction r generalizing made q with
  | answer t =>
      cases run
      exact h
  | raise => cases run
  | create _ _ next ih =>
      obtain ⟨e, _, -, rest⟩ := bind_eq_ok run
      exact ih e (h e) rest
  | hasNext next ih =>
      obtain ⟨b, _, -, rest⟩ := bind_eq_ok run
      exact ih b (h b) rest
  | peek next ih =>
      obtain ⟨t, _, -, rest⟩ := bind_eq_ok run
      exact ih t (h t) rest
  | take => cases run

end Request

namespace Resolver

variable {P : ArgumentType → Prop} {space name : String}

/-- What is promised whatever tokens were taken holds of the answer of a resolver. -/
lemma holds_of_resolveFrom {r : Resolver} (h : ∀ taken made, (r.request space name taken made).Promises P)
    (taken : List Token) (made : List ParseError) {q q' : TokenStream} {type : ArgumentType}
    (run : r.resolveFrom space name taken made q = .ok type q') : P type := by
  fun_induction resolveFrom r space name taken made q with
  | case1 => cases run
  | case2 taken made q t q'' followed =>
      cases run
      exact (h taken made).follow followed
  | case3 => cases run
  | case4 _ _ _ _ _ _ _ _ _ ih => exact ih run

end Resolver

namespace Registry

/-- The registry that knows the primitive types alone, by keys in a given name space. -/
def ofSpace (own : String) : Registry := ⟨[.primitive own]⟩

/-- **The resolver of the primitive types resolves to primitive types alone**, on any token stream. -/
theorem isPrimitive_of_resolve_ofSpace {own space name : String} {q q' : TokenStream} {type : ArgumentType}
    (run : (ofSpace own).resolve space name q = .ok type q') : type.isPrimitive = true := by
  unfold resolve at run
  cases claimed : (ofSpace own).claimant? space name with
  | none =>
      rw [claimed] at run
      cases run
  | some resolver =>
      rw [claimed] at run
      obtain rfl := List.mem_singleton.1 (List.mem_of_find?_eq_some claimed)
      have promises (taken : List Token) (made : List ParseError) :=
        (Resolver.ofPrimitive_primitive own space name taken made).promises
      exact Resolver.holds_of_resolveFrom promises [] [] run

/-- **The standard registry resolves to primitive types alone**, on any token stream. -/
theorem isPrimitive_of_resolve_standard {space name : String} {q q' : TokenStream} {type : ArgumentType}
    (run : standard.resolve space name q = .ok type q') : type.isPrimitive = true :=
  isPrimitive_of_resolve_ofSpace run

end Registry

/-! ### Trees -/

namespace Node

/-- The nodes of several trees are those of the first, and then those of the others. -/
lemma walkAll_eq (ns : List Node) : walkAll ns = ns.flatMap walk := by
  have append (ms : List Node) (ns : List Node) : walkAll (ms ++ ns) = walkAll ms ++ walkAll ns := by
    fun_induction walkAll ms with
    | case1 => rfl
    | case2 m ms ih =>
        rw [List.cons_append, walkAll, ← List.append_assoc, ih, List.cons_append]
  induction ns with
  | nil => rw [walkAll, List.flatMap_nil]
  | cons n ns ih => rw [← List.singleton_append, append, ih, List.singleton_append, List.flatMap_cons, walk]

/-- **A tree is walked by its root and then by its children in order.** -/
theorem walk_eq (n : Node) : n.walk = n :: n.children.flatMap walk := by
  rw [walk, walkAll, List.append_nil, walkAll_eq]

/-- The walk of trees meets each of their nodes once. -/
lemma length_walkAll (ns : List Node) : (walkAll ns).length = sizes ns := by
  induction ns using walkAll.induct with
  | case1 => rw [walkAll, List.length_nil, sizes]
  | case2 n rest ih =>
      rw [walkAll, List.length_cons, ih, sizes_append, sizes, size_eq]
      omega

lemma length_walk (n : Node) : n.walk.length = n.size := by rw [walk, length_walkAll, sizes, sizes, Nat.add_zero]

/-- The types of all nodes of a tree are as given; those of literals are none. -/
def HasTypes (good : Option ArgumentType → Prop) (n : Node) : Prop := ∀ m ∈ n.walk, good m.type

/-- The types of a tree are that of its root and those of the trees of the children. -/
lemma hasTypes_iff {good : Option ArgumentType → Prop} {name : String} {type : Option ArgumentType}
    {children : List Node} : (node name type children).HasTypes good ↔ good type ∧ ∀ c ∈ children, c.HasTypes good := by
  rw [HasTypes]
  rw [walk_eq, List.forall_mem_cons, List.forall_mem_flatMap]
  rfl

/-- No argument of a tree has a type that a caller adds. -/
def IsPrimitive (n : Node) : Prop := ∀ m ∈ n.walk, ∀ type ∈ m.type, type.isPrimitive = true

/-- Types are primitive throughout a tree if they are at its root and in the trees of the children. -/
lemma isPrimitive_iff {name : String} {type : Option ArgumentType} {children : List Node} :
    (node name type children).IsPrimitive ↔
      (∀ t ∈ type, t.isPrimitive = true) ∧ ∀ c ∈ children, c.IsPrimitive :=
  @hasTypes_iff (fun type => ∀ t ∈ type, t.isPrimitive = true) name type children

end Node

namespace Grammar

/-- **All trees of the grammar are primitive.** -/
theorem Forest.isPrimitive {ts : List Token} {ns : List Node} (forest : Forest ts ns) : ∀ n ∈ ns, n.IsPrimitive := by
  have types {name : String} {type : Option ArgumentType} {hd : List Token} (head : Head name type hd) :
      ∀ t ∈ type, t.isPrimitive = true := by
    cases head with
    | literal => exact fun _ no => nomatch no
    | argument refers parameters =>
        rintro _ ⟨⟩
        cases parameters <;> rfl
  induction forest with
  | nil => exact fun _ no => nomatch no
  | leaf head _ ih =>
      exact List.forall_mem_cons.2 ⟨Node.isPrimitive_iff.2 ⟨types head, fun _ no => nomatch no⟩, ih⟩
  | block head _ _ inside more =>
      exact List.forall_mem_cons.2 ⟨Node.isPrimitive_iff.2 ⟨types head, inside⟩, more⟩

end Grammar

end CommandTree
