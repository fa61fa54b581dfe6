import CommandTree.Proofs.Grammar
import CommandTree.Proofs.Numerals
import CommandTree.Proofs.Place
import CommandTree.Proofs.Prompt
/-!
Type references and their parameters, as the standard registry reads them.

* `Text.splitAt_eq_pair_iff`: two parts are the text before the only mark and the text behind it;
* `Parser.splitKey?_eq_some_iff`: a type reference is taken apart as the grammar says;
* `Parser.comes_argumentType`: reading a type comes to what the grammar says of the tokens taken, or to a complaint;
* `Parser.argumentType_of_parameters`: all that the grammar says is read, if no other string token follows.
-/

namespace CommandTree

open Text Lexicon Grammar

/-! ### Type references -/

namespace Text

/-- The first part reaches up to the first mark, and the others are those of the text behind it. -/
lemma splitAt_append_cons {mark : Char} {a : List Char} (h : mark ∉ a) (b : List Char) :
    splitAt mark (a ++ mark :: b) = a :: splitAt mark b := by
  induction a with
  | nil => simp [splitAt]
  | cons c a ih =>
      rw [List.mem_cons, not_or] at h
      rw [List.cons_append, splitAt, if_neg (fun same => h.1 same.symm), ih h.2]

lemma splitAt_ne_nil (mark : Char) (cs : List Char) : splitAt mark cs ≠ [] := by
  by_cases marked : mark ∈ cs
  · obtain ⟨a, b, rfl, first⟩ := List.eq_append_cons_of_mem marked
    rw [splitAt_append_cons first]
    exact List.cons_ne_nil _ _
  · rw [splitAt_of_notMem marked]
    exact List.cons_ne_nil _ _

lemma splitAt_eq_singleton_iff {mark : Char} {cs a : List Char} : splitAt mark cs = [a] ↔ mark ∉ cs ∧ cs = a := by
  constructor
  · intro h
    by_cases marked : mark ∈ cs
    · obtain ⟨a', b, rfl, first⟩ := List.eq_append_cons_of_mem marked
      rw [splitAt_append_cons first, List.cons.injEq] at h
      exact absurd h.2 (splitAt_ne_nil mark b)
    · rw [splitAt_of_notMem marked, List.cons.injEq] at h
      exact ⟨marked, h.1⟩
  · rintro ⟨h, rfl⟩
    exact splitAt_of_notMem h

/-- Two parts are the text before the only mark and the text behind it. -/
lemma splitAt_eq_pair_iff {mark : Char} {cs a b : List Char} :
    splitAt mark cs = [a, b] ↔ mark ∉ a ∧ mark ∉ b ∧ cs = a ++ mark :: b := by
  constructor
  · intro h
    by_cases marked : mark ∈ cs
    · obtain ⟨a', b', rfl, first⟩ := List.eq_append_cons_of_mem marked
      rw [splitAt_append_cons first, List.cons.injEq] at h
      obtain ⟨rfl, h⟩ := h
      obtain ⟨last, rfl⟩ := splitAt_eq_singleton_iff.1 h
      exact ⟨first, last, rfl⟩
    · rw [splitAt_of_notMem marked] at h
      cases h
  · rintro ⟨ha, hb, rfl⟩
    rw [splitAt_append_cons ha, splitAt_of_notMem hb]

end Text

namespace Parser

/-- A type reference is taken apart where it has exactly two parts, both nonempty. -/
lemma splitKey?_eq_some_iff {key space name : String} : splitKey? key = some (space, name) ↔
    splitAt ':' key.toList = [space.toList, name.toList] ∧ space ≠ "" ∧ name ≠ "" := by
  have emptyIff : ∀ s : String, s = "" ↔ s.toList = [] := fun s => by
    rw [← String.toList_inj]
    rfl
  rw [splitAt_eq_pair_iff, ne_eq, ne_eq, emptyIff space, emptyIff name]
  unfold splitKey?
  constructor
  · intro h
    simp only at h
    split at h
    · rename_i parts
      obtain ⟨spaceNe, nameNe, plain⟩ := parts
      rw [Option.some.injEq, Prod.mk.injEq] at h
      obtain ⟨rfl, rfl⟩ := h
      have whole := List.takeWhile_append_dropWhile (p := (· ≠ ':')) (l := key.toList)
      have outside : ':' ∉ key.toList.takeWhile (· ≠ ':') := fun hm => by simpa using List.mem_takeWhile_imp hm
      have marked := head_dropWhile (· ≠ ':') key.toList
      cases hd : key.toList.dropWhile (· ≠ ':') with
      | nil =>
          rw [hd] at nameNe
          exact absurd rfl nameNe
      | cons d rest =>
          rw [hd] at whole marked nameNe plain
          obtain rfl : d = ':' := by simpa using marked d rfl
          rw [String.toList_ofList, String.toList_ofList]
          exact ⟨⟨outside, plain, whole.symm⟩, spaceNe, nameNe⟩
    · cases h
  · rintro ⟨⟨outside, plain, whole⟩, spaceNe, nameNe⟩
    have before : ∀ c ∈ space.toList, decide (c ≠ ':') = true := fun c hc => by
      simpa using fun same : c = ':' => outside (same ▸ hc)
    have front : key.toList.takeWhile (· ≠ ':') = space.toList := by
      rw [whole, List.takeWhile_append_of_pos before]
      simp
    have back : (key.toList.dropWhile (· ≠ ':')).drop 1 = name.toList := by
      rw [whole, List.dropWhile_append_of_pos before]
      simp
    simp only [front, back, spaceNe, nameNe, plain, ne_eq, not_false_eq_true, and_self, if_true, String.ofList_toList]

end Parser

/-! ### Parameters -/

lemma Primitive.ofName?_eq_some_iff {name : String} {p : Primitive} : ofName? name = some p ↔ name = p.name := by
  constructor
  · intro h
    simpa using (Eq.symm <| by simpa using List.find?_some h)
  · rintro rfl
    exact ofName?_name p

lemma StringKind.ofName?_eq_some_iff {name : String} {k : StringKind} : ofName? name = some k ↔ name = k.name := by
  constructor
  · intro h
    simpa using (Eq.symm <| by simpa using List.find?_some h)
  · rintro rfl
    exact ofName?_name k

namespace Resolver

variable {r : Resolver} {space name : String} {taken : List Token} {made : List ParseError} {cs rest : List Char}
  {q : TokenStream} {promise : ArgumentType → List Char → Prop}

lemma resolveFrom_answer {type : ArgumentType} (hr : r.request space name taken made = .answer type) :
    r.resolveFrom space name taken made q = .ok type q := by
  rw [resolveFrom_eq, hr]
  rfl

lemma resolveFrom_refuse {complaint : Complaint} {cause : Option Cause}
    (hr : r.request space name taken made = .refuse complaint cause) :
    r.resolveFrom space name taken made q = .error (.failed (.parse (q.errorAt complaint cause))) q := by
  rw [resolveFrom_eq, hr]
  rfl

lemma comes_resolveFrom_refuse {complaint : Complaint} {cause : Option Cause}
    (hr : r.request space name taken made = .refuse complaint cause) (plain : ∀ io, cause ≠ some (.io io)) :
    Comes TokenStream.Before promise (r.resolveFrom space name taken made q) := by
  rw [resolveFrom_refuse hr]
  exact .error (q.isComplaint_refuse complaint plain)

lemma resolveFrom_take {t : Token} {q' : TokenStream} (hr : r.request space name taken made = .take)
    (taken' : TokenStream.next q = .ok t q') :
    r.resolveFrom space name taken made q = r.resolveFrom space name (taken ++ [t]) made q' := by
  rw [resolveFrom_eq, hr]
  exact bind_of_ok (k := fun token => r.resolveFrom space name (taken ++ [token]) made) taken'

/-- A resolver that takes a token has to cope with the end of the input. -/
lemma comes_resolveFrom_take (hr : r.request space name taken made = .take) (h : q.Before cs)
    (token : ∀ t rest q', Opens cs t rest → q'.Before rest →
      Comes TokenStream.Before promise (r.resolveFrom space name (taken ++ [t]) made q'))
    (ends : ∀ q', Comes TokenStream.Before promise (r.resolveFrom space name (taken ++ [.endOfInput]) made q')) :
    Comes TokenStream.Before promise (r.resolveFrom space name taken made q) := by
  rcases TokenStream.next_cases h with ⟨t, rest, q', opens, next, place⟩ | ⟨q', next⟩ | ⟨e, q', failed, complains⟩
  · rw [resolveFrom_take hr next]
    exact token t rest q' opens place
  · rw [resolveFrom_take hr next]
    exact ends q'
  · have fails : r.resolveFrom space name taken made q = .error e q' := by
      rw [resolveFrom_eq, hr]
      exact bind_of_error (k := fun token => r.resolveFrom space name (taken ++ [token]) made) failed
    rw [fails]
    exact .error complains

/-- A string token is taken by a resolver that wants one if there is one. -/
lemma resolveFrom_takeStringOr {type : ArgumentType} {x : String} {q' : TokenStream}
    (hr : r.request space name taken made = Primitive.takeStringOr type) (took : TokenStream.next q = .ok (.string x) q') :
    r.resolveFrom space name taken made q = r.resolveFrom space name (taken ++ [.string x]) made q' := by
  obtain ⟨m, peeked, took'⟩ := TokenStream.exists_peek_of_next took
  have followed : (r.request space name taken made).follow made q = .ok (.inr made) m := by
    rw [hr]
    exact bind_of_ok peeked
  rw [resolveFrom_eq, bind_of_ok followed]
  exact bind_of_ok (k := fun token => r.resolveFrom space name (taken ++ [token]) made) took'

/-- Without a string token such a resolver answers. -/
lemma resolveFrom_answerFor {type : ArgumentType} {t : Token} {q' : TokenStream}
    (hr : r.request space name taken made = Primitive.takeStringOr type) (peeked : TokenStream.peek q = .ok t q')
    (other : t.isString = false) : r.resolveFrom space name taken made q = .ok type q' := by
  have followed : (r.request space name taken made).follow made q = .ok (.inl type) q' := by
    rw [hr, Primitive.takeStringOr, Request.follow]
    rw [bind_of_ok peeked]
    simp only [other, Bool.false_eq_true, if_false]
    rfl
  rw [resolveFrom_eq, bind_of_ok followed]
  rfl

/-- A resolver that wants a string token if there is one takes it and is carried on, or answers. -/
lemma comes_resolveFrom_takeStringOr {type : ArgumentType}
    (hr : r.request space name taken made = Primitive.takeStringOr type) (h : q.Before cs) (holds : promise type cs)
    (token : ∀ x rest q', Opens cs (.string x) rest → q'.Before rest →
      Comes TokenStream.Before promise (r.resolveFrom space name (taken ++ [.string x]) made q')) :
    Comes TokenStream.Before promise (r.resolveFrom space name taken made q) := by
  rcases cases_next cs with trivia | ⟨t, rest, opens⟩ | ⟨before, rest, complaint, fails⟩
  · obtain ⟨⟨q', peeked, place⟩, -⟩ := TokenStream.queries_of_ends h trivia
    rw [resolveFrom_eq, hr]
    simp only [Primitive.takeStringOr, Request.follow, bind, EStateM.bind, peeked]
    exact .ok place holds
  · cases string : t.isString with
    | true =>
        obtain ⟨x, rfl⟩ : ∃ x, t = .string x := by
          cases t <;> simp_all [Token.isString]
        obtain ⟨-, l, line, took, place⟩ := TokenStream.queries_of_opens h opens
        rw [resolveFrom_takeStringOr hr took]
        exact token x rest _ opens ⟨l, line, place, .inl rfl⟩
    | false =>
        obtain ⟨⟨q', peeked, place⟩, -⟩ := TokenStream.queries_of_opens h opens
        rw [resolveFrom_answerFor hr peeked string]
        exact .ok place holds
  · obtain ⟨⟨e, q', failed, complains⟩, -⟩ := TokenStream.queries_of_fails h fails
    rw [resolveFrom_eq, hr]
    simp only [Primitive.takeStringOr, Request.follow, bind, EStateM.bind, failed]
    exact .error complains

end Resolver

/-! ### Primitive types -/

namespace BoundProblem

/-- What is complained of where a text is no bound of a type. -/
def complaint (type text : String) : BoundProblem → Complaint
  | malformed _ => .malformedBound type text
  | outOfRange => .boundOutOfRange type text

/-- What is behind the complaint. -/
def cause? : BoundProblem → Option Cause
  | malformed cause => some cause
  | outOfRange => none

end BoundProblem

namespace NumericType

variable {text : String} {cause : Cause}

lemma cause_of_readSigned {bits : Nat} (h : readSigned bits text = .error (.malformed cause)) :
    Numeric.readInteger text = .error cause := by
  rw [readSigned] at h
  split at h
  · rename_i failed
    cases h
    exact failed
  · split at h <;> cases h

lemma cause_of_readDouble (h : readDouble text = .error (.malformed cause)) : cause = .notDecimal text := by
  rw [readDouble, Numeric.readDecimal] at h
  split at h
  · rename_i failed
    split at failed
    · cases failed
      cases h
      rfl
    · cases failed
  · split at h <;> cases h

lemma cause_of_narrow {v : Numeric.Floating Numeric.binary64} (h : narrow v = .error (.malformed cause)) :
    cause = .beyondSingle := by
  rw [narrow] at h
  generalize (v.convert? : Option (Numeric.Floating Numeric.binary32)) = converted at h
  cases converted with
  | some w => cases h
  | none =>
      cases h
      rfl

lemma cause_of_readSingle (h : readSingle text = .error (.malformed cause)) :
    cause = .notDecimal text ∨ cause = .beyondSingle := by
  rw [readSingle] at h
  split at h
  · rename_i failed
    cases h
    exact .inl (cause_of_readDouble failed)
  · exact .inr (cause_of_narrow h)

/-- A text that is no bound is so by itself: no file or stream has failed. -/
lemma cause_ne_io {t : NumericType} (h : t.readBound text = .error (.malformed cause)) (io : IoError) :
    some cause ≠ some (.io io) := by
  rintro ⟨⟩
  unfold readBound at h
  split at h
  · cases h
  split at h
  · cases h
  cases t with
  | integer => obtain same | ⟨_, _, same⟩ := Numeric.cause_of_readInteger (cause_of_readSigned h) <;> cases same
  | long => obtain same | ⟨_, _, same⟩ := Numeric.cause_of_readInteger (cause_of_readSigned h) <;> cases same
  | float => obtain same | same := cause_of_readSingle h <;> cases same
  | double => cases cause_of_readDouble h

end NumericType

namespace Primitive

open Resolver

variable {p : Primitive} {cs rest : List Char} {taken ps : List Token} {type : ArgumentType} {q : TokenStream}

lemma claims_primitive (own space name : String) :
    (primitive own).claims space name = (space == own && (ofName? name).isSome) := rfl

/-- The resolver that the standard registry has. -/
abbrev resolver : Resolver := .primitive ArgumentType.builtinSpace

/-- In its own name space, whatever that is, the resolver asks for what the primitive type of a name asks. -/
lemma request_resolver (own : String) (p : Primitive) (taken : List Token) (made : List ParseError) :
    (primitive own).request own p.name taken made = p.request taken := by
  rw [request_primitive, beq_self_eq_true, ofName?_name]

lemma withBound_of_ok {t : NumericType} {x : String} {a : t.Bound} (h : t.readBound x = .ok a)
    (next : t.Bound → Request) : withBound t (.string x) next = next a := by
  simp only [withBound, h]

lemma withBound_of_error {t : NumericType} {x : String} {problem : BoundProblem} {next : t.Bound → Request}
    (h : t.readBound x = .error problem) :
    withBound t (.string x) next = .refuse (problem.complaint t.name x) problem.cause? := by
  cases problem with
  | malformed cause => simp only [withBound, h, BoundProblem.complaint, BoundProblem.cause?]
  | outOfRange => simp only [withBound, h, BoundProblem.complaint, BoundProblem.cause?]

/-- A text that is no bound is complained of. -/
lemma comes_of_withBound {t : NumericType} {x : String} {problem : BoundProblem} {next : t.Bound → Request}
    {promise : ArgumentType → List Char → Prop} (h : t.readBound x = .error problem)
    (hr : p.request taken = withBound t (.string x) next) : Comes TokenStream.Before promise
      (resolver.resolveFrom ArgumentType.builtinSpace p.name taken [] q) := by
  have plain : ∀ io, problem.cause? ≠ some (.io io) := by
    cases problem with
    | malformed cause => exact NumericType.cause_ne_io h
    | outOfRange => exact fun _ same => nomatch same
  exact comes_resolveFrom_refuse ((request_resolver _ p taken []).trans (hr.trans (withBound_of_error h))) plain

/-- Resolving a string type takes a kind, or complains. -/
lemma comes_resolve_string (h : q.Before cs) : Comes TokenStream.Before
    (fun type rest => ∃ ps, Segments cs ps rest ∧ Parameters .string ps type)
    (resolver.resolveFrom ArgumentType.builtinSpace Primitive.string.name [] [] q) := by
  refine comes_resolveFrom_take (request_resolver _ .string [] []) h (fun t rest q' opens h' => ?_) fun q' =>
    comes_resolveFrom_refuse (request_resolver _ .string [.endOfInput] []) fun _ same => nomatch same
  cases t with
  | string word =>
      cases known : StringKind.ofName? word with
      | some kind =>
          obtain rfl := StringKind.ofName?_eq_some_iff.1 known
          have answer : stringRequest [.string kind.name] = .answer (.string kind) := by
            simp only [stringRequest, known]
          rw [List.nil_append, resolveFrom_answer ((request_resolver _ .string [.string kind.name] []).trans answer)]
          exact .ok h' ⟨_, .cons opens (.nil rest), .string kind⟩
      | none =>
          have refuse : stringRequest [.string word] = .refuse (.unknownStringKind word) none := by
            simp only [stringRequest, known]
          exact comes_resolveFrom_refuse ((request_resolver _ .string [.string word] []).trans refuse)
            fun _ same => nomatch same
  | openBlock => exact comes_resolveFrom_refuse (request_resolver _ .string _ []) fun _ same => nomatch same
  | closeBlock => exact comes_resolveFrom_refuse (request_resolver _ .string _ []) fun _ same => nomatch same
  | statementEnd => exact comes_resolveFrom_refuse (request_resolver _ .string _ []) fun _ same => nomatch same
  | endOfInput => exact comes_resolveFrom_refuse (request_resolver _ .string _ []) fun _ same => nomatch same

/-- Resolving a numeric type takes up to two bounds, or complains of one. -/
lemma comes_resolve_numeric (t : NumericType) (h : q.Before cs) : Comes TokenStream.Before
    (fun type rest => ∃ ps, Segments cs ps rest ∧ Parameters (.numeric t) ps type)
    (resolver.resolveFrom ArgumentType.builtinSpace (Primitive.numeric t).name [] [] q) := by
  refine comes_resolveFrom_takeStringOr (request_resolver _ (.numeric t) [] []) h ⟨[], .nil cs, .unbounded t⟩
    fun x rest q' opens h' => ?_
  cases first : t.readBound x with
  | error problem => exact comes_of_withBound (p := .numeric t) first rfl
  | ok a =>
      have request := (request_resolver ArgumentType.builtinSpace (.numeric t) [.string x] []).trans (withBound_of_ok first _)
      refine comes_resolveFrom_takeStringOr request h' ⟨_, .cons opens (.nil rest), .lower first⟩
        fun y rest' q'' opens' h'' => ?_
      cases second : t.readBound y with
      | error problem => exact comes_of_withBound (p := .numeric t) second (withBound_of_ok first _)
      | ok b =>
          have request := (request_resolver ArgumentType.builtinSpace (.numeric t) [.string x, .string y] []).trans
            ((withBound_of_ok first _).trans (withBound_of_ok second _))
          simp only [List.nil_append, List.singleton_append]
          rw [resolveFrom_answer request]
          exact .ok h'' ⟨_, .cons opens (.cons opens' (.nil rest')), .both first second⟩

/-- Resolving a primitive type comes to what its parameters say, or to a complaint. -/
lemma comes_resolve (p : Primitive) (h : q.Before cs) : Comes TokenStream.Before
    (fun type rest => ∃ ps, Segments cs ps rest ∧ Parameters p ps type)
    (resolver.resolve ArgumentType.builtinSpace p.name q) := by
  rw [Resolver.resolve]
  cases p with
  | bool =>
      rw [resolveFrom_answer (request_resolver _ .bool [] [])]
      exact .ok h ⟨[], .nil cs, .bool⟩
  | string => exact comes_resolve_string h
  | numeric t => exact comes_resolve_numeric t h

/-- **All parameters of a primitive type are taken**, in any name space, if no other string token follows, which may have
been looked at then. -/
lemma resolve_of_takes (own : String) {t : Token} {q1 q2 : TokenStream} (parameters : Parameters p ps type)
    (takes : q.Takes ps q1) (peeked : TokenStream.peek q1 = .ok t q2) (other : t.isString = false) :
    ∃ q', (primitive own).resolve own p.name q = .ok type q' ∧ (q' = q1 ∨ q' = q2) := by
  rw [Resolver.resolve]
  cases parameters with
  | bool =>
      cases takes
      exact ⟨_, resolveFrom_answer (request_resolver own .bool [] []), .inl rfl⟩
  | string kind =>
      obtain - | ⟨took, ⟨⟩⟩ := takes
      have answer : stringRequest [.string kind.name] = .answer (.string kind) := by
        simp only [stringRequest, StringKind.ofName?_name]
      rw [resolveFrom_take (request_resolver own .string [] []) took]
      exact ⟨_, resolveFrom_answer ((request_resolver own .string [.string kind.name] []).trans answer), .inl rfl⟩
  | unbounded t =>
      cases takes
      exact ⟨_, resolveFrom_answerFor (request_resolver own (.numeric t) [] []) peeked other, .inr rfl⟩
  | @lower t x a first =>
      obtain - | ⟨took, ⟨⟩⟩ := takes
      have request := (request_resolver own (.numeric t) [.string x] []).trans (withBound_of_ok first _)
      rw [resolveFrom_takeStringOr (request_resolver own (.numeric t) [] []) took]
      exact ⟨_, resolveFrom_answerFor request peeked other, .inr rfl⟩
  | @both t x y a b first second =>
      obtain - | ⟨took, - | ⟨took', ⟨⟩⟩⟩ := takes
      have request := (request_resolver own (.numeric t) [.string x] []).trans (withBound_of_ok first _)
      have answer := (request_resolver own (.numeric t) [.string x, .string y] []).trans
        ((withBound_of_ok first _).trans (withBound_of_ok second _))
      rw [resolveFrom_takeStringOr (request_resolver own (.numeric t) [] []) took, List.nil_append,
        resolveFrom_takeStringOr request took']
      exact ⟨_, resolveFrom_answer answer, .inl rfl⟩

end Primitive

/-! ### Argument types -/

namespace Registry

/-- The standard registry asks its one resolver. -/
lemma claimant?_standard (space name : String) : standard.claimant? space name =
    if space == ArgumentType.builtinSpace && (Primitive.ofName? name).isSome then some Primitive.resolver
    else none := by
  have claims : Primitive.resolver.claims space name =
      (space == ArgumentType.builtinSpace && (Primitive.ofName? name).isSome) := rfl
  rw [claimant?, standard]
  rw [List.find?_cons]
  cases claimed : Primitive.resolver.claims space name with
  | true => rw [← claims, claimed, if_pos rfl]
  | false => rw [← claims, claimed, if_neg Bool.false_ne_true, List.find?_nil]

/-- The names of the primitive types are resolved. -/
lemma resolve_standard (p : Primitive) :
    standard.resolve ArgumentType.builtinSpace p.name =
      Primitive.resolver.resolve ArgumentType.builtinSpace p.name := by
  have claimant := claimant?_standard ArgumentType.builtinSpace p.name
  rw [beq_self_eq_true, Primitive.ofName?_name, Option.isSome_some, Bool.and_self, if_pos rfl] at claimant
  rw [resolve]
  rw [claimant]

/-- All other names are refused. -/
lemma resolve_standard_unknown {space name : String}
    (h : ∀ p : Primitive, ¬ (space = ArgumentType.builtinSpace ∧ name = p.name)) :
    standard.resolve space name = TokenStream.refuse (.unknownType space name) none := by
  have claimed : (space == ArgumentType.builtinSpace && (Primitive.ofName? name).isSome) = false := by
    cases known : Primitive.ofName? name with
    | none => rw [Option.isSome_none, Bool.and_false]
    | some p =>
        have other : space ≠ ArgumentType.builtinSpace := fun own => h p ⟨own, Primitive.ofName?_eq_some_iff.1 known⟩
        rw [beq_eq_false_iff_ne.2 other, Bool.false_and]
  have claimant := claimant?_standard space name
  rw [claimed, if_neg Bool.false_ne_true] at claimant
  rw [resolve]
  rw [claimant]

end Registry

namespace Parser

variable {s : ParseState} {cs rest : List Char} {key : String} {p : Primitive} {ps : List Token} {type : ArgumentType}

/-- Recording a claimant moves nothing. -/
lemma recordClaimant_eq_ok (registry : Registry) (space name : String) (s : ParseState) :
    ∃ s', recordClaimant registry space name s = .ok () s' ∧ s'.tokens = s.tokens := by
  rw [recordClaimant]
  cases registry.claimant? space name with
  | none => exact ⟨s, rfl, rfl⟩
  | some resolver => exact ⟨_, rfl, rfl⟩

/-- A computation on the tokens that succeeds does so in a parser. -/
lemma onTokens_of_ok {α : Type} {m : TokenM α} {a : α} {q : TokenStream} (h : m s.tokens = .ok a q) :
    onTokens m s = .ok a { s with tokens := q } := by
  simp only [onTokens, h]

/-- Reading an argument type comes to what the grammar says of the key and the tokens taken, or to a complaint. -/
lemma comes_argumentType (key : String) (h : s.Before cs) : Comes ParseState.Before
    (fun type rest => ∃ p ps, Refers key p ∧ Segments cs ps rest ∧ Parameters p ps type)
    (argumentType .standard key s) := by
  rw [argumentType]
  cases parts : splitKey? key with
  | none => exact comes_refuse s (.invalidKey key)
  | some both =>
      obtain ⟨space, name⟩ := both
      obtain ⟨split, spaceNe, nameNe⟩ := splitKey?_eq_some_iff.1 parts
      obtain ⟨s', recorded, same⟩ := recordClaimant_eq_ok .standard space name s
      simp only
      rw [bind_of_ok recorded]
      have h' : s'.tokens.Before cs := by
        rw [same]
        exact h
      by_cases known : ∃ p : Primitive, space = ArgumentType.builtinSpace ∧ name = p.name
      · obtain ⟨p, rfl, rfl⟩ := known
        rw [Registry.resolve_standard]
        refine comes_onTokens ((Primitive.comes_resolve p h').mono ?_)
        rintro type rest ⟨ps, segments, parameters⟩
        exact ⟨p, ps, ⟨_, _, split, spaceNe, nameNe, rfl, rfl⟩, segments, parameters⟩
      · rw [Registry.resolve_standard_unknown (not_exists.1 known)]
        exact comes_refuse s' (.unknownType space name)

/-- A type reference has the type that its two parts are resolved to. -/
lemma argumentType_of_resolve {registry : Registry} {space name : String} {q : TokenStream}
    (parts : splitKey? key = some (space, name)) (resolved : registry.resolve space name s.tokens = .ok type q) :
    ∃ s', argumentType registry key s = .ok type s' ∧ s'.tokens = q := by
  obtain ⟨s', recorded, same⟩ := recordClaimant_eq_ok registry space name s
  rw [← same] at resolved
  refine ⟨{ s' with tokens := q }, ?_, rfl⟩
  simp only [argumentType, parts]
  rw [bind_of_ok recorded]
  exact onTokens_of_ok resolved

/-- The tokens of a type reference are read if its two parts are resolved from them, wherever they stand. -/
lemma argumentType_of_takes {registry : Registry} {space name : String} {t : Token} {rest' : List Char}
    (parts : splitKey? key = some (space, name))
    (resolves : ∀ q q1 q2, q.Takes ps q1 → TokenStream.peek q1 = .ok t q2 →
      ∃ q', registry.resolve space name q = .ok type q' ∧ (q' = q1 ∨ q' = q2))
    (segments : Segments cs ps rest) (follows : Opens rest t rest') (h : s.Before cs) :
    ∃ s', argumentType registry key s = .ok type s' ∧ s'.Before rest := by
  obtain ⟨q1, takes, place⟩ := TokenStream.exists_takes h segments
  obtain ⟨⟨q2, peeked, place'⟩, -⟩ := TokenStream.queries_of_opens place follows
  obtain ⟨q', resolved, last⟩ := resolves _ q1 q2 takes peeked
  obtain ⟨s', read, tokens⟩ := argumentType_of_resolve parts resolved
  refine ⟨s', read, ?_⟩
  rw [ParseState.Before, tokens]
  rcases last with rfl | rfl
  · exact place
  · exact place'

/-- All that belongs to an argument type is read, if no other string token follows. -/
lemma argumentType_of_parameters {t : Token} {rest' : List Char} (refers : Refers key p)
    (parameters : Parameters p ps type) (segments : Segments cs ps rest) (follows : Opens rest t rest')
    (other : t.isString = false) (h : s.Before cs) :
    ∃ s', argumentType .standard key s = .ok type s' ∧ s'.Before rest := by
  obtain ⟨space, name, split, spaceNe, nameNe, rfl, rfl⟩ := refers
  refine argumentType_of_takes (splitKey?_eq_some_iff.2 ⟨split, spaceNe, nameNe⟩) (fun q q1 q2 takes peeked => ?_)
    segments follows h
  rw [Registry.resolve_standard]
  exact Primitive.resolve_of_takes _ parameters takes peeked other

end Parser

end CommandTree
