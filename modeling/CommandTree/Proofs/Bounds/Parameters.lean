import CommandTree.Proofs.Lexicon.Writing
import CommandTree.Proofs.RoundTrip
/-!
The parameters of numeric types are as few as can be.

A bound at the extreme of its type may be left out, but only behind all others. The parameters of a numeric type leave out
what they can: they are resolved to the type, and no fewer strings are.

* `Primitive.parameters_of_resolve`: what up to one string is resolved to;
* `ArgumentType.length_parameters_le`: strings that make a type, or one that is equal by its values, are at least as many
  as its parameters;
* `ArgumentType.parameters_shortest`: **the parameters are the shortest spelling of a numeric type.**
-/

namespace CommandTree

open Grammar

/-! ### Written tokens -/

/-- Tokens that are written out can be taken, and the one behind them can be looked at. -/
lemma TokenStream.exists_takes_written {ts : List Token} {t : Token} (ordinary : .endOfInput ∉ ts ++ [t]) :
    ∃ q1 q2, (ofText (" ".intercalate ((ts ++ [t]).map Token.written))).Takes ts q1 ∧ peek q1 = .ok t q2 := by
  obtain ⟨w, segments, -⟩ := Lexicon.lexes_intercalate ordinary
  obtain ⟨_, first, last⟩ := Lexicon.segments_append_iff.1 segments
  obtain ⟨_, opens, -⟩ := Lexicon.segments_cons_iff.1 last
  obtain ⟨q1, takes, place⟩ := exists_takes (before_ofChars _) first
  obtain ⟨⟨q2, peeked, -⟩, -⟩ := queries_of_opens place opens
  exact ⟨q1, q2, takes, peeked⟩

/-! ### Fewer strings -/

/-- In front of another token, no string is resolved to the whole range and one string to a range with a least value. -/
lemma Primitive.parameters_of_resolve {own : String} {t : NumericType} {words : List String} {next : Token}
    {type : ArgumentType} {q q1 q2 q' : TokenStream} (few : words.length ≤ 1) (takes : q.Takes (words.map .string) q1)
    (peeked : TokenStream.peek q1 = .ok next q2) (other : next.isString = false)
    (run : (Resolver.primitive own).resolve own t.name q = .ok type q') :
    Parameters (.numeric t) (words.map .string) type := by
  have parameters (type' : ArgumentType) (h : Parameters (.numeric t) (words.map .string) type') :
      Parameters (.numeric t) (words.map .string) type := by
    obtain ⟨_, resolved, -⟩ := Primitive.resolve_of_takes own h takes peeked other
    obtain rfl : type' = type := by
      rw [Primitive.name, run] at resolved
      cases resolved
      rfl
    exact h
  match words with
  | [] => exact parameters _ (.unbounded t)
  | [x] =>
      cases first : t.readBound x with
      | ok a => exact parameters _ (.lower first)
      | error problem =>
          obtain - | ⟨took, -⟩ := takes
          have asks (taken : List Token) : (Resolver.primitive own).request own t.name taken [] = numericRequest t taken :=
            Primitive.request_resolver own (.numeric t) taken []
          have refuses := (asks [.string x]).trans (Primitive.withBound_of_error first)
          rw [Resolver.resolve] at run
          rw [Resolver.resolveFrom_takeStringOr (asks []) took, List.nil_append,
            Resolver.resolveFrom_refuse refuses] at run
          cases run

namespace ArgumentType

variable {t : NumericType} {a b : t.Bound}

lemma length_parameters_numeric_le : (numeric t a b).parameters.length ≤ 2 := by
  rw [parameters]
  split
  · exact Nat.le_refl 2
  · split <;> simp

/-- Strings that make a type, or one that is equal by its values, are at least as many as its parameters. -/
lemma length_parameters_le {ps : List Token} {type : ArgumentType} (h : Parameters (.numeric t) ps type)
    (same : (numeric t a b).same type = true) : (numeric t a b).parameters.length ≤ ps.length := by
  cases h with
  | unbounded =>
      rw [ArgumentType.same, Bool.and_eq_true, Bool.and_eq_true] at same
      obtain rfl := NumericType.eq_of_same (.inl rfl) same.1.2
      obtain rfl := NumericType.eq_of_same (.inr rfl) same.2
      rw [parameters, if_neg (not_not.2 rfl), if_neg (not_not.2 rfl)]
      exact Nat.le_refl 0
  | lower first =>
      rw [ArgumentType.same, Bool.and_eq_true, Bool.and_eq_true] at same
      obtain rfl := NumericType.eq_of_same (.inr rfl) same.2
      rw [parameters, if_neg (not_not.2 rfl)]
      split <;> simp
  | both => exact length_parameters_numeric_le

/-- **The parameters of a numeric type are its shortest spelling.** Let some strings stand in front of another token, and
let the resolver of the primitive types be asked for the type of the name, whatever its name space is. If the strings are
the parameters, the answer is the type, exactly they are taken, and no more than the token behind them has been looked at.
If they are fewer, any answer is another type, also by its values. -/
theorem parameters_shortest (own : String) (t : NumericType) (a b : t.Bound) :
    (∀ (q q1 q2 : TokenStream) (next : Token), q.Takes ((numeric t a b).parameters.map .string) q1 →
      TokenStream.peek q1 = .ok next q2 → next.isString = false →
        ∃ q', (Resolver.primitive own).resolve own t.name q = .ok (numeric t a b) q' ∧ (q' = q1 ∨ q' = q2)) ∧
    ∀ (words : List String) (q q1 q2 q' : TokenStream) (next : Token) (type : ArgumentType),
      words.length < (numeric t a b).parameters.length → q.Takes (words.map .string) q1 →
      TokenStream.peek q1 = .ok next q2 → next.isString = false →
        (Resolver.primitive own).resolve own t.name q = .ok type q' → (numeric t a b).same type = false := by
  refine ⟨fun q q1 q2 next takes peeked other => ?_, fun words q q1 q2 q' next type fewer takes peeked other run => ?_⟩
  · exact Primitive.resolve_of_takes _ (parameters_numeric t a b) takes peeked other
  · have few : words.length ≤ 1 := by
      have most : (numeric t a b).parameters.length ≤ 2 := length_parameters_numeric_le
      omega
    have made := Primitive.parameters_of_resolve few takes peeked other run
    by_contra equal
    have enough := length_parameters_le made (Bool.eq_true_of_not_eq_false equal)
    rw [List.length_map] at enough
    omega

/-- Crossed bounds of single precision, of which one is an extreme and the other is written with an exponent: both
parameters are needed, since the first alone is another type. -/
theorem parameters_shortest_crossed :
    let b : NumericType.float.Bound := (⟨true, 869711765, by decide⟩ : Numeric.Floating Numeric.binary32)
    let type : ArgumentType := numeric .float NumericType.float.highest b
    let other : ArgumentType := numeric .float NumericType.float.highest NumericType.float.highest
    let text (words : List String) := " ".intercalate ((words.map Token.string ++ [Token.statementEnd]).map Token.written)
    type.parameters = ["max", "-1.0000000116860974e-07"] ∧
      (∃ q, (Resolver.primitive "own").resolve "own" "float" (.ofText (text type.parameters)) = .ok type q) ∧
      (∃ q, (Resolver.primitive "own").resolve "own" "float" (.ofText (text ["max"])) = .ok other q) ∧
      type.same other = false := by
  intro b type other text
  have parameters : type.parameters = ["max", "-1.0000000116860974e-07"] := by decide +kernel
  have streams (words : List String) : ∃ q1 q2, (TokenStream.ofText (text words)).Takes (words.map .string) q1 ∧
      TokenStream.peek q1 = .ok .statementEnd q2 :=
    have ordinary : .endOfInput ∉ words.map Token.string ++ [.statementEnd] := by simp
    TokenStream.exists_takes_written ordinary
  obtain ⟨q1, q2, takes, peeked⟩ := streams type.parameters
  obtain ⟨q3, q4, takes', peeked'⟩ := streams ["max"]
  obtain ⟨whole, fewer⟩ := parameters_shortest "own" .float NumericType.float.highest b
  obtain ⟨q, resolved, -⟩ := whole _ q1 q2 .statementEnd takes peeked rfl
  obtain ⟨q', resolved', -⟩ := Primitive.resolve_of_takes "own" (Parameters.lower (t := .float) rfl) takes'
    peeked' rfl
  have less : ["max"].length < type.parameters.length := by rw [parameters]; decide
  exact ⟨parameters, ⟨q, resolved⟩, ⟨q', resolved'⟩,
    fewer ["max"] _ q3 q4 q' .statementEnd other less takes' peeked' rfl resolved'⟩

end ArgumentType

end CommandTree
