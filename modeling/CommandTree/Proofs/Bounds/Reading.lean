import CommandTree.Proofs.Bounds
import CommandTree.Proofs.Grammar.Resolving
import CommandTree.Proofs.Insertion
import CommandTree.Proofs.Lexicon.Writing
import Mathlib.Data.List.Induction
import Mathlib.Data.Nat.Digits.Defs
/-!
Bounds as they stand behind a type reference.

A numeric type is resolved in front of strings, of which the first two are its bounds, and of some other token. What that
comes to depends on the strings alone, and on nothing about the tokens but which they are. For the integer types it is said
without reading: a bound is one of two words, or a numeral in range.

* `NumericType.Resolves` is what resolving comes to for any numeric type; `NumericType.resolves_of_yields`: it does;
* `Numeral` are the integers as they may be written, and `readInteger_eq_ok_iff`: these are read and no others;
* `NumericType.StandsFor` is the integer that a text stands for as a bound of so many bits, and `NumericType.Misstated`
  is how a text that stands for none is refused;
* `NumericType.resolve_whole`: **integer bounds are read exactly.**
-/

namespace CommandTree

open Numeric

/-! ### Tokens that are left -/

namespace TokenStream

variable {q : TokenStream} {t : Token} {ts : List Token}

/-- The first of the tokens that are left can be looked at, and stays in place. -/
lemma Yields.exists_peek (h : q.Yields (t :: ts) none) : ∃ q', peek q = .ok t q' ∧ q'.Yields (t :: ts) none := by
  have sees := (Lookahead.shows_unseen_iff.2 h).sees
  simp only [peek, Lookahead.peek, bind, EStateM.bind]
  generalize Lookahead.peek? Lexer.producer q = seen at sees ⊢
  cases sees with
  | some shows _ => exact ⟨_, rfl, Lookahead.shows_unseen_iff.1 shows⟩

/-- It can be taken, and then the others are left. -/
lemma Yields.exists_next (h : q.Yields (t :: ts) none) : ∃ q', next q = .ok t q' ∧ q'.Yields ts none := by
  have sees := (Lookahead.shows_unseen_iff.2 h).sees
  simp only [next, Lookahead.next, Lookahead.next?, bind, EStateM.bind]
  generalize Lookahead.peek? Lexer.producer q = seen at sees ⊢
  cases sees with
  | some _ taken => exact ⟨_, rfl, Lookahead.shows_unseen_iff.1 taken⟩

end TokenStream

/-! ### Numeric types in front of strings -/

namespace NumericType

variable {t : NumericType} {words : List String} {next : Token} {rest : List Token} {q : TokenStream}

/-- What resolving a numeric type comes to in front of some strings. The first two are its bounds and all else is left, or
the first of these two that is no bound is refused. -/
inductive Resolves (t : NumericType) (words : List String) (behind : List Token) :
    EStateM.Result TokenError TokenStream ArgumentType → Prop
  | ok {type : ArgumentType} {q : TokenStream} (parameters : Grammar.Parameters (.numeric t) ((words.take 2).map .string) type)
      (left : q.Yields ((words.drop 2).map .string ++ behind) none) : Resolves t words behind (.ok type q)
  | refused {before after : List String} {x : String} {problem : BoundProblem} {q : TokenStream}
      (split : words.take 2 = before ++ x :: after) (sound : ∀ y ∈ before, ∃ b, t.readBound y = .ok b)
      (bad : t.readBound x = .error problem) : Resolves t words behind
        (.error (.failed (.parse (q.errorAt (problem.complaint t.name x) problem.cause?))) q)

/-- **A numeric type is resolved from the strings in front of it**, whatever tokens they are a part of. -/
theorem resolves_of_yields (t : NumericType) (h : q.Yields (words.map .string ++ next :: rest) none)
    (other : next.isString = false) :
    t.Resolves words (next :: rest) (Primitive.resolver.resolve ArgumentType.builtinSpace t.name q) := by
  have request (taken : List Token) : Primitive.resolver.request ArgumentType.builtinSpace t.name taken [] =
      Primitive.numericRequest t taken := Primitive.request_resolver _ (.numeric t) taken []
  rw [Resolver.resolve]
  cases words with
  | nil =>
      obtain ⟨q', peeked, left⟩ := TokenStream.Yields.exists_peek h
      rw [Resolver.resolveFrom_answerFor (request []) peeked other]
      exact .ok (.unbounded t) left
  | cons x words =>
      obtain ⟨q', taken, behind⟩ := TokenStream.Yields.exists_next h
      rw [Resolver.resolveFrom_takeStringOr (request []) taken, List.nil_append]
      cases first : t.readBound x with
      | error problem =>
          have split : (x :: words).take 2 = [] ++ x :: words.take 1 := rfl
          rw [Resolver.resolveFrom_refuse ((request [.string x]).trans (Primitive.withBound_of_error first))]
          exact .refused split (List.forall_mem_nil _) first
      | ok a =>
          have request' := (request [.string x]).trans (Primitive.withBound_of_ok first _)
          cases words with
          | nil =>
              obtain ⟨q'', peeked, left⟩ := TokenStream.Yields.exists_peek behind
              rw [Resolver.resolveFrom_answerFor request' peeked other]
              exact .ok (.lower first) left
          | cons y words =>
              obtain ⟨q'', taken', left⟩ := TokenStream.Yields.exists_next behind
              rw [Resolver.resolveFrom_takeStringOr request' taken', List.singleton_append]
              have request'' := (request [.string x, .string y]).trans (Primitive.withBound_of_ok first _)
              cases second : t.readBound y with
              | error problem =>
                  have split : (x :: y :: words).take 2 = [x] ++ y :: [] := rfl
                  rw [Resolver.resolveFrom_refuse (request''.trans (Primitive.withBound_of_error second))]
                  exact .refused split (List.forall_mem_singleton.2 ⟨a, first⟩) second
              | ok b =>
                  rw [Resolver.resolveFrom_answer (request''.trans (Primitive.withBound_of_ok second _))]
                  exact .ok (.both first second) left

end NumericType

/-! ### Integers as they may be written -/

namespace Numeric

/-- Digits of a natural number: at least one, no more than are converted, and zeros in front as they like. -/
structure IsMagnitude (ds : List Char) (n : Nat) : Prop where
  nonempty : ds ≠ []
  digits : AllDigits ds
  few : ds.length ≤ Cause.digitLimit
  value : n = Nat.ofDigits 10 (ds.reverse.map fun c => c.toNat - '0'.toNat)

/-- The integers as they may be written: digits, perhaps behind a sign. -/
inductive Numeral : List Char → Int → Prop
  | plain {ds : List Char} {n : Nat} (digits : IsMagnitude ds n) : Numeral ds n
  | plus {ds : List Char} {n : Nat} (digits : IsMagnitude ds n) : Numeral ('+' :: ds) n
  | minus {ds : List Char} {n : Nat} (digits : IsMagnitude ds n) : Numeral ('-' :: ds) (-n)

lemma digitsValue_eq_ofDigits (ds : List Char) :
    digitsValue ds = Nat.ofDigits 10 (ds.reverse.map fun c => c.toNat - '0'.toNat) := by
  induction ds using List.reverseRecOn with
  | nil => rfl
  | append_singleton ds d ih =>
      have last : digitsValue [d] = d.toNat - '0'.toNat := Nat.zero_add _
      rw [digitsValue_append, ih, last, List.reverse_append, List.reverse_singleton, List.singleton_append, List.map_cons,
        Nat.ofDigits_cons, List.length_singleton, Nat.pow_one, Nat.add_comm]

variable {text : String} {n : Int}

/-- A numeral is a literal that has not too many digits. -/
lemma numeral_iff : Numeral text.toList n ↔
    ∃ l, IntegerLiteral.ofText? text = some l ∧ l.digits.length ≤ Cause.digitLimit ∧ l.value = n := by
  constructor
  · intro written
    have literal (sign ds : List Char) (negative : Bool) (m : Nat) (isSign : IsSign sign negative)
        (parts : text.toList = sign ++ ds) (digits : IsMagnitude ds m) :
        ∃ l, IntegerLiteral.ofText? text = some l ∧ l.digits.length ≤ Cause.digitLimit ∧
          l.value = if negative then -(m : Int) else m := by
      refine ⟨_, IntegerLiteral.ofText?_of_sign isSign digits.nonempty digits.digits parts, digits.few, ?_⟩
      rw [IntegerLiteral.value, digitsValue_eq_ofDigits, ← digits.value]
    generalize parts : text.toList = cs at written
    cases written with
    | plain digits => exact literal [] _ false _ isSign_nil parts digits
    | plus digits => exact literal ['+'] _ false _ isSign_plus parts digits
    | minus digits => exact literal ['-'] _ true _ isSign_minus parts digits
  · rintro ⟨l, read, few, rfl⟩
    obtain ⟨split, ne, digits⟩ := IntegerLiteral.ofText?_eq_some_iff.1 read
    have magnitude : IsMagnitude l.digits (digitsValue l.digits) := ⟨ne, digits, few, digitsValue_eq_ofDigits _⟩
    rw [IntegerLiteral.value]
    rcases splitSign_cases text.toList with ⟨ds, parts, split'⟩ | ⟨ds, parts, split'⟩ | split'
    · obtain ⟨sign, rfl⟩ := Prod.mk.inj (split.symm.trans split')
      rw [parts, sign]
      exact .minus magnitude
    · obtain ⟨sign, rfl⟩ := Prod.mk.inj (split.symm.trans split')
      rw [parts, sign]
      exact .plus magnitude
    · obtain ⟨sign, same⟩ := Prod.mk.inj (split.symm.trans split')
      rw [← same, sign]
      exact .plain magnitude

/-- **The numerals are read, and nothing else is.** -/
theorem readInteger_eq_ok_iff : readInteger text = .ok n ↔ Numeral text.toList n := by
  rw [numeral_iff, readInteger]
  cases IntegerLiteral.ofText? text with
  | none => simp
  | some l =>
      by_cases few : l.digits.length ≤ Cause.digitLimit
      · simp [few]
      · simp [few]

end Numeric

/-! ### Integer bounds -/

namespace NumericType

/-- The number of bits of an integer type. -/
def bits? : NumericType → Option Nat
  | integer => some 32
  | long => some 64
  | float | double => none

/-- The integer that a text stands for as a bound of so many bits: the words stand for the extremes, and a numeral for its
number if that is in range. -/
inductive StandsFor (bits : Nat) : String → Int → Prop
  | lowest : StandsFor bits lowestWord (-2 ^ (bits - 1))
  | highest : StandsFor bits highestWord (2 ^ (bits - 1) - 1)
  | numeral {x : String} {n : Int} (written : Numeral x.toList n) (lower : -2 ^ (bits - 1) ≤ n)
      (upper : n ≤ 2 ^ (bits - 1) - 1) : StandsFor bits x n

/-- The integers that texts stand for as the two bounds: a missing bound is the extreme, and a third text counts for
nothing. -/
def StandForBounds (bits : Nat) : List String → Int → Int → Prop
  | [], m, n => m = -2 ^ (bits - 1) ∧ n = 2 ^ (bits - 1) - 1
  | [x], m, n => StandsFor bits x m ∧ n = 2 ^ (bits - 1) - 1
  | x :: y :: _, m, n => StandsFor bits x m ∧ StandsFor bits y n

/-- How a text that stands for no bound is refused: what is no numeral is not what was expected, because of its value, and a
numeral is out of range, with nothing behind it. -/
inductive Misstated (bits : Nat) (type x : String) (error : ParseError) : Prop
  | malformed (other : x ≠ lowestWord ∧ x ≠ highestWord ∧ ¬ ∃ n, Numeral x.toList n)
      (message : error.message = s!"Expected {type} but got {x}")
      (cause : error.cause = some (.notInteger x) ∨
        ∃ count, Cause.digitLimit < count ∧ error.cause = some (.tooManyDigits count))
  | outOfRange {n : Int} (written : Numeral x.toList n) (outside : n < -2 ^ (bits - 1) ∨ 2 ^ (bits - 1) - 1 < n)
      (message : error.message = s!"Value {x} is out of range for {type}") (cause : error.cause = none)

variable {bits : Nat} {x : String} {n : Int}

lemma ne_words_of_numeral (written : Numeral x.toList n) : x ≠ lowestWord ∧ x ≠ highestWord := by
  obtain ⟨l, literal, -⟩ := numeral_iff.1 written
  exact ne_words_of_literal literal

/-- What is no word stands for its number, if that is in range. -/
lemma standsFor_iff (other : x ≠ lowestWord ∧ x ≠ highestWord) :
    StandsFor bits x n ↔ Numeral x.toList n ∧ -2 ^ (bits - 1) ≤ n ∧ n ≤ 2 ^ (bits - 1) - 1 := by
  constructor
  · rintro (_ | _ | ⟨written, lower, upper⟩)
    · exact absurd rfl other.1
    · exact absurd rfl other.2
    · exact ⟨written, lower, upper⟩
  · rintro ⟨written, lower, upper⟩
    exact .numeral written lower upper

/-- The words stand for nothing but the extremes. -/
lemma standsFor_word_iff : (StandsFor bits lowestWord n ↔ n = -2 ^ (bits - 1)) ∧
    (StandsFor bits highestWord n ↔ n = 2 ^ (bits - 1) - 1) := by
  have apart : lowestWord ≠ highestWord := by decide
  constructor
  · constructor
    · intro stands
      generalize same : lowestWord = x at stands
      cases stands with
      | lowest => rfl
      | highest => exact absurd same apart
      | numeral written => exact absurd same.symm (ne_words_of_numeral written).1
    · rintro rfl
      exact .lowest
  · constructor
    · intro stands
      generalize same : highestWord = x at stands
      cases stands with
      | lowest => exact absurd same.symm apart
      | highest => rfl
      | numeral written => exact absurd same.symm (ne_words_of_numeral written).2
    · rintro rfl
      exact .highest

/-- What reading a text as a bound of so many bits comes to: the text stands for the value and for no other, or for none and
is refused. -/
inductive ReadsAs (bits : Nat) (type x : String) {α : Type} (value : α → Number) : Except BoundProblem α → Prop
  | ok {b : α} {m : Int} (number : value b = .whole m) (stands : ∀ n, StandsFor bits x n ↔ n = m) :
      ReadsAs bits type x value (.ok b)
  | error {problem : BoundProblem} (none : ¬ ∃ n, StandsFor bits x n)
      (misstated : ∀ line, Misstated bits type x ⟨problem.complaint type x, line, problem.cause?⟩) :
      ReadsAs bits type x value (.error problem)

lemma readsAs_readSigned (other : x ≠ lowestWord ∧ x ≠ highestWord) (type : String) :
    ReadsAs bits type x (fun b => .whole b.val) (readSigned bits x) := by
  have stands (n : Int) : StandsFor bits x n ↔
      readInteger x = .ok n ∧ -2 ^ (bits - 1) ≤ n ∧ n ≤ 2 ^ (bits - 1) - 1 := by
    rw [standsFor_iff other, readInteger_eq_ok_iff]
  rw [readSigned]
  cases read : readInteger x with
  | error cause =>
      have noNumeral : ¬ ∃ n, Numeral x.toList n := by
        rintro ⟨n, written⟩
        cases read.symm.trans (readInteger_eq_ok_iff.2 written)
      have none : ¬ ∃ n, StandsFor bits x n := by
        rintro ⟨n, h⟩
        cases read.symm.trans ((stands n).1 h).1
      refine .error none fun line => .malformed ⟨other.1, other.2, noNumeral⟩ rfl ?_
      rcases cause_of_readInteger read with rfl | ⟨count, many, rfl⟩
      · exact .inl rfl
      · exact .inr ⟨count, many, rfl⟩
  | ok m =>
      simp only
      by_cases inRange : -2 ^ (bits - 1) ≤ m ∧ m ≤ 2 ^ (bits - 1) - 1
      · have bound : Signed.ofInt? m = some (⟨m, inRange.1, Int.lt_of_le_sub_one inRange.2⟩ : Signed bits) :=
          Signed.ofInt?_eq_some_iff.2 rfl
        rw [bound]
        refine .ok rfl fun n => ⟨fun h => ?_, ?_⟩
        · cases read.symm.trans ((stands n).1 h).1
          rfl
        · rintro rfl
          exact (stands n).2 ⟨read, inRange⟩
      · have noBound : (Signed.ofInt? m : Option (Signed bits)) = none := by
          refine Option.eq_none_iff_forall_ne_some.2 fun b found => ?_
          obtain rfl := Signed.ofInt?_eq_some_iff.1 found
          exact inRange ⟨b.lower, Int.le_sub_one_of_lt b.upper⟩
        rw [noBound]
        refine .error ?_ fun line => .outOfRange (readInteger_eq_ok_iff.1 read) (by omega) rfl rfl
        rintro ⟨n, h⟩
        obtain ⟨read', within⟩ := (stands n).1 h
        cases read.symm.trans read'
        exact inRange within

/-- A bound of an integer type is read as what the text stands for. -/
lemma readsAs_readBound {t : NumericType} (whole : t.bits? = some bits) (x : String) :
    ReadsAs bits t.name x t.number (t.readBound x) := by
  rw [readBound.eq_def]
  split
  · rename_i lowest
    subst lowest
    cases t <;> cases whole <;> exact .ok rfl fun _ => standsFor_word_iff.1
  split
  · rename_i highest
    subst highest
    cases t <;> cases whole <;> exact .ok rfl fun _ => standsFor_word_iff.2
  · rename_i notLowest notHighest
    cases t <;> cases whole <;> exact readsAs_readSigned ⟨notLowest, notHighest⟩ _

lemma exists_readBound_iff {t : NumericType} (whole : t.bits? = some bits) :
    (∃ b, t.readBound x = .ok b) ↔ ∃ n, StandsFor bits x n := by
  have reads := readsAs_readBound whole x
  generalize t.readBound x = r at reads
  cases reads with
  | ok number stands => exact ⟨fun _ => ⟨_, (stands _).2 rfl⟩, fun _ => ⟨_, rfl⟩⟩
  | error none _ => exact ⟨nofun, fun stands => absurd stands none⟩

/-- A text that is read as a bound stands for its value, and for no other. -/
lemma standsFor_iff_of_readBound {t : NumericType} {b : t.Bound} (whole : t.bits? = some bits)
    (read : t.readBound x = .ok b) (n : Int) : StandsFor bits x n ↔ t.number b = .whole n := by
  have reads := readsAs_readBound whole x
  rw [read] at reads
  cases reads with
  | ok number stands => rw [stands, number, Number.whole.injEq, eq_comm]

/-- The parameters of an integer type stand for its bounds, one by one and together. -/
lemma stand_of_parameters {t : NumericType} {words : List String} {type : ArgumentType} (whole : t.bits? = some bits)
    (parameters : Grammar.Parameters (.numeric t) ((words.take 2).map .string) type) :
    (∀ x ∈ words.take 2, ∃ n, StandsFor bits x n) ∧ ∃ a b, type = .numeric t a b ∧
      ∀ m n, StandForBounds bits words m n ↔ t.number a = .whole m ∧ t.number b = .whole n := by
  have each {x : String} {b : t.Bound} (read : t.readBound x = .ok b) : ∃ n, StandsFor bits x n :=
    (exists_readBound_iff whole).1 ⟨b, read⟩
  have lowest (m : Int) : m = -2 ^ (bits - 1) ↔ t.number t.lowest = .whole m := by
    have number : t.number t.lowest = .whole (-2 ^ (bits - 1)) := by cases t <;> cases whole <;> rfl
    rw [number, Number.whole.injEq, eq_comm]
  have highest (n : Int) : n = 2 ^ (bits - 1) - 1 ↔ t.number t.highest = .whole n := by
    have number : t.number t.highest = .whole (2 ^ (bits - 1) - 1) := by cases t <;> cases whole <;> rfl
    rw [number, Number.whole.injEq, eq_comm]
  match words with
  | [] =>
      cases parameters
      exact ⟨List.forall_mem_nil _, _, _, rfl, fun m n => and_congr (lowest m) (highest n)⟩
  | [x] =>
      cases parameters with
      | lower first =>
          refine ⟨List.forall_mem_singleton.2 (each first), _, _, rfl, fun m n => ?_⟩
          exact and_congr (standsFor_iff_of_readBound whole first m) (highest n)
  | x :: y :: more =>
      cases parameters with
      | both first second =>
          refine ⟨List.forall_mem_cons.2 ⟨each first, List.forall_mem_singleton.2 (each second)⟩, _, _, rfl, fun m n => ?_⟩
          exact and_congr (standsFor_iff_of_readBound whole first m) (standsFor_iff_of_readBound whole second n)

/-- **Integer bounds are read exactly.** In front of some strings and another token, resolving an integer type of so many
bits succeeds if and only if each of the first two strings stands for an integer. Then these two are taken, no token behind
them is, and the bounds are the integers that they stand for, and no others. Otherwise the first of them that stands for
none is refused, as what was not expected or as out of range. -/
theorem resolve_whole {t : NumericType} {words : List String} {next : Token} {rest : List Token} {q : TokenStream}
    (whole : t.bits? = some bits) (yields : q.Yields (words.map .string ++ next :: rest) none)
    (other : next.isString = false) :
    ((∃ type q', Primitive.resolver.resolve ArgumentType.builtinSpace t.name q = .ok type q') ↔
      ∀ x ∈ words.take 2, ∃ n, StandsFor bits x n) ∧
    (∀ type q', Primitive.resolver.resolve ArgumentType.builtinSpace t.name q = .ok type q' →
      q'.Yields ((words.drop 2).map .string ++ next :: rest) none ∧ ∃ a b, type = .numeric t a b ∧
        ∀ m n, StandForBounds bits words m n ↔ t.number a = .whole m ∧ t.number b = .whole n) ∧
    ∀ e q', Primitive.resolver.resolve ArgumentType.builtinSpace t.name q = .error e q' →
      ∃ before x after error, words.take 2 = before ++ x :: after ∧ (∀ y ∈ before, ∃ n, StandsFor bits y n) ∧
        e = .failed (.parse error) ∧ Misstated bits t.name x error := by
  have resolves := resolves_of_yields t yields other
  generalize Primitive.resolver.resolve ArgumentType.builtinSpace t.name q = r at resolves
  cases resolves with
  | ok parameters left =>
      obtain ⟨each, together⟩ := stand_of_parameters whole parameters
      refine ⟨⟨fun _ => each, fun _ => ⟨_, _, rfl⟩⟩, ?_, fun _ _ no => nomatch no⟩
      rintro type q' ⟨⟩
      exact ⟨left, together⟩
  | @refused before after x problem q' split sound bad =>
      have reads := readsAs_readBound whole x
      rw [bad] at reads
      cases reads with
      | error none misstated =>
          refine ⟨⟨fun resolved => ?_, fun each => ?_⟩, (fun _ _ no => nomatch no), ?_⟩
          · obtain ⟨_, _, ⟨⟩⟩ := resolved
          · have member : x ∈ words.take 2 := by
              rw [split]
              exact List.mem_append_right _ List.mem_cons_self
            exact absurd (each x member) none
          · rintro e q'' ⟨⟩
            exact ⟨before, x, after, _, split, fun y hy => (exists_readBound_iff whole).1 (sound y hy), rfl, misstated _⟩

/-- Zeros in front, a plus and the extreme of the type are read, and the third text is left although it is no numeral. -/
theorem resolve_whole_zeros : NumericType.long.bits? = some 64 ∧ Token.statementEnd.isString = false ∧ ∃ q : TokenStream,
    q.Yields [.string "+007", .string "-9223372036854775808", .string "x", .statementEnd, .endOfInput] none ∧
    ∃ a b q', Primitive.resolver.resolve ArgumentType.builtinSpace NumericType.long.name q = .ok (.numeric .long a b) q' ∧
      NumericType.long.number a = .whole 7 ∧ NumericType.long.number b = .whole (-9223372036854775808) ∧
      q'.Yields [.string "x", .statementEnd, .endOfInput] none := by
  have ordinary : .endOfInput ∉ [Token.string "+007", .string "-9223372036854775808", .string "x", .statementEnd] := by
    decide
  obtain ⟨q, yields⟩ : ∃ q : TokenStream, q.Yields
      (["+007", "-9223372036854775808", "x"].map .string ++ .statementEnd :: [.endOfInput]) none :=
    ⟨_, (Lexer.before_ofChars _).yields_of_lexes (Lexicon.lexes_intercalate ordinary)⟩
  have seven : IsMagnitude ['0', '0', '7'] 7 := ⟨nofun, List.all_eq_true.1 rfl, by decide, by decide⟩
  have extreme : IsMagnitude ("9223372036854775808".toList) 9223372036854775808 :=
    ⟨nofun, List.all_eq_true.1 rfl, by decide, by decide⟩
  have first : StandsFor 64 "+007" 7 := .numeral (.plus seven) (by decide) (by decide)
  have second : StandsFor 64 "-9223372036854775808" (-9223372036854775808) :=
    .numeral (.minus extreme) (by decide) (by decide)
  have each : ∀ x ∈ ["+007", "-9223372036854775808"], ∃ n, StandsFor 64 x n :=
    List.forall_mem_cons.2 ⟨⟨_, first⟩, List.forall_mem_singleton.2 ⟨_, second⟩⟩
  obtain ⟨succeeds, reads, -⟩ := resolve_whole (t := .long) rfl yields rfl
  obtain ⟨type, q', resolved⟩ := succeeds.2 each
  obtain ⟨left, a, b, rfl, bounds⟩ := reads _ _ resolved
  obtain ⟨least, greatest⟩ := (bounds _ _).1 ⟨first, second⟩
  exact ⟨rfl, rfl, q, yields, a, b, q', resolved, least, greatest, left⟩

end NumericType

end CommandTree
