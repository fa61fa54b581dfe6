import Mathlib.Tactic.Common
import CommandTree.Node.Json
import CommandTree.Value.Json
/-!
The text of a JSON document determines the document.

A written string is read back by the reader of strings, which also finds where the string ends; a pair of surrogates is
never taken for two characters. A number ends where a character stands that no number has. Between brackets the entries
follow one another, each behind a comma, until no comma follows. So a text that begins with a document begins with no other
document, and this carries over from the entries to the whole.

* `JsonText.writes_escapedChar`: the ways to write a character within a string;
* `JsonText.readText?_escaped`: **a written string is read back**, with what follows it;
* `JsonValue.bracketed_inj`: entries between brackets determine themselves, if each entry does;
* `JsonValue.textAt_append_inj` and `JsonValue.text_inj`: **documents with the same text are the same**;
* `JsonValue.isAscii_text`: the text of a document is ASCII.
-/

namespace CommandTree

open Text

/-! ### Hexadecimal digits -/

namespace JsonText

/-- A further digit makes sixteen times as much, and the digit. -/
lemma hexNumber?_concat (cs : List Char) {d : Nat} (small : d < 16) :
    hexNumber? (cs ++ [d.digitChar]) = (hexNumber? cs).map (16 * · + d) := by
  have digit : ∀ d < 16, (d.digitChar.isDigit = true ∧ d.digitChar.toNat - '0'.toNat = d) ∨
      (d.digitChar.isDigit = false ∧ ('a' ≤ d.digitChar.toLower && d.digitChar.toLower ≤ 'f') = true ∧
        d.digitChar.toLower.toNat - 'a'.toNat + 10 = d) := by
    decide
  rw [hexNumber?, List.foldl_append, ← hexNumber?]
  cases hexNumber? cs with
  | none => rfl
  | some n =>
      rcases digit d small with ⟨decimal, value⟩ | ⟨letter, inside, value⟩
      · simpa [decimal] using value
      · simp only [Bool.and_eq_true, decide_eq_true_eq] at inside
        simpa [letter, inside] using value

/-- The digits of a number stand for it. -/
lemma hexNumber?_toDigits (n : Nat) : hexNumber? (Nat.toDigits 16 n) = some n := by
  induction n using Nat.strongRecOn with
  | ind n ih =>
      rw [Nat.toDigits_eq_if (by decide)]
      split
      · rename_i small
        have digit := hexNumber?_concat [] small
        simpa [hexNumber?] using digit
      · rename_i large
        rw [hexNumber?_concat _ (Nat.mod_lt _ (by decide)), ih _ (by omega), Option.map_some, Nat.div_add_mod]

lemma hexNumber?_zeros_append (k : Nat) (cs : List Char) :
    hexNumber? (List.replicate k '0' ++ cs) = hexNumber? cs := by
  induction k with
  | zero => rfl
  | succ k ih => rw [← ih]; rfl

/-- A unit of 16 bits has four digits, which stand for it. -/
lemma exists_hexDigits {n : Nat} (small : n < 0x10000) :
    ∃ a b c d, hexDigits 4 n = [a, b, c, d] ∧ hexNumber? [a, b, c, d] = some n := by
  have value : hexNumber? (hexDigits 4 n) = some n := (hexNumber?_zeros_append _ _).trans (hexNumber?_toDigits n)
  have short : (Nat.toDigits 16 n).length ≤ 4 := (Nat.length_toDigits_le_iff (by decide) (by decide)).2 small
  have length : (hexDigits 4 n).length = 4 := by
    rw [hexDigits, List.length_append, List.length_replicate]
    omega
  match hexDigits 4 n, length, value with
  | [a, b, c, d], _, value => exact ⟨a, b, c, d, rfl, value⟩

/-! ### Strings -/

/-- The UTF-16 code units of a character. -/
def unitsOf (c : Char) : List Nat :=
  if c.toNat < 0x10000 then [c.toNat]
  else [0xD800 + (c.toNat - 0x10000) / 0x400, 0xDC00 + (c.toNat - 0x10000) % 0x400]

/-- A character is no surrogate. -/
lemma scalar_toNat (c : Char) : c.toNat < 0xD800 ∨ (0xDFFF < c.toNat ∧ c.toNat < 0x110000) := c.valid

/-- Reads units and then goes on. -/
def withUnits (units : List Nat) (behind : Option (List Nat × List Char)) : Option (List Nat × List Char) :=
  behind.map fun (more, rest) => (units ++ more, rest)

lemma withUnits_withUnits (us vs : List Nat) (behind : Option (List Nat × List Char)) :
    withUnits us (withUnits vs behind) = withUnits (us ++ vs) behind := by
  cases behind with
  | none => rfl
  | some _ => simp only [withUnits, Option.map_some, List.append_assoc]

variable (rest : List Char)

lemma readUnits?_short {e c : Char} (known : escaped? e = some c) :
    readUnits? ('\\' :: e :: rest) = withUnits [c.toNat] (readUnits? rest) := by
  have noUnit : e ≠ 'u' := by
    rintro rfl
    cases known
  rw [readUnits?]
  · rw [known]
    cases readUnits? rest <;> rfl
  · rintro _ _ _ _ _ rfl
    exact absurd rfl noUnit

lemma readUnits?_plain {c : Char} (quote : c ≠ '"') (slash : c ≠ '\\') (above : 0x20 ≤ c.toNat) :
    readUnits? (c :: rest) = withUnits [c.toNat] (readUnits? rest) := by
  rw [readUnits?]
  · rw [if_neg (Nat.not_lt.2 above)]
    cases readUnits? rest <;> rfl
  · exact quote
  · exact fun _ _ _ _ _ same => absurd same slash
  · exact fun _ _ same => absurd same slash

/-- A unit of 16 bits as an escape. -/
def unitText (n : Nat) : List Char := '\\' :: 'u' :: hexDigits 4 n

lemma readUnits?_unit {n : Nat} (small : n < 0x10000) :
    readUnits? (unitText n ++ rest) = withUnits [n] (readUnits? rest) := by
  obtain ⟨a, b, c, d, digits, value⟩ := exists_hexDigits small
  rw [unitText, digits]
  simp only [List.cons_append, List.nil_append, readUnits?, value]
  cases readUnits? rest with
  | none => rfl
  | some behind => rfl

/-- Escaped units are read back. -/
lemma readUnits?_units {units : List Nat} (small : ∀ n ∈ units, n < 0x10000) :
    readUnits? (units.flatMap unitText ++ rest) = withUnits units (readUnits? rest) := by
  induction units with
  | nil =>
      rw [List.flatMap_nil, List.nil_append]
      cases readUnits? rest <;> rfl
  | cons n units ih =>
      rw [List.forall_mem_cons] at small
      rw [List.flatMap_cons, List.append_assoc, readUnits?_unit _ small.1, ih small.2, withUnits_withUnits,
        List.singleton_append]

/-- Code units have 16 bits. -/
lemma unitsOf_lt (c : Char) : ∀ n ∈ unitsOf c, n < 0x10000 := by
  have scalar := scalar_toNat c
  unfold unitsOf
  split
  · rename_i small
    exact List.forall_mem_singleton.2 small
  · exact List.forall_mem_cons.2 ⟨by omega, List.forall_mem_singleton.2 (by omega)⟩

/-- The ways to write a character within a string. -/
inductive Writes (c : Char) : List Char → Prop
  | short {e : Char} (known : escaped? e = some c) (ascii : e.toNat < 0x80) (small : c.toNat < 0x10000) :
      Writes c ['\\', e]
  | plain (quote : c ≠ '"') (slash : c ≠ '\\') (above : 0x20 ≤ c.toNat) (below : c.toNat ≤ 0x7E) : Writes c [c]
  | encoded : Writes c ((unitsOf c).flatMap unitText)

/-- A character is written in one of these ways. -/
lemma writes_escapedChar (c : Char) : Writes c (JsonValue.escapedChar c) := by
  unfold JsonValue.escapedChar
  split
  · rename_i special
    simp only [Bool.or_eq_true, decide_eq_true_eq] at special
    rcases special with rfl | rfl
    · exact .short rfl (by decide) (by decide)
    · exact .short rfl (by decide) (by decide)
  split
  · subst c; exact .short rfl (by decide) (by decide)
  split
  · subst c; exact .short rfl (by decide) (by decide)
  split
  · subst c; exact .short rfl (by decide) (by decide)
  split
  · subst c; exact .short rfl (by decide) (by decide)
  split
  · subst c; exact .short rfl (by decide) (by decide)
  rename_i special _ _ _ _ _
  simp only [Bool.or_eq_true, decide_eq_true_eq, not_or] at special
  split
  · rename_i printable
    exact .plain special.1 special.2 printable.1 printable.2
  have written : Writes c ((unitsOf c).flatMap unitText) := .encoded
  rw [unitsOf] at written
  split
  · rename_i small
    rw [if_pos small, List.flatMap_singleton] at written
    exact written
  · rename_i large
    rw [if_neg large, List.flatMap_cons, List.flatMap_singleton] at written
    exact written

/-- A character is read back as its code units. -/
lemma readUnits?_escapedChar (c : Char) :
    readUnits? (JsonValue.escapedChar c ++ rest) = withUnits (unitsOf c) (readUnits? rest) := by
  have writes := writes_escapedChar c
  generalize JsonValue.escapedChar c = cs at writes ⊢
  cases writes with
  | @short e known ascii small =>
      rw [unitsOf, if_pos small]
      exact readUnits?_short rest known
  | plain quote slash above below =>
      have small : c.toNat < 0x10000 := by omega
      rw [unitsOf, if_pos small]
      exact readUnits?_plain rest quote slash above
  | encoded => exact readUnits?_units rest (unitsOf_lt c)

/-- The characters of code units are found again. -/
lemma charsOfUnits?_unitsOf (c : Char) (units : List Nat) :
    charsOfUnits? (unitsOf c ++ units) = (charsOfUnits? units).map (c :: ·) := by
  have scalar := scalar_toNat c
  unfold unitsOf
  split
  · rename_i small
    have single : c.toNat < 0xD800 ∨ 0xE000 ≤ c.toNat := by omega
    rw [List.singleton_append, charsOfUnits?.eq_def]
    simp only
    rw [if_pos single, Char.ofNat_toNat]
  · rename_i large
    have low : 0xDC00 + (c.toNat - 0x10000) % 0x400 < 0xE000 := by omega
    have high : 0xD800 + (c.toNat - 0x10000) / 0x400 < 0xDC00 := by omega
    have pair : ¬ (0xD800 + (c.toNat - 0x10000) / 0x400 < 0xD800 ∨ 0xE000 ≤ 0xD800 + (c.toNat - 0x10000) / 0x400) := by
      omega
    have together : 0x10000 + (0xD800 + (c.toNat - 0x10000) / 0x400 - 0xD800) * 0x400 +
        (0xDC00 + (c.toNat - 0x10000) % 0x400 - 0xDC00) = c.toNat := by
      omega
    simp only [List.cons_append, List.nil_append]
    rw [charsOfUnits?.eq_def]
    simp only
    rw [if_neg pair, if_pos ⟨high, Nat.le_add_right _ _, low⟩, together, Char.ofNat_toNat]

/-- **A written string is read back**, and so is what follows it. -/
theorem readText?_escaped (cs rest : List Char) :
    readText? (cs.flatMap JsonValue.escapedChar ++ '"' :: rest) = some (.ofList cs, rest) := by
  have chars : charsOfUnits? (cs.flatMap unitsOf) = some cs := by
    induction cs with
    | nil => rfl
    | cons c cs ih => rw [List.flatMap_cons, charsOfUnits?_unitsOf, ih, Option.map_some]
  have units : readUnits? (cs.flatMap JsonValue.escapedChar ++ '"' :: rest) = some (cs.flatMap unitsOf, rest) := by
    clear chars
    induction cs with
    | nil => rfl
    | cons c cs ih =>
        rw [List.flatMap_cons, List.flatMap_cons, List.append_assoc, readUnits?_escapedChar, ih]
        rfl
  rw [readText?, units]
  simp only [Option.bind_eq_bind, Option.bind_some, chars]
  rfl

end JsonText

/-! ### Texts that determine what they begin with -/

namespace JsonValue

open JsonText

variable {r s : List Char}

/-- The characters of which numbers are made. -/
def isNumberChar (c : Char) : Bool := c.isDigit || c == '-' || c == '+' || c == '.' || c == 'e'

/-- All characters are those of numbers. -/
def AllNumeric (cs : List Char) : Prop := ∀ c ∈ cs, isNumberChar c = true

lemma AllNumeric.append {cs ds : List Char} (hc : AllNumeric cs) (hd : AllNumeric ds) : AllNumeric (cs ++ ds) :=
  List.forall_mem_append.2 ⟨hc, hd⟩

lemma AllNumeric.cons {c : Char} {cs : List Char} (hc : isNumberChar c = true) (hd : AllNumeric cs) :
    AllNumeric (c :: cs) :=
  List.forall_mem_cons.2 ⟨hc, hd⟩

/-- No number goes on with these characters. -/
def Ends (r : List Char) : Prop := ∀ c ∈ r.head?, isNumberChar c = false

/-- A string determines itself and what follows it. -/
lemma stringText_append_inj {a b : String} (same : (stringText a).toList ++ r = (stringText b).toList ++ s) :
    a = b ∧ r = s := by
  have read (a : String) (r : List Char) : readText? ((stringText a).toList ++ r).tail = some (a, r) := by
    have written := readText?_escaped a.toList r
    simpa [stringText] using written
  have found := read a r
  rw [same, read b s] at found
  cases found
  exact ⟨rfl, rfl⟩

/-- A number determines itself and what follows it, unless it goes on. -/
lemma number_append_inj {a b : List Char} (ha : AllNumeric a) (hb : AllNumeric b) (hr : Ends r) (hs : Ends s)
    (same : a ++ r = b ++ s) : a = b ∧ r = s := by
  have front (a r : List Char) (ha : AllNumeric a) (hr : Ends r) :
      (a ++ r).takeWhile isNumberChar = a := by
    rw [List.takeWhile_append_of_pos ha]
    cases r with
    | nil => rw [List.takeWhile_nil, List.append_nil]
    | cons c r => rw [List.takeWhile_cons_of_neg (by simp [hr c rfl]), List.append_nil]
  have equal : a = b := by rw [← front a r ha hr, ← front b s hb hs, same]
  subst equal
  exact ⟨rfl, List.append_cancel_left same⟩

/-! ### Entries -/

section Entries

variable {α : Type} {gap : List Char} {f : α → List Char} {good : α → Prop} {as bs : List α}

/-- Neither a number nor a list of entries goes on with these characters. -/
structure Closes (r : List Char) : Prop where
  ends : Ends r
  apart : r.head? ≠ some ','

/-- Entries with a comma and a gap in front of each, and then what follows them. -/
def entries (gap : List Char) (f : α → List Char) (r : List Char) : List α → List Char
  | [] => r
  | a :: as => ',' :: (gap ++ (f a ++ entries gap f r as))

/-- An entry determines itself among the good ones, and what follows it, unless a number goes on there. -/
def Determined (good : α → Prop) (f : α → List Char) (a : α) : Prop :=
  ∀ b, good b → ∀ r s, Ends r → Ends s → f a ++ r = f b ++ s → a = b ∧ r = s

lemma ends_entries (hr : Ends r) : Ends (entries gap f r as) := by
  cases as with
  | nil => exact hr
  | cons =>
      rintro _ ⟨⟩
      decide

/-- Entries determine themselves and what follows them. -/
lemma entries_inj (ha : ∀ a ∈ as, Determined good f a) (hb : ∀ b ∈ bs, good b) (hr : Closes r) (hs : Closes s)
    (same : entries gap f r as = entries gap f s bs) : as = bs ∧ r = s := by
  induction as generalizing bs with
  | nil =>
      cases bs with
      | nil => exact ⟨rfl, same⟩
      | cons b bs =>
          refine absurd ?_ hr.apart
          rw [entries] at same
          rw [same]
          rfl
  | cons a as ih =>
      cases bs with
      | nil =>
          refine absurd ?_ hs.apart
          rw [entries, entries] at same
          rw [← same]
          rfl
      | cons b bs =>
          rw [List.forall_mem_cons] at ha hb
          obtain ⟨rfl, behind⟩ := ha.1 b hb.1 _ _ (ends_entries hr.ends) (ends_entries hs.ends)
            (List.append_cancel_left (List.cons.inj same).2)
          obtain ⟨rfl, rfl⟩ := ih ha.2 hb.2 behind
          exact ⟨rfl, rfl⟩

end Entries

section Brackets

variable {α : Type} {f : α → String} {as bs : List α} {indent : Option Nat} {level : Nat}
  {opening closing : String} {c : Char}

/-- What stands between a comma and the entry behind it. -/
def gap (indent : Option Nat) (level : Nat) : List Char :=
  match indent with
  | none => [' ']
  | some _ => (breakText indent level).toList

/-- Entries with a separator that begins with a comma, and what follows them. -/
lemma toList_intercalate {separator : String} {gap : List Char} (comma : separator.toList = ',' :: gap) (a : α)
    (as : List α) (r : List Char) : (separator.intercalate ((a :: as).map f)).toList ++ r =
      (f a).toList ++ entries gap (fun a => (f a).toList) r as := by
  induction as generalizing a with
  | nil => rw [List.map_singleton, String.intercalate_singleton, entries]
  | cons b bs ih =>
      rw [List.map_cons, List.map_cons, String.intercalate_cons_cons, ← List.map_cons, String.toList_append,
        String.toList_append, comma, List.append_assoc, List.append_assoc, ih, entries]
      rfl

/-- The text of entries between brackets, with what follows it. -/
lemma toList_bracketed_cons (a : α) (as : List α) (r : List Char) :
    (bracketed indent level opening closing ((a :: as).map f)).toList ++ r =
      opening.toList ++ ((breakText indent (level + 1)).toList ++ ((f a).toList ++
        entries (gap indent (level + 1)) (fun a => (f a).toList)
          ((breakText indent level).toList ++ (closing.toList ++ r)) as)) := by
  have whole (separator : String) (comma : separator.toList = ',' :: gap indent (level + 1)) :
      (opening ++ breakText indent (level + 1) ++ separator.intercalate ((a :: as).map f) ++ breakText indent level
        ++ closing).toList ++ r = opening.toList ++ ((breakText indent (level + 1)).toList ++ ((f a).toList ++
          entries (gap indent (level + 1)) (fun a => (f a).toList)
            ((breakText indent level).toList ++ (closing.toList ++ r)) as)) := by
    simp only [String.toList_append, List.append_assoc]
    rw [toList_intercalate comma]
  cases indent with
  | none => exact whole ", " rfl
  | some n => exact whole ("," ++ breakText (some n) (level + 1)) (String.toList_append)

lemma toList_breakText_some (n level : Nat) :
    (breakText (some n) level).toList = '\n' :: List.replicate (n * level) ' ' := by
  simp [breakText]

/-- What stands behind the last entry. -/
lemma closes_bracket (closes : closing.toList = [c]) (noNumber : isNumberChar c = false) (noComma : c ≠ ',')
    (r : List Char) : Closes ((breakText indent level).toList ++ (closing.toList ++ r)) := by
  rw [closes]
  cases indent with
  | none =>
      refine ⟨?_, ?_⟩
      · rintro _ ⟨⟩
        exact noNumber
      · simpa [breakText] using noComma
  | some n =>
      rw [toList_breakText_some]
      refine ⟨?_, by simp⟩
      rintro _ ⟨⟩
      decide

/-- An entry does not begin like a closing bracket. -/
lemma gap_ne (noFeed : c ≠ '\n') {a : α} (begins : ∃ d cs, (f a).toList = d :: cs ∧ c ≠ d) :
    c :: r ≠ (breakText indent level).toList ++ ((f a).toList ++ s) := by
  intro same
  obtain ⟨d, cs, text, apart⟩ := begins
  cases indent with
  | none =>
      rw [text] at same
      exact apart (List.cons.inj same).1
  | some n =>
      rw [toList_breakText_some] at same
      exact noFeed (List.cons.inj same).1

/-- **Entries between brackets determine themselves** and what follows them, if each entry does. -/
lemma bracketed_inj (good : α → Prop) (closes : closing.toList = [c]) (noNumber : isNumberChar c = false) (noComma : c ≠ ',')
    (noFeed : c ≠ '\n') (begins : ∀ a, good a → ∃ d cs, (f a).toList = d :: cs ∧ c ≠ d) (ha : ∀ a ∈ as, good a)
    (determined : ∀ a ∈ as, Determined good (fun a => (f a).toList) a) (hb : ∀ b ∈ bs, good b)
    (same : (bracketed indent level opening closing (as.map f)).toList ++ r =
      (bracketed indent level opening closing (bs.map f)).toList ++ s) : as = bs ∧ r = s := by
  have empty (r : List Char) : (bracketed indent level opening closing (([] : List α).map f)).toList ++ r =
      opening.toList ++ c :: r := by
    simp [bracketed, closes]
  have behind (r : List Char) := @closes_bracket indent level closing c closes noNumber noComma r
  cases as with
  | nil =>
      cases bs with
      | nil =>
          rw [empty, empty] at same
          exact ⟨rfl, (List.cons.inj (List.append_cancel_left same)).2⟩
      | cons b bs =>
          rw [empty, toList_bracketed_cons] at same
          exact absurd (List.append_cancel_left same) (gap_ne noFeed (begins b (hb b List.mem_cons_self)))
  | cons a as =>
      cases bs with
      | nil =>
          rw [empty, toList_bracketed_cons] at same
          exact absurd (List.append_cancel_left same).symm (gap_ne noFeed (begins a (ha a List.mem_cons_self)))
      | cons b bs =>
          rw [toList_bracketed_cons, toList_bracketed_cons] at same
          rw [List.forall_mem_cons] at determined hb
          obtain ⟨rfl, more⟩ := determined.1 b hb.1 _ _ (ends_entries (behind r).ends) (ends_entries (behind s).ends)
            (List.append_cancel_left (List.append_cancel_left same))
          obtain ⟨rfl, rest⟩ := entries_inj determined.2 hb.2 (behind r) (behind s) more
          rw [closes] at rest
          exact ⟨rfl, (List.cons.inj (List.append_cancel_left rest)).2⟩

end Brackets

/-! ### Documents -/

/-- All numbers of a document are written as numbers. -/
inductive IsWritten : JsonValue → Prop
  | number {text : String} (some : text ≠ "") (chars : AllNumeric text.toList) : IsWritten (number text)
  | string (s : String) : IsWritten (string s)
  | array {items : List JsonValue} (all : ∀ v ∈ items, IsWritten v) : IsWritten (array items)
  | object {members : List (String × JsonValue)} (all : ∀ m ∈ members, IsWritten m.2) : IsWritten (object members)

variable {v w : JsonValue} {indent : Option Nat} {level : Nat}

lemma itemTexts_eq (vs : List JsonValue) : itemTexts indent level vs = vs.map (textAt indent level) := by
  induction vs with
  | nil => rw [itemTexts, List.map_nil]
  | cons v vs ih => rw [itemTexts, ih, List.map_cons]

/-- The text of a member of an object. -/
def memberText (indent : Option Nat) (level : Nat) (m : String × JsonValue) : String :=
  stringText m.1 ++ ": " ++ textAt indent level m.2

lemma memberTexts_eq (ms : List (String × JsonValue)) :
    memberTexts indent level ms = ms.map (memberText indent level) := by
  induction ms with
  | nil => rw [memberTexts, List.map_nil]
  | cons m ms ih =>
      obtain ⟨k, v⟩ := m
      rw [memberTexts, ih, List.map_cons]
      rfl

/-- What the first character of a document tells: a string, an array or an object, and otherwise a number. -/
def lead : JsonValue → Char
  | number _ => '0'
  | string _ => '"'
  | array _ => '['
  | object _ => '\x7b'

/-- The sort of document that a character begins. -/
def leadOf (c : Char) : Char := if isNumberChar c then '0' else c

/-- A document begins with the character of its sort. -/
lemma exists_lead (h : v.IsWritten) : ∃ c cs, (textAt indent level v).toList = c :: cs ∧ leadOf c = v.lead := by
  have bracket (opening closing : String) (entries : List String) (c : Char) (opens : opening.toList = [c]) :
      ∃ cs, (bracketed indent level opening closing entries).toList = c :: cs := by
    unfold bracketed
    split
    · rw [String.toList_append, opens]
      exact ⟨_, rfl⟩
    · simp only [String.toList_append, opens, List.append_assoc]
      exact ⟨_, rfl⟩
  cases h with
  | @number text some chars =>
      rw [textAt]
      cases first : text.toList with
      | nil => exact absurd (String.toList_eq_nil_iff.1 first) some
      | cons c cs => exact ⟨c, cs, rfl, if_pos (chars c (first ▸ List.mem_cons_self))⟩
  | string s => exact ⟨'"', _, by rw [textAt, stringText, String.toList_ofList], rfl⟩
  | @array items all =>
      rw [textAt]
      obtain ⟨cs, text⟩ := bracket "[" "]" (itemTexts indent (level + 1) items) '[' rfl
      exact ⟨_, cs, text, rfl⟩
  | @object members all =>
      rw [textAt]
      obtain ⟨cs, text⟩ := bracket "\x7b" "\x7d" (memberTexts indent (level + 1) members) '\x7b' rfl
      exact ⟨_, cs, text, rfl⟩

/-- A document does not begin like a closing bracket. -/
lemma exists_ne_of_isWritten {c : Char} (h : v.IsWritten) (closes : leadOf c ∉ ['0', '"', '[', '\x7b']) :
    ∃ d cs, (textAt indent level v).toList = d :: cs ∧ c ≠ d := by
  obtain ⟨d, cs, text, sort⟩ := @exists_lead v indent level h
  refine ⟨d, cs, text, ?_⟩
  rintro rfl
  refine closes ?_
  rw [sort]
  cases v <;> simp [lead]

/-- Documents that begin alike are of one sort. -/
lemma lead_eq_of_append (hv : v.IsWritten) (hw : w.IsWritten)
    (same : (textAt indent level v).toList ++ r = (textAt indent level w).toList ++ s) : v.lead = w.lead := by
  obtain ⟨c, cs, text, sort⟩ := @exists_lead v indent level hv
  obtain ⟨d, ds, text', sort'⟩ := @exists_lead w indent level hw
  rw [text, text'] at same
  rw [← sort, ← sort', (List.cons.inj same).1]

/-- **A document determines itself and what follows it**, unless a number goes on there. -/
theorem textAt_append_inj (hv : v.IsWritten) (hw : w.IsWritten) (hr : Ends r) (hs : Ends s)
    (same : (textAt indent level v).toList ++ r = (textAt indent level w).toList ++ s) : v = w ∧ r = s := by
  induction hv generalizing w level r s with
  | @number text some chars =>
      have sorts := lead_eq_of_append (.number some chars) hw same
      cases hw with
      | @number text' some' chars' =>
          rw [textAt, textAt] at same
          obtain ⟨equal, rest⟩ := number_append_inj chars chars' hr hs same
          exact ⟨congrArg number (String.toList_injective equal), rest⟩
      | _ => cases sorts
  | string a =>
      have sorts := lead_eq_of_append (.string a) hw same
      cases hw with
      | string b =>
          rw [textAt, textAt] at same
          obtain ⟨rfl, rest⟩ := stringText_append_inj same
          exact ⟨rfl, rest⟩
      | _ => cases sorts
  | @array items all ih =>
      have sorts := lead_eq_of_append (.array all) hw same
      cases hw with
      | @array items' all' =>
          rw [textAt, textAt, itemTexts_eq, itemTexts_eq] at same
          obtain ⟨rfl, rest⟩ := bracketed_inj IsWritten rfl rfl (by decide) (by decide)
            (fun v hv => exists_ne_of_isWritten hv (by decide)) all
            (fun v mem w hw r s hr hs same => ih v mem hw hr hs same) all' same
          exact ⟨rfl, rest⟩
      | _ => cases sorts
  | @object members all ih =>
      have sorts := lead_eq_of_append (.object all) hw same
      cases hw with
      | @object members' all' =>
          rw [textAt, textAt, memberTexts_eq, memberTexts_eq] at same
          have determined : ∀ m ∈ members, Determined (fun m : String × JsonValue => m.2.IsWritten)
              (fun m => (memberText indent (level + 1) m).toList) m := by
            rintro ⟨k, v⟩ mem ⟨k', w⟩ hw r s hr hs same
            simp only [memberText, String.toList_append, List.append_assoc] at same
            obtain ⟨rfl, behind⟩ := stringText_append_inj same
            obtain ⟨rfl, rest⟩ := ih _ mem hw hr hs (List.append_cancel_left behind)
            exact ⟨rfl, rest⟩
          have begins (m : String × JsonValue) (_ : m.2.IsWritten) :
              ∃ d cs, (memberText indent (level + 1) m).toList = d :: cs ∧ '\x7d' ≠ d :=
            ⟨'"', _, by
              simp only [memberText, stringText, String.toList_append, String.toList_ofList, List.cons_append]
              rfl, by decide⟩
          obtain ⟨rfl, rest⟩ := bracketed_inj (fun m : String × JsonValue => m.2.IsWritten) rfl rfl (by decide) (by decide)
            begins all determined all' same
          exact ⟨rfl, rest⟩
      | _ => cases sorts

/-- **The text of a document determines the document**, at every indentation. -/
theorem text_inj (hv : v.IsWritten) (hw : w.IsWritten) (same : v.text indent = w.text indent) : v = w := by
  have ends : Ends [] := nofun
  have alike : (textAt indent 0 v).toList ++ [] = (textAt indent 0 w).toList ++ [] :=
    congrArg (fun t => t.toList ++ []) same
  exact (textAt_append_inj hv hw ends ends alike).1

/-! ### ASCII -/

/-- All characters are ASCII. -/
def AllAscii (cs : List Char) : Prop := ∀ c ∈ cs, c.toNat < 0x80

-- The list is searched; the instance that is found for the quantifier may go through all characters that there are.
instance (cs : List Char) : Decidable (AllAscii cs) :=
  decidable_of_iff (cs.all (fun c => decide (c.toNat < 0x80)) = true)
    (by simp only [AllAscii, List.all_eq_true, decide_eq_true_eq])

/-- All characters of a text are ASCII. -/
def IsAscii (t : String) : Prop := AllAscii t.toList

instance (t : String) : Decidable (IsAscii t) := inferInstanceAs (Decidable (AllAscii t.toList))

namespace IsAscii

variable {a b : String}

lemma append (ha : IsAscii a) (hb : IsAscii b) : IsAscii (a ++ b) := by
  rw [IsAscii, AllAscii, String.toList_append]
  exact List.forall_mem_append.2 ⟨ha, hb⟩

lemma intercalate {separator : String} {ts : List String} (hs : IsAscii separator) (all : ∀ t ∈ ts, IsAscii t) :
    IsAscii (separator.intercalate ts) := by
  induction ts with
  | nil => exact nofun
  | cons t ts ih =>
      rw [List.forall_mem_cons] at all
      cases ts with
      | nil =>
          rw [String.intercalate_singleton]
          exact all.1
      | cons u us =>
          rw [String.intercalate_cons_cons]
          exact (all.1.append hs).append (ih all.2)

lemma breakText (indent : Option Nat) (level : Nat) : IsAscii (breakText indent level) := by
  cases indent with
  | none => exact nofun
  | some n =>
      rw [IsAscii, toList_breakText_some]
      refine List.forall_mem_cons.2 ⟨by decide, fun c mem => ?_⟩
      rw [List.eq_of_mem_replicate mem]
      decide

lemma bracketed {opening closing : String} {ts : List String} {indent : Option Nat} {level : Nat}
    (opens : IsAscii opening) (closes : IsAscii closing) (all : ∀ t ∈ ts, IsAscii t) :
    IsAscii (bracketed indent level opening closing ts) := by
  have comma : IsAscii "," := by decide
  have gap : IsAscii ", " := by decide
  unfold JsonValue.bracketed
  split
  · exact opens.append closes
  · refine (((opens.append (breakText _ _)).append (intercalate ?_ all)).append (breakText _ _)).append closes
    cases indent with
    | none => exact gap
    | some n => exact comma.append (breakText _ _)

end IsAscii

/-- A hexadecimal digit is ASCII. -/
lemma toNat_lt_of_mem_hexDigits {width n : Nat} {c : Char} (mem : c ∈ hexDigits width n) : c.toNat < 0x80 := by
  have digit : ∀ d < 16, d.digitChar.toNat < 0x80 := by decide
  have digits (n : Nat) : ∀ c ∈ Nat.toDigits 16 n, c.toNat < 0x80 := by
    induction n using Nat.strongRecOn with
    | ind n ih =>
        rw [Nat.toDigits_eq_if (by decide)]
        split
        · rename_i small
          exact List.forall_mem_singleton.2 (digit n small)
        · exact List.forall_mem_append.2
            ⟨ih _ (by omega), List.forall_mem_singleton.2 (digit _ (Nat.mod_lt _ (by decide)))⟩
  rw [hexDigits, List.mem_append] at mem
  rcases mem with zero | mem
  · rw [List.eq_of_mem_replicate zero]
    decide
  · exact digits n c mem

/-- A written string is ASCII. -/
lemma isAscii_stringText (s : String) : IsAscii (stringText s) := by
  have escaped (c : Char) : AllAscii (escapedChar c) := by
    have writes := writes_escapedChar c
    generalize escapedChar c = cs at writes ⊢
    cases writes with
    | short known ascii small => exact List.forall_mem_cons.2 ⟨by decide, List.forall_mem_singleton.2 ascii⟩
    | plain quote slash above below => exact List.forall_mem_singleton.2 (by omega)
    | encoded =>
        refine List.forall_mem_flatMap.2 fun n _ => ?_
        exact List.forall_mem_cons.2 ⟨by decide, List.forall_mem_cons.2 ⟨by decide, fun d => toNat_lt_of_mem_hexDigits⟩⟩
  intro d mem
  rw [stringText, String.toList_ofList, List.mem_cons, List.mem_append, List.mem_flatMap, List.mem_singleton] at mem
  rcases mem with rfl | ⟨c, -, mem⟩ | rfl
  · decide
  · exact escaped c d mem
  · decide

/-- **The text of a document is ASCII.** -/
theorem isAscii_text (h : v.IsWritten) : IsAscii (v.text indent) := by
  have all (level : Nat) : IsAscii (textAt indent level v) := by
    induction h generalizing level with
    | @number text some chars =>
        rw [textAt]
        intro c mem
        have among := chars c mem
        simp only [isNumberChar, Bool.or_eq_true, beq_iff_eq, Char.isDigit_iff_toNat] at among
        rcases among with (((digit | rfl) | rfl) | rfl) | rfl
        · exact Nat.lt_of_le_of_lt digit.2 (by decide)
        all_goals decide
    | string s =>
        rw [textAt]
        exact isAscii_stringText s
    | @array items all ih =>
        rw [textAt, itemTexts_eq]
        refine .bracketed (by decide) (by decide) (List.forall_mem_map.2 fun v mem => ih v mem _)
    | @object members all ih =>
        rw [textAt, memberTexts_eq]
        refine .bracketed (by decide) (by decide) (List.forall_mem_map.2 fun m mem => ?_)
        exact ((isAscii_stringText m.1).append (by decide)).append (ih m mem _)
  exact all 0

end JsonValue

end CommandTree
