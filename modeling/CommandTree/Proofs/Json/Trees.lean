import CommandTree.Proofs.Json.Text
import CommandTree.Proofs.Types
/-!
The JSON text of a tree determines the tree.

A number is written so that it can be read back, so its text determines it; the key of a type tells which type its numbers
belong to. So the document of a tree determines the tree, and the text of the document determines the document.

* `NumericType.text_number_inj`, `ArgumentType.toJson_inj`, `Node.toJson_inj`: the steps from numbers to trees;
* `Node.isWritten_toJson`: the numbers of a document are written as numbers;
* `Node.jsonText_eq_iff`: **trees are equal exactly if their JSON texts are**, and the text is ASCII.
-/

namespace CommandTree

open Numeric JsonValue

/-! ### Numbers -/

namespace NumericType

/-- The text of a bound can be read back, and without a text there is no bound. -/
lemma exists_read (t : NumericType) : ∃ read : String → Except BoundProblem t.Bound,
    (∀ b, read (t.number b).text = .ok b) ∧ ∀ b, read "" ≠ .ok b := by
  have nothing (bits : Nat) (b : Signed bits) : readSigned bits "" ≠ .ok b := by
    intro read
    cases read
  cases t with
  | integer => exact ⟨readSigned 32, readSigned_toString (by decide), nothing 32⟩
  | long => exact ⟨readSigned 64, readSigned_toString (by decide), nothing 64⟩
  | float => exact ⟨readSingle, readSingle_text, nofun⟩
  | double => exact ⟨readDouble, readDouble_text, nofun⟩

variable {t : NumericType} {a b : t.Bound}

/-- The text of a bound determines the bound. -/
lemma text_number_inj (same : (t.number a).text = (t.number b).text) : a = b := by
  obtain ⟨read, back, -⟩ := t.exists_read
  have first := back a
  rw [same, back b] at first
  exact (Except.ok.inj first).symm

lemma text_number_ne_empty (b : t.Bound) : (t.number b).text ≠ "" := by
  obtain ⟨read, back, none⟩ := t.exists_read
  intro empty
  exact none b (empty ▸ back b)

end NumericType

section Writing

variable {cs : List Char}

lemma allNumeric_of_allDigits (h : AllDigits cs) : AllNumeric cs := fun c mem => by
  simp only [isNumberChar, h c mem, Bool.true_or]

/-- Digits with a point among them are those of a number. -/
lemma allNumeric_positional (digits : AllDigits cs) (position : Int) :
    AllNumeric (NumberLayout.positional cs position) := by
  unfold NumberLayout.positional
  split
  · exact .cons rfl (.cons rfl (allNumeric_of_allDigits ((allDigits_zeros _).append digits)))
  split
  · exact (allNumeric_of_allDigits (digits.append (allDigits_zeros _))).append (.cons rfl (.cons rfl nofun))
  · refine AllNumeric.append (allNumeric_of_allDigits fun c mem => ?_)
      (.cons rfl (allNumeric_of_allDigits fun c mem => ?_))
    · exact digits c (List.mem_of_mem_take mem)
    · exact digits c (List.mem_of_mem_drop mem)

/-- So are digits with a power of ten. -/
lemma allNumeric_scientific (l : NumberLayout) (digits : AllDigits cs) (exponent : Int) :
    AllNumeric (l.scientific cs exponent) := by
  have all := allNumeric_of_allDigits digits
  have power (k n : Nat) : AllNumeric (List.replicate k '0' ++ Nat.toDigits 10 n) :=
    allNumeric_of_allDigits ((allDigits_zeros k).append (allDigits_toDigits n))
  unfold NumberLayout.scientific
  refine AllNumeric.append ?_ (.cons rfl (.cons ?_ (power _ _)))
  · match cs with
    | [] => exact .cons rfl nofun
    | [d] => exact all
    | d :: e :: ds => exact .cons (all d List.mem_cons_self) (.cons rfl fun c mem => all c (List.mem_cons_of_mem d mem))
  · split <;> rfl

/-- The text of a number of double precision is made of such characters. -/
lemma allNumeric_text (v : Floating binary64) : AllNumeric v.text.toList := by
  have signed {cs : List Char} (h : AllNumeric cs) : AllNumeric (if v.negative then '-' :: cs else cs) := by
    split
    · exact .cons rfl h
    · exact h
  rw [Floating.text, NumberLayout.text, String.toList_ofList]
  refine signed ?_
  split
  · exact allNumeric_positional (allDigits_toDigits _) _
  · exact allNumeric_scientific _ (allDigits_toDigits _) _

/-- So is the text of an integer. -/
lemma allNumeric_toString (n : Int) : AllNumeric (toString n).toList := by
  have digits (n : Nat) := allNumeric_of_allDigits (allDigits_toDigits n)
  rw [Int.toString_eq_repr, Int.repr_eq_if]
  split
  · simpa using digits _
  · simpa using AllNumeric.cons (c := '-') rfl (digits _)

/-- The text of a bound is made of the characters of numbers, and not empty. -/
lemma NumericType.isWritten_number (t : NumericType) (b : t.Bound) : (JsonValue.number (t.number b).text).IsWritten := by
  refine .number (text_number_ne_empty b) ?_
  cases t with
  | integer => exact allNumeric_toString _
  | long => exact allNumeric_toString _
  | float => exact allNumeric_text _
  | double => exact allNumeric_text _

end Writing

/-! ### Types -/

namespace ArgumentType

/-- What a primitive type is called. -/
def primitive? : ArgumentType → Option Primitive
  | bool => some .bool
  | string _ => some .string
  | numeric t _ _ => some (.numeric t)
  | custom _ => none

/-- The key of a primitive type tells which one it is. -/
lemma primitive?_eq_of_key {s t : ArgumentType} (hs : s.isPrimitive = true) (ht : t.isPrimitive = true)
    (same : s.key = t.key) : s.primitive? = t.primitive? := by
  have key {t : ArgumentType} (ht : t.isPrimitive = true) : t.key = keyOf builtinSpace t.name := by
    cases t with
    | custom c => cases ht
    | _ => rfl
  have named {t : ArgumentType} (ht : t.isPrimitive = true) : Primitive.ofName? t.name = t.primitive? := by
    cases t with
    | bool => exact Primitive.ofName?_name .bool
    | string k => exact Primitive.ofName?_name .string
    | numeric u a b => exact Primitive.ofName?_name (.numeric u)
    | custom c => cases ht
  rw [key hs, key ht] at same
  have names := congrArg String.toList same
  rw [keyOf, keyOf, String.toList_append, String.toList_append, String.toList_append] at names
  rw [← named hs, ← named ht, String.toList_injective (List.append_cancel_left names)]

/-- The document of a primitive type determines the type. -/
lemma toJson_inj {s t : ArgumentType} (hs : s.isPrimitive = true) (ht : t.isPrimitive = true)
    (same : s.toJson = t.toJson) : s = t := by
  obtain ⟨fields, last⟩ := List.append_inj' (JsonValue.object.inj same) rfl
  have sorts := primitive?_eq_of_key hs ht (JsonValue.string.inj (congrArg Prod.snd (List.cons.inj last).1))
  cases s with
  | bool =>
      cases t with
      | bool => rfl
      | _ => cases sorts
  | string k =>
      cases t with
      | string l =>
          have kinds : k.name = l.name := JsonValue.string.inj (congrArg Prod.snd (List.cons.inj fields).1)
          have known := StringKind.ofName?_name k
          rw [kinds, StringKind.ofName?_name] at known
          cases known
          rfl
      | _ => cases sorts
  | numeric u a b =>
      cases t with
      | numeric v c d =>
          cases sorts
          obtain ⟨first, more⟩ := List.cons.inj fields
          obtain ⟨second, -⟩ := List.cons.inj more
          rw [NumericType.text_number_inj (JsonValue.number.inj (congrArg Prod.snd first)),
            NumericType.text_number_inj (JsonValue.number.inj (congrArg Prod.snd second))]
      | _ => cases sorts
  | custom c => cases hs

/-- The document of a primitive type is written. -/
lemma isWritten_toJson {t : ArgumentType} (primitive : t.isPrimitive = true) : t.toJson.IsWritten := by
  refine .object ?_
  cases t with
  | bool => exact List.forall_mem_singleton.2 (.string _)
  | string k => exact List.forall_mem_cons.2 ⟨.string _, List.forall_mem_singleton.2 (.string _)⟩
  | numeric u a b =>
      exact List.forall_mem_cons.2 ⟨u.isWritten_number a, List.forall_mem_cons.2 ⟨u.isWritten_number b,
        List.forall_mem_singleton.2 (.string _)⟩⟩
  | custom c => cases primitive

end ArgumentType

/-! ### Trees -/

namespace Node

/-- The members that tell an argument from a literal. -/
def kindMembers : Option ArgumentType → List (String × JsonValue)
  | none => [("kind", .string "literal")]
  | some t => [("kind", .string "argument"), ("type", t.toJson)]

variable {name : String} {type : Option ArgumentType} {children : List Node}

/-- The document of a node holds those of its children. -/
lemma toJson_node : (node name type children).toJson =
    .object (("name", .string name) :: ("children", .array (children.map toJson)) :: kindMembers type) := by
  have all (ns : List Node) : toJsonAll ns = ns.map toJson := by
    induction ns with
    | nil => rw [toJsonAll, List.map_nil]
    | cons n ns ih => rw [toJsonAll, ih, List.map_cons]
  rw [← all]
  cases type <;> rfl

/-- The document of a tree with primitive types is written. -/
lemma isWritten_toJson {n : Node} (primitive : n.IsPrimitive) : n.toJson.IsWritten := by
  induction n using ind with
  | _ name type children ih =>
      obtain ⟨own, inside⟩ := isPrimitive_iff.1 primitive
      have items : (JsonValue.array (children.map toJson)).IsWritten :=
        .array (List.forall_mem_map.2 fun c mem => ih c mem (inside c mem))
      rw [toJson_node]
      refine .object (List.forall_mem_cons.2 ⟨.string _, List.forall_mem_cons.2 ⟨items, ?_⟩⟩)
      cases type with
      | none => exact List.forall_mem_singleton.2 (.string _)
      | some t =>
          exact List.forall_mem_cons.2 ⟨.string _, List.forall_mem_singleton.2 (t.isWritten_toJson (own t rfl))⟩

/-- The members for the kind determine the type. -/
lemma kindMembers_inj {type' : Option ArgumentType} (own : ∀ t ∈ type, t.isPrimitive = true)
    (own' : ∀ t ∈ type', t.isPrimitive = true) (same : kindMembers type = kindMembers type') : type = type' := by
  cases type with
  | none =>
      cases type' with
      | none => rfl
      | some t => cases congrArg List.length same
  | some s =>
      cases type' with
      | none => cases congrArg List.length same
      | some t =>
          obtain ⟨-, more⟩ := List.cons.inj same
          rw [ArgumentType.toJson_inj (own s rfl) (own' t rfl) (congrArg Prod.snd (List.cons.inj more).1)]

/-- The documents of the children determine them, if each document does. -/
lemma map_toJson_inj {ms ns : List Node} (each : ∀ m ∈ ms, ∀ n : Node, n.IsPrimitive → m.toJson = n.toJson → m = n)
    (hn : ∀ n ∈ ns, n.IsPrimitive) (same : ms.map toJson = ns.map toJson) : ms = ns := by
  induction ms generalizing ns with
  | nil =>
      cases ns with
      | nil => rfl
      | cons n ns => cases same
  | cons m ms ih =>
      cases ns with
      | nil => cases same
      | cons n ns =>
          rw [List.forall_mem_cons] at each hn
          obtain ⟨first, more⟩ := List.cons.inj same
          rw [each.1 n hn.1 first, ih each.2 hn.2 more]

/-- The document of a tree with primitive types determines the tree. -/
lemma toJson_inj {m n : Node} (hm : m.IsPrimitive) (hn : n.IsPrimitive) (same : m.toJson = n.toJson) : m = n := by
  induction m using ind generalizing n with
  | _ name type children ih =>
      obtain ⟨name', type', children'⟩ := n
      obtain ⟨own, inside⟩ := isPrimitive_iff.1 hm
      obtain ⟨own', inside'⟩ := isPrimitive_iff.1 hn
      rw [toJson_node, toJson_node] at same
      obtain ⟨first, more⟩ := List.cons.inj (JsonValue.object.inj same)
      obtain ⟨second, kinds⟩ := List.cons.inj more
      have names : name = name' := JsonValue.string.inj (congrArg Prod.snd first)
      have items : children = children' :=
        map_toJson_inj (fun c mem n hn same => ih c mem (inside c mem) hn same) inside'
          (JsonValue.array.inj (congrArg Prod.snd second))
      rw [names, items, kindMembers_inj own own' kinds]

/-- **Trees with primitive types are equal exactly if their JSON texts are**, at every indentation, and the text is
ASCII. -/
theorem jsonText_eq_iff {m n : Node} (hm : m.IsPrimitive) (hn : n.IsPrimitive) (indent : Option Nat) :
    (m.toJson.text indent = n.toJson.text indent ↔ m = n) ∧ ∀ c ∈ (m.toJson.text indent).toList, c.toNat < 0x80 := by
  refine ⟨⟨fun same => ?_, fun same => by rw [same]⟩, isAscii_text (isWritten_toJson hm)⟩
  exact toJson_inj hm hn (text_inj (isWritten_toJson hm) (isWritten_toJson hn) same)

/-- A node of single precision with a child outside the basic plane. -/
def singleTree : Node :=
  .node "𝄞" none [.node "\"é\n" (some (.numeric .float NumericType.float.lowest NumericType.float.highest)) []]

/-- The same node of double precision. -/
def doubleTree : Node :=
  .node "𝄞" none [.node "\"é\n" (some (.numeric .double NumericType.double.lowest NumericType.double.highest)) []]

/-- Two trees that differ in the precision of an argument have different texts. -/
theorem jsonText_eq_iff_precision :
    singleTree.IsPrimitive ∧ doubleTree.IsPrimitive ∧
      singleTree.toJson.text (some 2) ≠ doubleTree.toJson.text (some 2) ∧
      ∀ c ∈ (singleTree.toJson.text (some 2)).toList, c.toNat < 0x80 := by
  have literal : ∀ type ∈ (none : Option ArgumentType), type.isPrimitive = true := fun _ no => nomatch no
  have leaf (t : NumericType) : (node "\"é\n" (some (.numeric t t.lowest t.highest)) []).IsPrimitive :=
    isPrimitive_iff.2 ⟨by rintro _ ⟨⟩; rfl, fun _ no => nomatch no⟩
  have single : singleTree.IsPrimitive := isPrimitive_iff.2 ⟨literal, List.forall_mem_singleton.2 (leaf .float)⟩
  have double : doubleTree.IsPrimitive := isPrimitive_iff.2 ⟨literal, List.forall_mem_singleton.2 (leaf .double)⟩
  have texts := jsonText_eq_iff single double (some 2)
  refine ⟨single, double, fun same => ?_, texts.2⟩
  cases texts.1.1 same

end Node

end CommandTree
