import CommandTree.Proofs.Printing
import CommandTree.Proofs.Types
import Mathlib.Data.List.Basic
/-!
The layout of printed trees, by recursion over the tree.

Printing works off a list of nodes and closing braces. What it writes is the layout of the tree: the lines of a node are
a line with its head and, if it has children, their lines one level deeper and a line with the closing brace.

* `Node.layout` are the lines of a tree by recursion over it, made of `Node.blanks` and `Node.heading`; `Node.layout_eq` goes
  down one level;
* `Node.linesOf_eq`: whatever is still to be written, the lines are those of every entry in turn;
* `Node.inLine_layout`: no line is broken, whatever the names and the parameters are;
* `Node.headOfLine?` reads a head off a line, and `Node.heads_layout`: the heads are those of the nodes in the order of
  the walk;
* `Node.print_layout`: a printed tree is its layout, with a line feed behind every line.
-/

namespace CommandTree.Node

open Text Lexicon

/-! ### Layout -/

/-- The blanks in front of a line at a depth. -/
def blanks (indent depth : Nat) : String := .ofList (List.replicate (indent * depth) ' ')

/-- The head of a node: its name, quoted where it has to be, and behind that of an argument the key of its type and every
parameter, in quotes, with one blank between them. -/
def heading : Node → String
  | node name none _ => formatToken name
  | node name (some type) _ => " ".intercalate (formatToken name :: quote type.key :: type.parameters.map quote)

/-- A head is printed as it is meant. -/
lemma headText_eq (n : Node) : n.headText = n.heading := by
  obtain ⟨name, type, children⟩ := n
  cases type <;> rfl

/-- Lines are indented by as many blanks as they should be. -/
lemma indentation_eq (indent depth : Nat) : indentation indent depth = blanks indent depth := rfl

mutual

/-- The lines of a tree whose root stands at a depth. -/
def layout (indent depth : Nat) : Node → List String
  | node name type children =>
    let head := blanks indent depth ++ heading (node name type children)
    if children.isEmpty then [head ++ ";"]
    else (head ++ " \x7b") :: (layoutAll indent (depth + 1) children ++ [blanks indent depth ++ "\x7d"])

/-- The lines of several trees at the same depth. -/
def layoutAll (indent depth : Nat) : List Node → List String
  | [] => []
  | n :: ns => layout indent depth n ++ layoutAll indent depth ns

end

/-- The mark behind the head of a node: a semicolon, or the brace that opens a block. -/
def mark (n : Node) : String := if n.children.isEmpty then ";" else " \x7b"

/-- The line with the head of a node. -/
def headLine (indent depth : Nat) (n : Node) : String := blanks indent depth ++ n.heading ++ n.mark

/-- The line that closes the block of a node, if it has one. -/
def closingLine (indent depth : Nat) (n : Node) : List String :=
  if n.children.isEmpty then [] else [blanks indent depth ++ "\x7d"]

lemma layoutAll_eq (indent depth : Nat) (ns : List Node) :
    layoutAll indent depth ns = ns.flatMap (layout indent depth) := by
  induction ns with
  | nil => rfl
  | cons n ns ih => rw [layoutAll, ih, List.flatMap_cons]

/-- **The lines of a tree are that of its root, those of the trees of the children one level deeper, and that of the
closing brace if there are children.** -/
theorem layout_eq (indent depth : Nat) (n : Node) :
    n.layout indent depth =
      n.headLine indent depth :: (n.children.flatMap (layout indent (depth + 1)) ++ n.closingLine indent depth) := by
  obtain ⟨name, type, children⟩ := n
  rw [← layoutAll_eq, layout, headLine, mark, closingLine]
  cases children with
  | nil => rfl
  | cons => rfl

/-! ### Worklists -/

/-- The lines of an entry that is still to be written. -/
def Pending.layout (indent : Nat) : Pending → List String
  | .node n depth => n.layout indent depth
  | .closing depth => [blanks indent depth ++ "\x7d"]

/-- **Whatever is still to be written, the lines are those of every entry in turn.** The children and the brace that take
the place of a node come to the lines of the node below its first one. -/
theorem linesOf_eq (indent : Nat) (ps : List Pending) : linesOf indent ps = ps.flatMap (Pending.layout indent) := by
  fun_induction linesOf indent ps with
  | case1 => rfl
  | case2 depth rest ih => rw [List.flatMap_cons, ← ih, Pending.layout, List.singleton_append, indentation_eq]
  | case3 n depth rest leaf ih =>
      have whole : n.layout indent depth = [blanks indent depth ++ n.heading ++ ";"] := by
        rw [layout_eq, headLine, mark, closingLine, if_pos leaf, if_pos leaf, List.isEmpty_iff.1 leaf]
        rfl
      rw [List.flatMap_cons, ← ih, Pending.layout, whole, List.singleton_append, indentation_eq, headText_eq]
  | case4 n depth rest block ih =>
      have whole : n.layout indent depth = (blanks indent depth ++ n.heading ++ " \x7b") ::
          (n.children.flatMap (Node.layout indent (depth + 1)) ++ [blanks indent depth ++ "\x7d"]) := by
        rw [layout_eq, headLine, mark, closingLine, if_neg block, if_neg block]
      have inside : (n.children.map (Pending.node · (depth + 1))).flatMap (Pending.layout indent) =
          n.children.flatMap (Node.layout indent (depth + 1)) := List.flatMap_map ..
      rw [ih, List.flatMap_append, inside, List.flatMap_cons, List.flatMap_cons, Pending.layout, Pending.layout, whole,
        List.singleton_append, List.cons_append, List.append_assoc, List.singleton_append, indentation_eq, headText_eq]

/-- **A tree is printed as its layout.** -/
theorem lines_eq_layout (n : Node) (indent : Nat) : n.lines indent = n.layout indent 0 := by
  rw [lines, Int.toNat_natCast, linesOf_eq, List.flatMap_singleton, Pending.layout]

/-! ### Lines -/

/-- A head is not broken, whatever the name and the parameters are. -/
lemma inLine_heading (n : Node) : ∀ c ∈ n.heading.toList, isLineBreak c = false := by
  have name : Lexeme [] (formatToken n.name).toList (.string n.name) := lexeme_formatToken n.name nofun
  rw [← headText_eq, toList_headText]
  refine List.forall_mem_append.2 ⟨name.inLine, ?_⟩
  refine List.forall_mem_flatMap.2 fun word _ => List.forall_mem_cons.2 ⟨rfl, ?_⟩
  exact (lexeme_quote word []).inLine

lemma inLine_blanks (indent depth : Nat) : ∀ c ∈ (blanks indent depth).toList, isLineBreak c = false := by
  intro c hc
  rw [← indentation_eq] at hc
  rw [eq_of_mem_indentation hc]
  rfl

lemma inLine_headLine (indent depth : Nat) (n : Node) :
    ∀ c ∈ (n.headLine indent depth).toList, isLineBreak c = false := by
  rw [headLine, String.toList_append, String.toList_append, mark]
  refine List.forall_mem_append.2 ⟨List.forall_mem_append.2 ⟨inLine_blanks indent depth, inLine_heading n⟩, ?_⟩
  split <;> simp [isLineBreak]

lemma inLine_closingLine (indent depth : Nat) (n : Node) :
    ∀ l ∈ n.closingLine indent depth, ∀ c ∈ l.toList, isLineBreak c = false := by
  rw [closingLine]
  split
  · exact nofun
  · rw [List.forall_mem_singleton, String.toList_append]
    exact List.forall_mem_append.2 ⟨inLine_blanks indent depth, by simp [isLineBreak]⟩

/-- **No line of a layout is broken**, whatever the names and the parameters are. -/
theorem inLine_layout (indent : Nat) (n : Node) (depth : Nat) :
    ∀ l ∈ n.layout indent depth, ∀ c ∈ l.toList, isLineBreak c = false := by
  induction n using Node.ind generalizing depth with
  | step name type children ih =>
      rw [layout_eq]
      refine List.forall_mem_cons.2 ⟨inLine_headLine indent depth _, List.forall_mem_append.2 ⟨?_, ?_⟩⟩
      · exact List.forall_mem_flatMap.2 fun child among => ih child among (depth + 1)
      · exact inLine_closingLine indent depth _

/-- Two lines are written for a node with children, and one for another. -/
lemma length_layout (indent : Nat) (n : Node) (depth : Nat) :
    (n.layout indent depth).length = n.walk.length + n.walk.countP fun m => !m.children.isEmpty := by
  induction n using Node.ind generalizing depth with
  | step name type children ih =>
      have inside : (children.flatMap (layout indent (depth + 1))).length =
          (children.flatMap walk).length + (children.flatMap walk).countP fun m => !m.children.isEmpty := by
        clear * - ih
        induction children with
        | nil => rfl
        | cons child children more =>
            obtain ⟨first, others⟩ := List.forall_mem_cons.1 ih
            simp only [List.flatMap_cons, List.length_append, List.countP_append, first, more others]
            omega
      have closing : ((node name type children).closingLine indent depth).length =
          if !(node name type children).children.isEmpty then 1 else 0 := by
        rw [closingLine]
        cases (node name type children).children.isEmpty <;> rfl
      rw [layout_eq, walk_eq, List.length_cons, List.length_append, List.length_cons, List.countP_cons, closing]
      change (children.flatMap (layout indent (depth + 1))).length + _ + 1 =
        (children.flatMap walk).length + 1 + ((children.flatMap walk).countP _ + _)
      omega

/-! ### Heads -/

/-- The head on a line without the blanks in front: what stands before the semicolon or the opening brace at its end. -/
def headBefore? (line : List Char) : Option String :=
  match line.reverse with
  | ';' :: head => some (.ofList head.reverse)
  | '{' :: ' ' :: head => some (.ofList head.reverse)
  | _ => none

lemma headBefore?_mark (head : List Char) (n : Node) : headBefore? (head ++ n.mark.toList) = some (.ofList head) := by
  rw [mark]
  split <;> simp [headBefore?]

/-- The head on a line; that of a closing brace has none. -/
def headOfLine? (line : String) : Option String := headBefore? (line.toList.dropWhile (· == ' '))

/-- The blanks in front of a line are left out. -/
lemma headOfLine?_blanks (indent depth : Nat) {line : String} (begins : ∀ c ∈ line.toList.head?, c ≠ ' ') :
    headOfLine? (blanks indent depth ++ line) = headBefore? line.toList := by
  have blank : ∀ c ∈ (blanks indent depth).toList, (c == ' ') = true := by
    intro c hc
    rw [← indentation_eq] at hc
    rw [eq_of_mem_indentation hc]
    rfl
  rw [headOfLine?, String.toList_append, List.dropWhile_append_of_pos blank]
  cases whole : line.toList with
  | nil => rfl
  | cons c cs =>
      rw [List.dropWhile_cons_of_neg]
      have begins := begins c (by rw [whole, List.head?_cons]; rfl)
      simpa using begins

lemma headOfLine?_headLine (indent depth : Nat) (n : Node) : headOfLine? (n.headLine indent depth) = some n.heading := by
  have name : Lexeme [] (formatToken n.name).toList (.string n.name) := lexeme_formatToken n.name nofun
  obtain ⟨c, cs, opens, above, -⟩ := name.begins
  have begins : ∀ d ∈ (n.heading ++ n.mark).toList.head?, d ≠ ' ' := by
    rw [← headText_eq, String.toList_append, toList_headText, opens]
    rintro _ ⟨⟩ rfl
    exact absurd above (by decide)
  rw [headLine, String.append_assoc, headOfLine?_blanks indent depth begins, String.toList_append,
    headBefore?_mark, String.ofList_toList]

lemma filterMap_closingLine (indent depth : Nat) (n : Node) :
    (n.closingLine indent depth).filterMap headOfLine? = [] := by
  have none : headOfLine? (blanks indent depth ++ "\x7d") = none := by
    rw [headOfLine?_blanks indent depth (by simp)]
    rfl
  rw [closingLine]
  split
  · rfl
  · rw [List.filterMap_cons_none none, List.filterMap_nil]

/-- **The heads of the lines, from top to bottom, are those of the nodes in the order of the walk.** -/
theorem heads_layout (indent : Nat) (n : Node) (depth : Nat) :
    (n.layout indent depth).filterMap headOfLine? = n.walk.map heading := by
  induction n using Node.ind generalizing depth with
  | step name type children ih =>
      have inside : (children.flatMap (layout indent (depth + 1))).filterMap headOfLine? =
          (children.flatMap walk).map heading := by
        rw [List.filterMap_flatMap, List.map_flatMap]
        exact List.flatMap_congr fun child among => ih child among (depth + 1)
      rw [layout_eq, walk_eq, List.filterMap_cons_some (headOfLine?_headLine indent depth _), List.filterMap_append,
        filterMap_closingLine, List.append_nil, List.map_cons]
      exact congrArg _ inside

/-! ### Texts -/

/-- Unbroken lines are the parts of their text between its line feeds, and nothing stands behind the last one. -/
lemma splitAt_join {ls : List String} (inLine : ∀ l ∈ ls, ∀ c ∈ l.toList, isLineBreak c = false) :
    splitAt '\n' (String.join (ls.map (· ++ "\n"))).toList = ls.map String.toList ++ [[]] := by
  induction ls with
  | nil => rfl
  | cons l ls ih =>
      obtain ⟨first, others⟩ := List.forall_mem_cons.1 inLine
      have unbroken : '\n' ∉ l.toList := fun among => absurd (first _ among) (by decide)
      rw [List.map_cons, String.join_cons, String.toList_append, String.toList_append, List.append_assoc]
      change splitAt '\n' (l.toList ++ '\n' :: (String.join (ls.map (· ++ "\n"))).toList) = _
      rw [splitAt_append_cons unbroken, ih others, List.map_cons, List.cons_append]

/-- Lines with a line feed between them and one more at the end have one behind each of them. -/
lemma intercalate_cons_append (l : String) (ls : List String) :
    "\n".intercalate (l :: ls) ++ "\n" = String.join ((l :: ls).map (· ++ "\n")) := by
  induction ls generalizing l with
  | nil => simp
  | cons l' ls ih =>
      rw [String.intercalate_cons_cons, String.append_assoc, ih]
      exact String.join_cons.symm

/-- **A printed tree is its layout**: every line of it has a line feed at its end and no other line break. There are two
lines for a node with children and one for another, and the heads of the lines, from top to bottom, are those of the
nodes in the order of the walk. -/
theorem print_layout (n : Node) (indent : Nat) :
    n.print indent = String.join ((n.layout indent 0).map (· ++ "\n")) ∧
    (∀ l ∈ n.layout indent 0, ∀ c ∈ l.toList, isLineBreak c = false) ∧
    splitAt '\n' (n.print indent).toList = (n.layout indent 0).map String.toList ++ [[]] ∧
    (n.layout indent 0).length = n.size + n.walk.countP (fun m => !m.children.isEmpty) ∧
    (n.layout indent 0).filterMap headOfLine? = n.walk.map heading := by
  have text : n.print indent = String.join ((n.layout indent 0).map (· ++ "\n")) := by
    rw [print, lines_eq_layout, layout_eq, intercalate_cons_append]
  refine ⟨text, inLine_layout indent n 0, ?_, ?_, heads_layout indent n 0⟩
  · rw [text, splitAt_join (inLine_layout indent n 0)]
  · rw [length_layout, length_walk]

end CommandTree.Node
