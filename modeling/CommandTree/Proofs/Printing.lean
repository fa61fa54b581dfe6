import CommandTree.Node.Printer
import CommandTree.Proofs.Lexicon
/-!
The tokens of printed trees.

Printing puts the tokens of a tree on lines, with blanks between them, and quotes every text that is not read back as
one word. So the tokens of a printed tree are known without reading it.

* `Lexicon.lexeme_quote`, `Lexicon.lexeme_formatToken`: a written text is one lexeme, and stands for the text;
* `Node.tokens` are the tokens of a tree;
* `Node.linesOf_append`, `Node.linesOf_block`: the lines of a list of entries are those of its parts, so that printing
  follows the tree;
* `Node.segments_print`: the lexemes of a printed tree are its tokens, and they end in front of the last line feed.
-/

namespace CommandTree

open Text

namespace Lexicon

variable {cs rest w : List Char} {t : Token} {ts : List Token}

/-! ### Written texts -/

/-- What is written between quotation marks reads back. -/
lemma quotedRun_escaped (cs : List Char) : QuotedRun (escaped cs) cs := by
  induction cs with
  | nil => exact .nil
  | cons c cs ih =>
      rw [escaped, List.flatMap_cons, ← escaped]
      cases written : escape? c with
      | some e =>
          have inLine : isLineBreak e = false := by
            unfold escape? at written
            split at written <;> cases written <;> rfl
          exact .escape (escape_iff.2 (unescape_of_escape? written)) inLine ih
      | none =>
          refine .plain ?_ ?_ ?_ ih
          · rintro rfl
            cases written
          · rintro rfl
            cases written
          · by_contra breaking
            simp only [Bool.not_eq_false, isLineBreak, Bool.or_eq_true, beq_iff_eq] at breaking
            rcases breaking with rfl | rfl <;> cases written

/-- A text between quotation marks is one lexeme. -/
lemma lexeme_quote (s : String) (rest : List Char) : Lexeme rest (quote s).toList (.string s) := by
  have lexeme : Lexeme rest _ _ := .quoted (quotedRun_escaped s.toList)
  rw [String.ofList_toList] at lexeme
  rw [quote, String.toList_ofList]
  exact lexeme

/-- **A text is one lexeme however it is written**: bare only if it is a word. -/
theorem lexeme_formatToken (s : String) (ends : ∀ c ∈ rest.head?, isWordChar c = false) :
    Lexeme rest (formatToken s).toList (.string s) := by
  rw [formatToken]
  split
  · exact lexeme_quote s rest
  · rename_i bare
    obtain ⟨ne, opens, inside⟩ := needsQuotes_eq_false_iff.1 (Bool.not_eq_true _ ▸ bare)
    have lexeme := Lexeme.word ne inside ends opens
    rw [String.ofList_toList] at lexeme
    exact lexeme

/-! ### Blanks -/

lemma trivia_of_blanks (blanks : ∀ c ∈ w, c ≤ ' ') {v : List Char} (h : Trivia rest v) : Trivia rest (w ++ v) := by
  induction w with
  | nil => exact h
  | cons c w ih =>
      obtain ⟨le, blanks⟩ := List.forall_mem_cons.1 blanks
      exact .blank le (ih blanks)

lemma opens_of_blanks (blanks : ∀ c ∈ w, c ≤ ' ') {x : List Char} (lexeme : Lexeme rest x t) :
    Opens (w ++ (x ++ rest)) t rest :=
  ⟨w, x, rfl, by simpa using trivia_of_blanks blanks (.nil), lexeme⟩

/-- Blanks may stand in front of lexemes. -/
lemma Segments.blanks (blanks : ∀ c ∈ w, c ≤ ' ') (ne : ts ≠ []) (h : Segments cs ts rest) :
    Segments (w ++ cs) ts rest := by
  cases h with
  | nil => exact absurd rfl ne
  | cons opens more =>
      obtain ⟨v, x, rfl, trivia, lexeme⟩ := opens
      exact .cons ⟨w ++ v, x, by simp, trivia_of_blanks blanks trivia, lexeme⟩ more

/-- A structural character behind blanks. -/
lemma segments_structural {c : Char} (blanks : ∀ c ∈ w, c ≤ ' ') (is : Token.ofStructural? c = some t)
    (rest : List Char) : Segments (w ++ c :: rest) [t] rest :=
  .cons (opens_of_blanks blanks (.structural is)) (.nil rest)

/-- Quoted texts with a space in front of each. -/
lemma segments_quotes (words : List String) (rest : List Char) :
    Segments (words.flatMap (fun word => ' ' :: (quote word).toList) ++ rest) (words.map .string) rest := by
  induction words with
  | nil => exact .nil rest
  | cons word words ih =>
      rw [List.flatMap_cons, List.append_assoc, List.cons_append, List.map_cons]
      generalize words.flatMap (fun word => ' ' :: (quote word).toList) ++ rest = more at ih ⊢
      have opens := opens_of_blanks (List.forall_mem_singleton.2 (by decide : ' ' ≤ ' ')) (lexeme_quote word more)
      rw [List.singleton_append] at opens
      exact .cons opens ih

end Lexicon

namespace Node

open Lexicon

/-! ### Tokens -/

/-- The words behind the name of a node: the key and the parameters of its type. -/
def typeWords : Option ArgumentType → List String
  | none => []
  | some type => type.key :: type.parameters

/-- The tokens of a node up to its semicolon or its block. -/
def headTokens (name : String) (type : Option ArgumentType) : List Token :=
  .string name :: (typeWords type).map .string

mutual

/-- The tokens of a tree, without a block where there are no children. -/
def tokens : Node → List Token
  | node name type children =>
    headTokens name type ++
      if children.isEmpty then [.statementEnd] else .openBlock :: (tokensAll children ++ [.closeBlock])

/-- The tokens of several trees. -/
def tokensAll : List Node → List Token
  | [] => []
  | n :: ns => n.tokens ++ tokensAll ns

end

lemma tokens_ne_nil (n : Node) : n.tokens ≠ [] := by
  cases n
  simp [tokens, headTokens]

/-! ### Lines -/

/-- Texts with a separator between them. -/
lemma toList_intercalate_cons (separator s : String) (ss : List String) :
    (separator.intercalate (s :: ss)).toList = s.toList ++ ss.flatMap fun s => separator.toList ++ s.toList := by
  induction ss generalizing s with
  | nil => simp
  | cons s' ss ih =>
      rw [String.intercalate_cons_cons, String.toList_append, String.toList_append, ih, List.flatMap_cons]
      simp only [List.append_assoc]

/-- Lines with a line feed in front of each. -/
def linesText (ls : List String) : List Char := ls.flatMap fun l => '\n' :: l.toList

lemma linesText_cons (l : String) (ls : List String) :
    linesText (l :: ls) = '\n' :: ("\n".intercalate (l :: ls)).toList := by
  rw [toList_intercalate_cons]
  rfl

/-- The lines of entries are those of the first ones, and then those of the others. -/
lemma linesOf_append (indent : Nat) (ps qs : List Pending) :
    linesOf indent (ps ++ qs) = linesOf indent ps ++ linesOf indent qs := by
  fun_induction linesOf indent ps with
  | case1 => rfl
  | case2 depth rest ih => rw [List.cons_append, linesOf, ih, List.cons_append]
  | case3 n depth rest leaf ih => rw [List.cons_append, linesOf, if_pos leaf, ih, List.cons_append]
  | case4 n depth rest block ih =>
      rw [List.append_assoc, List.cons_append] at ih
      rw [List.cons_append, linesOf, if_neg block, ih, List.cons_append]

lemma linesOf_leaf (indent depth : Nat) {n : Node} (leaf : n.children.isEmpty = true) :
    linesOf indent [.node n depth] = [indentation indent depth ++ n.headText ++ ";"] := by
  rw [linesOf, if_pos leaf, linesOf]

/-- The lines of a tree: that of its root, those of its children and that of the closing brace. -/
lemma linesOf_block (indent depth : Nat) {n : Node} (block : ¬ n.children.isEmpty = true) :
    linesOf indent [.node n depth] =
      (indentation indent depth ++ n.headText ++ " \x7b") ::
        (linesOf indent (n.children.map (.node · (depth + 1))) ++ [indentation indent depth ++ "\x7d"]) := by
  rw [linesOf, if_neg block, linesOf_append, linesOf, linesOf]

/-! ### Lexemes of lines -/

variable {rest : List Char}

lemma eq_of_mem_indentation {indent depth : Nat} {c : Char} (h : c ∈ (indentation indent depth).toList) : c = ' ' := by
  rw [indentation, String.toList_ofList] at h
  exact List.eq_of_mem_replicate h

lemma indentation_blank (indent depth : Nat) : ∀ c ∈ (indentation indent depth).toList, c ≤ ' ' := by
  intro c hc
  obtain rfl := eq_of_mem_indentation hc
  decide

/-- A head is the name as it is written, and the words behind it with a space in front of each. -/
lemma toList_headText (n : Node) :
    n.headText.toList =
      (formatToken n.name).toList ++ (typeWords n.type).flatMap fun word => ' ' :: (quote word).toList := by
  have whole : n.headText = " ".intercalate (formatToken n.name :: (typeWords n.type).map quote) := by
    rw [headText]
    cases n.type <;> rfl
  rw [whole, toList_intercalate_cons, List.flatMap_map]
  rfl

/-- The head of a node is lexed into its tokens, unless a word goes on behind it. -/
lemma segments_headText (n : Node) (ends : ∀ c ∈ rest.head?, isWordChar c = false) :
    Segments (n.headText.toList ++ rest) (headTokens n.name n.type) rest := by
  rw [toList_headText, List.append_assoc]
  refine .cons (opens_of_blanks (w := []) (fun _ no => nomatch no) (lexeme_formatToken n.name ?_))
    (segments_quotes (typeWords n.type) rest)
  cases typeWords n.type with
  | nil => exact ends
  | cons word words =>
      rintro _ ⟨⟩
      rfl

/-- The first line of a tree, up to the semicolon or the opening brace. -/
lemma segments_firstLine (indent depth : Nat) (n : Node) {c : Char} {w : List Char} {t : Token}
    (blanks : ∀ c ∈ w, c ≤ ' ') (is : Token.ofStructural? c = some t) (rest : List Char) :
    Segments ((indentation indent depth ++ n.headText).toList ++ (w ++ c :: rest))
      (headTokens n.name n.type ++ [t]) rest := by
  have ends : ∀ d ∈ (w ++ c :: rest).head?, isWordChar d = false := by
    cases w with
    | nil =>
        rintro _ ⟨⟩
        refine isWordChar_of_isStructural ?_
        rcases structural_cases is with ⟨rfl, -⟩ | ⟨rfl, -⟩ | ⟨rfl, -⟩ <;> rfl
    | cons d w =>
        rintro _ ⟨⟩
        by_contra word
        exact absurd (lt_of_isWordChar (by simpa using word)) (Char.not_lt.2 (blanks d List.mem_cons_self))
  rw [String.toList_append, List.append_assoc]
  refine Segments.blanks (indentation_blank indent depth) (by simp [headTokens]) ?_
  exact segments_append_iff.2 ⟨_, segments_headText n ends, segments_structural blanks is rest⟩

/-- The lines of a tree are lexed into its tokens, however deep it stands and whatever follows. -/
def LinesLex (indent : Nat) (n : Node) : Prop :=
  ∀ depth, ∃ body, linesText (linesOf indent [.node n depth]) = '\n' :: body ∧
    ∀ rest, Segments (body ++ rest) n.tokens rest

/-- What holds of the lines of some trees holds of all of them together. -/
lemma segments_children {indent : Nat} {ns : List Node} (h : ∀ n ∈ ns, LinesLex indent n) (depth : Nat)
    (rest : List Char) :
    Segments (linesText (linesOf indent (ns.map (.node · depth))) ++ rest) (tokensAll ns) rest := by
  induction ns with
  | nil =>
      rw [List.map_nil, linesOf]
      exact .nil rest
  | cons n ns ih =>
      obtain ⟨first, others⟩ := List.forall_mem_cons.1 h
      obtain ⟨body, text, segments⟩ := first depth
      have whole : linesText (linesOf indent ((n :: ns).map (.node · depth))) =
          '\n' :: body ++ linesText (linesOf indent (ns.map (.node · depth))) := by
        rw [List.map_cons, ← List.singleton_append, linesOf_append, linesText, List.flatMap_append, ← text]
        rfl
      rw [whole, tokensAll, List.append_assoc]
      exact segments_append_iff.2
        ⟨_, Segments.blanks (w := ['\n']) (by simp) n.tokens_ne_nil (segments _), ih others⟩

/-- **The lines of a tree are lexed into its tokens.** The induction is on the tree: its lines are those of the trees of
its children, between two more. -/
theorem linesLex (indent : Nat) (n : Node) : LinesLex indent n := by
  induction n using Node.ind with
  | step name type children ih =>
      intro depth
      by_cases leaf : children.isEmpty = true
      · rw [linesOf_leaf indent depth (n := .node name type children) leaf, linesText_cons]
        refine ⟨_, rfl, fun rest => ?_⟩
        rw [tokens, if_pos leaf, String.intercalate_singleton, String.toList_append, List.append_assoc]
        exact segments_firstLine indent depth (.node name type children) (w := []) (fun _ no => nomatch no) rfl rest
      · rw [linesOf_block indent depth (n := .node name type children) leaf, linesText_cons]
        refine ⟨_, rfl, fun rest => ?_⟩
        have first := segments_firstLine indent depth (.node name type children) (w := [' ']) (c := '{') (by simp) rfl
          (linesText (linesOf indent (children.map (.node · (depth + 1)))) ++
            ('\n' :: (indentation indent depth).toList ++ '}' :: rest))
        have last : Segments ('\n' :: (indentation indent depth).toList ++ '}' :: rest) [.closeBlock] rest :=
          segments_structural (List.forall_mem_cons.2 ⟨by decide, indentation_blank indent depth⟩) rfl rest
        have inside := segments_append_iff.2 ⟨_, segments_children ih (depth + 1) _, last⟩
        have all := segments_append_iff.2 ⟨_, first, inside⟩
        rw [tokens, if_neg leaf, toList_intercalate_cons, List.flatMap_append]
        simpa [linesText, Node.name, Node.type, Node.children] using all

/-- **The lexemes of a printed tree are its tokens**, and they end in front of the last line feed. -/
theorem segments_print (n : Node) (indent : Int) (rest : List Char) :
    Segments ((n.print indent).toList ++ rest) n.tokens ('\n' :: rest) := by
  obtain ⟨body, text, segments⟩ := linesLex indent.toNat n 0
  have whole : ("\n".intercalate (n.lines indent)).toList = body := by
    rw [lines]
    generalize linesOf indent.toNat [.node n 0] = ls at text
    cases ls with
    | nil => cases text
    | cons l ls =>
        rw [linesText_cons] at text
        exact (List.cons.inj text).2
  rw [print, String.toList_append, whole, List.append_assoc]
  exact segments ('\n' :: rest)

end Node

end CommandTree
