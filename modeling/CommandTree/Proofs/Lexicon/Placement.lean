import CommandTree.Proofs.Lexicon.Recognition
/-!
The tokens of a text with their lines.

* `Placed` are the tokens of a text with the lines of their last characters, if the text begins at a given line;
  `Placed.shift`: on later lines they are the same tokens;
* `Segments.exists_placed_front`: the tokens of the first lexemes of a text stay as they are, if what follows is replaced
  by a text that carries no word on;
* `TokenStream.placed` are the tokens that a token stream hands out, with the lines of the lexer behind each;
  `Lexer.Before.placed_eq`: they are those of the text.
-/

namespace CommandTree

open Text Lexicon

/-! ### Texts -/

namespace Lexicon

/-- The tokens of a text that is used up, the end of the input included, each with the line of its last character, or of the
end of the text. The text begins at the given line. -/
inductive Placed : List Char → Nat → List (Token × Nat) → Prop
  | ends {cs : List Char} {line : Nat} (trivia : Trivia [] cs) : Placed cs line [(.endOfInput, line + breaks cs)]
  | lexeme {front rest : List Char} {line : Nat} {t : Token} {items : List (Token × Nat)}
      (opens : Opens (front ++ rest) t rest) (more : Placed rest (line + breaks front) items) :
      Placed (front ++ rest) line ((t, line + breaks front) :: items)

/-- A token some lines later. -/
def later (lines : Nat) (item : Token × Nat) : Token × Nat := (item.1, item.2 + lines)

variable {cs front rest rest' us vs w x : List Char} {t : Token} {ts : List Token} {line : Nat}
  {items : List (Token × Nat)}

/-- Tokens some lines later are the same tokens. -/
lemma map_fst_later (lines : Nat) (items : List (Token × Nat)) :
    (items.map (later lines)).map Prod.fst = items.map Prod.fst := by
  rw [List.map_map]
  rfl

lemma map_later_zero (items : List (Token × Nat)) : items.map (later 0) = items := List.map_id items

/-- A text that is used up has tokens with lines, wherever it begins. -/
lemma Segments.exists_placed (h : Segments cs ts rest) (trivia : Trivia [] rest) (line : Nat) :
    ∃ items, Placed cs line items := by
  induction h generalizing line with
  | nil cs => exact ⟨_, .ends trivia⟩
  | cons opens _ ih =>
      obtain ⟨w, x, rfl, trivia', lexeme⟩ := opens
      rw [← List.append_assoc]
      obtain ⟨items, placed⟩ := ih trivia (line + breaks (w ++ x))
      exact ⟨_, .lexeme ⟨w, x, List.append_assoc w x _, trivia', lexeme⟩ placed⟩

/-- Tokens that begin some lines later are the same, that many lines later. -/
lemma Placed.shift (h : Placed cs line items) (lines : Nat) : Placed cs (line + lines) (items.map (later lines)) := by
  induction h with
  | @ends cs line trivia =>
      have moved : later lines (.endOfInput, line + breaks cs) = (.endOfInput, line + lines + breaks cs) := by
        rw [later, Nat.add_right_comm]
      rw [List.map_singleton, moved]
      exact .ends trivia
  | @lexeme front rest line t items opens _ ih =>
      have moved : later lines (t, line + breaks front) = (t, line + lines + breaks front) := by
        rw [later, Nat.add_right_comm]
      rw [Nat.add_right_comm] at ih
      rw [List.map_cons, moved]
      exact .lexeme opens ih

/-! ### What follows some lexemes -/

/-- Trivia depend on how the text goes on only by its first character. -/
lemma Trivia.congr (h : Trivia rest w) (same : rest'.head? = rest.head?) : Trivia rest' w := by
  induction h with
  | nil => exact .nil
  | blank le _ ih => exact .blank le ih
  | @line body w inLine ends _ ih =>
      refine .line inLine ?_ ih
      rwa [List.head?_append, same, ← List.head?_append]
  | block inside _ ih => exact .block inside ih

/-- A text may be replaced behind a lexeme if it begins with the same character or with one that carries no word on. -/
def Replaces (rest rest' : List Char) : Prop := ∀ c ∈ rest'.head?, isWordChar c = false ∨ c ∈ rest.head?

lemma Lexeme.replace (h : Lexeme rest x t) (replaces : Replaces rest rest') : Lexeme rest' x t := by
  cases h with
  | structural is => exact .structural is
  | quoted run => exact .quoted run
  | word ne inside maximal opens =>
      refine .word ne inside (fun c hc => ?_) opens
      rcases replaces c hc with apart | same
      · exact apart
      · exact maximal c same

/-- What follows a lexeme may be replaced. -/
lemma Opens.replace (h : Opens (front ++ rest) t rest) (replaces : Replaces rest rest') :
    Opens (front ++ rest') t rest' := by
  obtain ⟨w, x, rfl, trivia, lexeme, -⟩ := h.front_eq
  have same : (x ++ rest').head? = (x ++ rest).head? := by
    obtain ⟨c, x', rfl, -⟩ := lexeme.begins
    rfl
  exact ⟨w, x, List.append_assoc w x rest', trivia.congr same, lexeme.replace replaces⟩

lemma Replaces.append (h : Replaces vs rest') (used : List Char) : Replaces (used ++ vs) (used ++ rest') := by
  cases used with
  | nil => exact h
  | cons c used => exact fun d hd => .inr hd

/-- **What follows some lexemes may be replaced**, and leaves their tokens and lines as they are. -/
lemma Segments.exists_placed_front (h : Segments (us ++ vs) ts vs) (line : Nat) :
    ∃ first, first.map Prod.fst = ts ∧ ∀ rest' items, Replaces vs rest' → Placed rest' (line + breaks us) items →
      Placed (us ++ rest') line (first ++ items) := by
  generalize hcs : us ++ vs = cs at h
  induction h generalizing us line with
  | nil =>
      have none : us = [] := by simpa using hcs
      subst none
      exact ⟨[], rfl, fun rest' items _ placed => placed⟩
  | @cons cs rest vs t ts opens later ih =>
      obtain ⟨w, x, rfl, trivia, lexeme⟩ := opens
      obtain ⟨used, rfl⟩ : ∃ used, rest = used ++ vs := later.exists_front
      obtain rfl : us = (w ++ x) ++ used := List.append_cancel_right (by rw [hcs]; simp)
      have opens : Opens ((w ++ x) ++ (used ++ vs)) t (used ++ vs) := ⟨w, x, by simp, trivia, lexeme⟩
      obtain ⟨first, same, front⟩ := ih (line + breaks (w ++ x)) rfl
      refine ⟨(t, line + breaks (w ++ x)) :: first, congrArg (t :: ·) same, fun rest' items replaces placed => ?_⟩
      rw [(Segments.cons opens (.nil _)).breaks_append, ← Nat.add_assoc] at placed
      rw [List.append_assoc]
      exact .lexeme (opens.replace (replaces.append used)) (front rest' items replaces placed)

end Lexicon

/-! ### Token streams -/

/-- The tokens that are left, each with the line that the lexer has reached behind it. -/
def TokenStream.placed (q : TokenStream) : List (Token × Nat) := q.run.items.map fun (t, l) => (t, l.line)

/-- The tokens that are handed out are those with the lines. -/
lemma TokenStream.yields_placed {q : TokenStream} (sound : q.run.error = none) :
    q.Yields (q.placed.map Prod.fst) none := by
  refine ⟨?_, sound⟩
  rw [placed, List.map_map]
  rfl

/-- **A lexer in front of a text that is used up hands out its tokens**, with their lines. -/
lemma Lexer.Before.placed_eq {l : Lexer} {cs : List Char} {line : Nat} {items : List (Token × Nat)}
    (h : l.Before cs line) (placed : Placed cs line items) :
    TokenStream.placed (.ofSource l) = items ∧ (TokenStream.run (.ofSource l)).error = none := by
  induction placed generalizing l with
  | ends trivia =>
      obtain ⟨l', computed, ended, same⟩ := h.ends trivia
      rw [TokenStream.placed, TokenStream.run, Lookahead.run_of_item computed,
        Lookahead.run_of_finished (compute_of_ended ended), ← same]
      exact ⟨rfl, rfl⟩
  | lexeme opens _ ih =>
      obtain ⟨l', computed, place⟩ := h.opens opens
      obtain ⟨same, sound⟩ := ih place
      rw [TokenStream.placed, TokenStream.run, Lookahead.run_of_item computed, ← place.line_eq, ← same]
      exact ⟨rfl, sound⟩

end CommandTree
