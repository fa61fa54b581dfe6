import CommandTree.Proofs.Simulation.Reading
import CommandTree.Proofs.Views
/-!
Blanks and comments put into a text.

Behind any token of a text, or in front of the first one, trivia may be put in that begin with a blank and are complete:
no comment in them needs the text behind to end it. The tokens stay the same, those behind stand as many lines later as
line breaks were added. So the text is read as the same tree, unless line breaks were added and a resolver puts the line of
an error that it has made into its answer.

* `Lexicon.Complete` are the trivia that stand in front of any text; `Lexicon.Placed.insert` puts them in front of one;
* `Reader.result_of_showSame`: streams that show the same tokens are read as the same tree;
* `Reader.insert_trivia`: **trivia are not seen, but for the lines**, and `Reader.insert_trivia_seen`: lines may be.
-/

namespace CommandTree

open Text Lexicon

/-! ### Complete trivia -/

namespace Lexicon

/-- Trivia that stand in front of any text: blanks, comments up to a line break that ends them, and comments up to the
first `*/` behind their opening. -/
inductive Complete : List Char → Prop
  | nil : Complete []
  | blank {c : Char} {w : List Char} (le : c ≤ ' ') (more : Complete w) : Complete (c :: w)
  | line {body w : List Char} {c : Char} (inLine : ∀ d ∈ body, isLineBreak d = false) (ends : isLineBreak c = true)
      (more : Complete (c :: w)) : Complete ('/' :: '/' :: (body ++ c :: w))
  | block {body w : List Char} (inside : ¬ ['*', '/'] <:+: body) (more : Complete w) :
      Complete ('/' :: '*' :: (body ++ '*' :: '/' :: w))

variable {cs front rest u v w w' : List Char} {t : Token} {ts us : List Token} {line : Nat} {items : List (Token × Nat)}

/-- Complete trivia may be put in front of trivia. -/
lemma Complete.append (h : Complete w) (trivia : Trivia rest w') : Trivia rest (w ++ w') := by
  induction h with
  | nil => exact trivia
  | blank le _ ih => exact .blank le ih
  | @line body w c inLine ends _ ih =>
      rw [List.cons_append, List.cons_append, List.append_assoc]
      refine .line inLine (fun d hd => ?_) ih
      cases hd
      exact ends
  | @block body w inside _ ih =>
      simp only [List.cons_append, List.append_assoc]
      exact .block inside ih

/-- Text put in front takes no line break away. -/
lemma breaks_le_append (w v : List Char) : breaks v ≤ breaks (w ++ v) := by
  induction w with
  | nil => exact Nat.le_refl _
  | cons c w ih => exact Nat.le_trans ih (Nat.le_add_left _ _)

/-- Complete trivia may be put in front of a lexeme. -/
lemma Opens.insert (h : Opens (front ++ rest) t rest) (complete : Complete w) : Opens ((w ++ front) ++ rest) t rest := by
  obtain ⟨w', x, rfl, trivia, lexeme, -⟩ := h.front_eq
  exact ⟨w ++ w', x, by simp, complete.append trivia, lexeme⟩

/-- The line breaks of a text are those in front of the end of a lexeme and those behind it. -/
lemma Opens.breaks_append (h : Opens (front ++ rest) t rest) (more : List Char) :
    breaks (front ++ more) = breaks front + breaks more :=
  (Segments.cons h (.nil rest)).breaks_append more

/-- **Complete trivia in front of a text** leave its tokens as they are, as many lines later as line breaks were added. -/
lemma Placed.insert (h : Placed v line items) (complete : Complete w) :
    Placed (w ++ v) line (items.map (later (breaks (w ++ v) - breaks v))) := by
  generalize added : breaks (w ++ v) - breaks v = lines
  cases h with
  | ends trivia =>
      have moved : line + breaks v + lines = line + breaks (w ++ v) := by
        have := breaks_le_append w v
        omega
      rw [List.map_singleton, later, moved]
      exact .ends (complete.append trivia)
  | @lexeme front rest _ t items opens placed =>
      have opens' := opens.insert complete
      have moved : line + breaks front + lines = line + breaks (w ++ front) := by
        have := breaks_le_append w front
        rw [← List.append_assoc, opens'.breaks_append, opens.breaks_append] at added
        omega
      have behind := placed.shift lines
      rw [moved] at behind
      rw [List.map_cons, later, moved, ← List.append_assoc]
      exact .lexeme opens' behind

/-- What is left behind some lexemes of a text without an offence is without an offence. -/
lemma Segments.lexes_rest (h : Segments cs ts rest) (sound : ¬ ∃ ts before complaint, Offends cs ts before complaint) :
    ∃ us, Lexes rest us := by
  rcases lexes_or_offends rest with lexes | ⟨us, before, complaint, front, last, back, rest', rfl, segments, fails, rfl⟩
  · exact lexes
  · obtain ⟨front', rfl⟩ := h.exists_front
    exact absurd ⟨ts ++ us, _, complaint, front' ++ front, last, back, rest', by simp,
      segments_append_iff.2 ⟨_, h, segments⟩, fails, rfl⟩ sound

/-- A text that begins with a blank may take the place of any text behind a lexeme. -/
lemma replaces_of_blank (begins : ∃ c ∈ w.head?, c ≤ ' ') : Replaces v (w ++ v) := by
  obtain ⟨c, first, blank⟩ := begins
  intro d hd
  rw [List.head?_append, Option.mem_def.1 first, Option.some_or, Option.mem_some_iff] at hd
  subst hd
  refine .inl (Bool.eq_false_iff.2 fun inWord => ?_)
  exact absurd (lt_of_isWordChar inWord) (Char.not_lt.2 blank)

/-- **Trivia behind some lexemes of a text** leave their tokens and lines as they are, and move the tokens behind by the
line breaks that the text has more. -/
lemma Segments.exists_placed_insert (cut : Segments (u ++ v) us v) (lexes : Lexes v ts) (begins : ∃ c ∈ w.head?, c ≤ ' ')
    (complete : Complete w) (line : Nat) :
    breaks (u ++ v) ≤ breaks (u ++ (w ++ v)) ∧ ∃ first behind, first.map Prod.fst = us ∧
      Placed (u ++ v) line (first ++ behind) ∧
      Placed (u ++ (w ++ v)) line (first ++ behind.map (later (breaks (u ++ (w ++ v)) - breaks (u ++ v)))) := by
  obtain ⟨w', segments, trivia⟩ := lexes
  have more := breaks_le_append w v
  have split := cut.breaks_append v
  have split' := cut.breaks_append (w ++ v)
  have moved : breaks (u ++ (w ++ v)) - breaks (u ++ v) = breaks (w ++ v) - breaks v := by omega
  obtain ⟨first, tokens, replace⟩ := cut.exists_placed_front line
  obtain ⟨behind, placed⟩ := segments.exists_placed trivia (line + breaks u)
  refine ⟨by omega, first, behind, tokens, replace _ _ (fun c hc => .inr hc) placed, ?_⟩
  rw [moved]
  exact replace _ _ (replaces_of_blank begins) (placed.insert complete)

end Lexicon

namespace Reader

/-- Streams that show the same tokens are read as the same tree, by a reader whose resolvers answer alike on them. -/
lemma result_of_showSame {β : Type} {view : Lexer → β} {stream stream' : CharStream} {r : Reader} {root : Node}
    (agree : (TokenStream.showing view).Agree r.registry r.registry)
    (same : TokenStream.ShowSame view (.ofStream stream) (.ofStream stream'))
    (read : (r.parseStream stream).result = .ok root) : (r.parseStream stream').result = .ok root := by
  have alike : (TokenStream.showing view).States (.ofStream stream) (.ofStream stream') := ⟨same, rfl⟩
  have parses := (TokenStream.showing view).parse agree alike
  rw [parseStream] at read ⊢
  generalize Parser.parse r.registry (.ofStream stream) = left at parses read
  generalize Parser.parse r.registry (.ofStream stream') = right at parses
  cases parses with
  | ok => exact read
  | error => rw [ReadReport.result_ofError] at read; cases read
  | excused => rw [ReadReport.result_ofError] at read; cases read

/-- Streams that hand out the same tokens on the same lines are read as the same tree, whatever the resolvers are. -/
lemma result_of_placed {stream stream' : CharStream} {r : Reader} {root : Node}
    (sound : (TokenStream.ofStream stream).run.error = none) (sound' : (TokenStream.ofStream stream').run.error = none)
    (same : (TokenStream.ofStream stream).placed = (TokenStream.ofStream stream').placed)
    (read : (r.parseStream stream).result = .ok root) : (r.parseStream stream').result = .ok root := by
  have alike : TokenStream.ShowSame Lexer.line (.ofStream stream) (.ofStream stream') :=
    ⟨rfl, _, ⟨rfl, sound⟩, ⟨same.symm, sound'⟩⟩
  exact result_of_showSame (TokenStream.keepsLines_showing.agree_refl r.registry) alike read

/-! ### Texts -/

/-- **Trivia are not seen, but for the lines.** Let `u ++ v` be a text without a lexical error that is cut in front of it or
directly behind the last character of a token. Put in there trivia `w` that begin with a blank and are complete. Then the
tokens are the same and again there is no error; the tokens of `u` keep their lines, and those of `v`, the end of the input
among them, stand as many lines later as the text has line breaks more. And a reader gives a tree for one of the texts
exactly if it gives this tree for the other one, if its resolvers are blind to lines; and if there are no more line breaks
than before, whatever the resolvers are. -/
theorem insert_trivia {u v w : String} {us : List Token} (sound : (TokenStream.ofText (u ++ v)).run.error = none)
    (cut : Segments (u ++ v).toList us v.toList) (begins : ∃ c ∈ w.toList.head?, c ≤ ' ') (complete : Complete w.toList) :
    let added := breaks (u ++ w ++ v).toList - breaks (u ++ v).toList
    breaks (u ++ v).toList ≤ breaks (u ++ w ++ v).toList ∧ (TokenStream.ofText (u ++ w ++ v)).run.error = none ∧
      (∃ front behind, front.map Prod.fst = us ∧ (TokenStream.ofText (u ++ v)).placed = front ++ behind ∧
        (TokenStream.ofText (u ++ w ++ v)).placed = front ++ behind.map fun (t, line) => (t, line + added)) ∧
      ∀ (r : Reader) (root : Node), r.registry.IsLineBlind ∨ breaks (u ++ w ++ v).toList = breaks (u ++ v).toList →
        ((r.parseText (u ++ v)).result = .ok root ↔ (r.parseText (u ++ w ++ v)).result = .ok root) := by
  have place := Lexer.before_ofChars (u ++ v).toList
  have place' := Lexer.before_ofChars (u ++ w ++ v).toList
  have offenceless : ¬ ∃ ts before complaint, Offends (u ++ v).toList ts before complaint := by
    rintro ⟨ts, before, complaint, offends⟩
    cases sound.symm.trans (place.yields_of_offends offends).2
  obtain ⟨vs, lexes⟩ := cut.lexes_rest offenceless
  have joined : (u ++ v).toList = u.toList ++ v.toList := String.toList_append
  have joined' : (u ++ w ++ v).toList = u.toList ++ (w.toList ++ v.toList) := by
    simp only [String.toList_append, List.append_assoc]
  obtain ⟨more, front, behind, tokens, placed, placed'⟩ :=
    Segments.exists_placed_insert (joined ▸ cut) lexes begins complete 1
  rw [← joined, ← joined'] at more placed'
  rw [← joined] at placed
  have handed : TokenStream.placed (.ofText (u ++ v)) = front ++ behind := (place.placed_eq placed).1
  have handed' : TokenStream.placed (.ofText (u ++ w ++ v)) = _ := (place'.placed_eq placed').1
  have sound' : (TokenStream.ofText (u ++ w ++ v)).run.error = none := (place'.placed_eq placed').2
  have yields : (TokenStream.ofText (u ++ v)).Yields ((front ++ behind).map Prod.fst) none := by
    rw [← handed]
    exact TokenStream.yields_placed sound
  have yields' : (TokenStream.ofText (u ++ w ++ v)).Yields ((front ++ behind).map Prod.fst) none := by
    have same := TokenStream.yields_placed sound'
    rwa [handed', List.map_append, map_fst_later, ← List.map_append] at same
  refine ⟨more, sound', ⟨front, behind, tokens, handed, handed'⟩, fun r root either => ?_⟩
  rcases either with blind | none
  · have same := TokenStream.showSame_of_yields yields yields'
    have same' := TokenStream.showSame_of_yields yields' yields
    exact ⟨result_of_showSame blind.agree_refl same, result_of_showSame blind.agree_refl same'⟩
  · have lines : TokenStream.placed (.ofText (u ++ v)) = TokenStream.placed (.ofText (u ++ w ++ v)) := by
      rw [handed, handed', none, Nat.sub_self, map_later_zero]
    exact ⟨result_of_placed sound sound' lines, result_of_placed sound' sound lines.symm⟩

/-- Behind a string and in front of a line feed, a line comment and a block comment with a carriage return behind it are put
in. The carriage return and the line feed are one line break, so there is one more than before. -/
theorem insert_trivia_beforeFeed :
    let u := "a\"b\""
    let v := "\n;"
    let w := " //x\r/* * /*/\r"
    (TokenStream.ofText (u ++ v)).run.error = none ∧ Segments (u ++ v).toList [.string "a", .string "b"] v.toList ∧
      (∃ c ∈ w.toList.head?, c ≤ ' ') ∧ Complete w.toList ∧
      breaks (u ++ w ++ v).toList - breaks (u ++ v).toList = 1 ∧
      (TokenStream.ofText (u ++ w ++ v)).run.error = none ∧
      (∃ front behind, front.map Prod.fst = [Token.string "a", .string "b"] ∧
        (TokenStream.ofText (u ++ v)).placed = front ++ behind ∧
        (TokenStream.ofText (u ++ w ++ v)).placed = front ++ behind.map fun (t, line) => (t, line + 1)) ∧
      Registry.standard.IsLineBlind ∧
      ∀ root, ((Reader.standard "utf-8").parseText (u ++ v)).result = .ok root ↔
        ((Reader.standard "utf-8").parseText (u ++ w ++ v)).result = .ok root := by
  intro u v w
  have sound : (TokenStream.ofText (u ++ v)).run.error = none := by decide +kernel
  have cut : Segments (u ++ v).toList [.string "a", .string "b"] v.toList := by
    have name : Opens ['a', '"', 'b', '"', '\n', ';'] (.string "a") ['"', 'b', '"', '\n', ';'] :=
      ⟨[], ['a'], rfl, .nil, .word (List.cons_ne_nil _ _) (List.forall_mem_singleton.2 (by decide))
        (fun c next => by cases next; decide) (by decide)⟩
    have string : Opens ['"', 'b', '"', '\n', ';'] (.string "b") ['\n', ';'] :=
      ⟨[], ['"', 'b', '"'], rfl, .nil, .quoted (.plain (by decide) (by decide) (by decide) .nil)⟩
    rw [show (u ++ v).toList = ['a', '"', 'b', '"', '\n', ';'] by decide, show v.toList = ['\n', ';'] by decide]
    exact .cons name (.cons string (.nil _))
  have begins : ∃ c ∈ w.toList.head?, c ≤ ' ' := ⟨' ', by decide, by decide⟩
  have complete : Complete w.toList := by
    rw [show w.toList = ' ' :: '/' :: '/' :: (['x'] ++ '\r' :: '/' :: '*' :: ([' ', '*', ' ', '/'] ++ ['*', '/', '\r']))
      by decide]
    exact .blank (by decide) (.line (List.forall_mem_singleton.2 (by decide)) (by decide)
      (.blank (by decide) (.block (by decide) (.blank (by decide) .nil))))
  have one : breaks (u ++ w ++ v).toList - breaks (u ++ v).toList = 1 := by decide
  obtain ⟨-, sound', tokens, trees⟩ := insert_trivia sound cut begins complete
  rw [one] at tokens
  have blind := Registry.isPrompt_standard.isLineBlind
  exact ⟨sound, cut, begins, complete, one, sound', tokens, blind, fun root => trees (.standard "utf-8") root (.inl blind)⟩

/-- A resolver that answers with the line of an error that it has made. -/
def lineResolver : Resolver where
  display := "LineResolver()"
  claims space name := space == "demo" && name == "line"
  request _ _ _ _ := .create (.custom "") none fun e =>
    .answer (.custom ⟨.plain, "demo", "line", [], [("at", .integer e.line)]⟩)

/-- The types in a tree that is read, in the order of the walk. -/
def typesOf (result : Except ReadError Node) : List ArgumentType :=
  match result with
  | .ok root => root.walk.filterMap Node.type
  | .error _ => []

/-- **Lines may be seen.** If a line feed is put in, a resolver that answers with the line of an error that it has made
answers otherwise, and the trees of the two texts differ. -/
theorem insert_trivia_seen :
    let r : Reader := ⟨⟨[lineResolver]⟩, "utf-8"⟩
    let u := "r \x7b"
    let v := " a demo:line; \x7d"
    let w := "\n"
    (TokenStream.ofText (u ++ v)).run.error = none ∧ Segments (u ++ v).toList [.string "r", .openBlock] v.toList ∧
      (∃ c ∈ w.toList.head?, c ≤ ' ') ∧ Complete w.toList ∧
      ∃ root root', (r.parseText (u ++ v)).result = .ok root ∧ (r.parseText (u ++ w ++ v)).result = .ok root' ∧
        root ≠ root' := by
  intro r u v w
  have sound : (TokenStream.ofText (u ++ v)).run.error = none := by decide +kernel
  have cut : Segments (u ++ v).toList [.string "r", .openBlock] v.toList := by
    have name : Opens (['r'] ++ ' ' :: '\x7b' :: v.toList) (.string "r") (' ' :: '\x7b' :: v.toList) :=
      ⟨[], ['r'], rfl, .nil, .word (List.cons_ne_nil _ _) (List.forall_mem_singleton.2 (by decide))
        (fun c next => by cases next; decide) (by decide)⟩
    have brace : Opens ([' ', '\x7b'] ++ v.toList) .openBlock v.toList :=
      ⟨[' '], ['\x7b'], rfl, .blank (by decide) .nil, .structural (by decide)⟩
    rw [show (u ++ v).toList = ['r'] ++ ' ' :: '\x7b' :: v.toList by decide]
    exact .cons name (.cons brace (.nil _))
  have types : typesOf (r.parseText (u ++ v)).result =
      [.custom ⟨.plain, "demo", "line", [], [("at", .integer 1)]⟩] := by decide +kernel
  have types' : typesOf (r.parseText (u ++ w ++ v)).result =
      [.custom ⟨.plain, "demo", "line", [], [("at", .integer 2)]⟩] := by decide +kernel
  have complete : Complete w.toList := by
    rw [show w.toList = ['\n'] by decide]
    exact .blank (by decide) .nil
  refine ⟨sound, cut, ⟨'\n', by decide, by decide⟩, complete, ?_⟩
  cases read : (r.parseText (u ++ v)).result with
  | error => rw [read] at types; cases types
  | ok root =>
      cases read' : (r.parseText (u ++ w ++ v)).result with
      | error => rw [read'] at types'; cases types'
      | ok root' =>
          refine ⟨root, root', rfl, rfl, ?_⟩
          rintro rfl
          rw [read] at types
          rw [read'] at types'
          cases types.symm.trans types'

end Reader

end CommandTree
