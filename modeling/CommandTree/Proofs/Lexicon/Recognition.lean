import CommandTree.Proofs.Lexicon.Scanning
/-!
Lexers recognise the lexical grammar.

* `Lexer.Before` places a lexer in front of a text, however the text is cut into chunks and whatever is at hand already;
  `Lexer.Before.opens`, `Lexer.Before.ends` and `Lexer.Before.fails` are the tokens that it then finds;
* `Lookahead.Yields` is what taking all tokens comes to, and `Lexer.Before.yields_segments` takes the first ones off;
* `TokenStream.recognises`: a text yields the tokens of its lexemes and the end of the input, or the tokens up to the
  first offence and a complaint about it.
-/

namespace CommandTree

open Text Lexicon

variable {cs rest last front back before : List Char} {t : Token} {ts : List Token} {line : Nat} {l : Lexer}
  {complaint : Complaint}

/-! ### Lines -/

namespace Lexicon

/-- Only the trivia in front of a lexeme hold line breaks. -/
lemma Opens.front_eq (h : Opens (front ++ rest) t rest) : ∃ w x, front = w ++ x ∧ Trivia (x ++ rest) w ∧
    Lexeme rest x t ∧ ∀ more, breaks (front ++ more) = breaks w + breaks more := by
  obtain ⟨w, x, whole, trivia, lexeme⟩ := h
  have same : front = w ++ x := List.append_cancel_right (by rw [whole, List.append_assoc])
  refine ⟨w, x, same, trivia, lexeme, fun more => ?_⟩
  obtain ⟨c, x', hx, above, -⟩ := lexeme.begins
  have apart : (x ++ more).head? ≠ some '\n' := by
    rw [hx]
    exact Lexer.head_ne_feed_of_lt above
  rw [same, List.append_assoc, breaks_append apart, breaks_append_of_forall lexeme.inLine]

/-- Line breaks behind the lexemes of a text are counted apart. -/
lemma Segments.breaks_append (h : Segments (front ++ last) ts last) (more : List Char) :
    breaks (front ++ more) = breaks front + breaks more := by
  generalize hcs : front ++ last = cs at h
  induction h generalizing front with
  | nil =>
      have none : front = [] := by simpa using hcs
      simp [none, breaks]
  | @cons cs rest last t ts opens later ih =>
      obtain ⟨w, x, rfl, trivia, lexeme⟩ := opens
      obtain ⟨used, rfl⟩ : ∃ used, rest = used ++ last := later.exists_front
      have same : front = (w ++ x) ++ used := List.append_cancel_right (by rw [hcs]; simp)
      have opens : Opens ((w ++ x) ++ (used ++ last)) t (used ++ last) := ⟨w, x, by simp, trivia, lexeme⟩
      obtain ⟨w', x', -, -, -, apart⟩ := opens.front_eq
      rw [same, List.append_assoc, apart, apart, ih rfl, Nat.add_assoc]

end Lexicon

/-! ### Lexers in front of a text -/

namespace Lexer

/-- A lexer stands in front of a text, at the given line. -/
def Before (l : Lexer) (cs : List Char) (line : Nat) : Prop := l.Dense ∧ l.gathered = ofText cs line

lemma before_ofChars (cs : List Char) : (ofStream (.ofChars cs none)).Before cs 1 := by
  refine ⟨CharStream.dense_ofChars cs none, ?_⟩
  simp only [gathered, Scanner.gathered, ofStream, CharStream.gathered_ofChars, ofText, Scanner.ofText]

lemma Before.line_eq (h : l.Before cs line) : l.line = line := congrArg Lexer.line h.2

/-- A lexer in front of a text computes what the text alone determines. -/
lemma Before.compute {m : Lexer} {r : Computed InputFailure Token} (h : l.Before cs line)
    (hc : (ofText cs line).compute = (m, r)) :
    ∃ l', l.compute = (l', r) ∧ l'.gathered = m ∧ ∀ t, r = .item t → l'.Dense := by
  obtain ⟨same, dense⟩ := gathers_compute h.1
  rw [h.2, hc] at same
  cases same
  exact ⟨_, rfl, rfl, dense⟩

/-- The next token is that of the first lexeme. -/
lemma Before.opens (h : l.Before (front ++ rest) line) (o : Opens (front ++ rest) t rest) :
    ∃ l', l.compute = (l', .item t) ∧ l'.Before rest (line + breaks front) := by
  obtain ⟨w, x, rfl, trivia, lexeme, apart⟩ := o.front_eq
  have counted := apart []
  rw [List.append_nil, breaks, Nat.add_zero] at counted
  rw [List.append_assoc] at h
  obtain ⟨l', computed, gathered, dense⟩ := h.compute (compute_lexeme trivia lexeme)
  rw [counted]
  exact ⟨l', computed, dense t rfl, gathered⟩

/-- Without a lexeme the next token is the end of the input, and it is the last one, behind all line breaks. -/
lemma Before.ends (h : l.Before cs line) (trivia : Trivia [] cs) :
    ∃ l', l.compute = (l', .item .endOfInput) ∧ l'.ended = true ∧ l'.line = line + breaks cs := by
  obtain ⟨l', computed, gathered, -⟩ := h.compute (compute_end trivia)
  exact ⟨l', computed, congrArg ended gathered, congrArg Lexer.line gathered⟩

/-- An offence is complained of, at the line of the offending character. -/
lemma Before.fails (h : l.Before cs line) (f : Fails cs before rest complaint) :
    ∃ l', l.compute = (l', .failed (.parse ⟨complaint, line + breaks before, none⟩)) := by
  obtain ⟨w, bad, rfl, rfl, trivia, offence⟩ := f
  obtain ⟨m, computed⟩ := compute_offence line trivia offence
  obtain ⟨l', computed', -⟩ := h.compute computed
  exact ⟨l', computed'⟩

end Lexer

/-! ### Taking all tokens -/

namespace Lookahead

variable {σ ε α : Type} {p : Producer σ ε α} {s s' : σ} {a : α} {as : List α} {e : ε} {error : Option (QueryError ε)}

/-- Taking all items gives these, and then the end or an error. -/
def Yields (p : Producer σ ε α) (l : Lookahead σ α) (as : List α) (error : Option (QueryError ε)) : Prop :=
  (l.run p).items.map Prod.fst = as ∧ (l.run p).error = error

/-- Taking all items begins with the one that is computed. -/
lemma run_of_item (h : p.produce s = (s', .item a)) :
    (ofSource s).run p = { (ofSource s').run p with items := (a, s') :: ((ofSource s').run p).items } := by
  have taken : next? p (ofSource s) = .ok (some a) (ofSource s') := by
    simp only [next?, peek?, ofSource, h]
  rw [run_eq]
  simp only [taken]
  rfl

/-- No items are taken where there are none. -/
lemma run_of_finished (h : p.produce s = (s', .finished)) : (ofSource s).run p = ⟨[], none, ⟨s', .done⟩⟩ := by
  have none' : next? p (ofSource s) = .ok none ⟨s', .done⟩ := by
    simp only [next?, peek?, ofSource, h]
  rw [run_eq]
  simp only [none']

/-- No items are taken where the computation fails. -/
lemma run_of_failed (h : p.produce s = (s', .failed e)) :
    (ofSource s).run p = ⟨[], some (.failed e), ⟨s', .failed⟩⟩ := by
  have failed : next? p (ofSource s) = .error (.failed e) ⟨s', .failed⟩ := by
    simp only [next?, peek?, ofSource, h]
  rw [run_eq]
  simp only [failed]

lemma yields_of_item (h : p.produce s = (s', .item a)) (more : (ofSource s').Yields p as error) :
    (ofSource s).Yields p (a :: as) error := by
  rw [Yields, run_of_item h]
  exact ⟨congrArg (a :: ·) more.1, more.2⟩

lemma yields_of_finished (h : p.produce s = (s', .finished)) : (ofSource s).Yields p [] none := by
  rw [Yields, run_of_finished h]
  exact ⟨rfl, rfl⟩

lemma yields_of_failed (h : p.produce s = (s', .failed e)) : (ofSource s).Yields p [] (some (.failed e)) := by
  rw [Yields, run_of_failed h]
  exact ⟨rfl, rfl⟩

end Lookahead

namespace TokenStream

/-- The tokens of a text. -/
def ofText (t : String) : TokenStream := ofStream (.ofChars t.toList none)

/-- Taking all tokens gives these, and then the end or an error. -/
def Yields (q : TokenStream) (ts : List Token) (error : Option TokenError) : Prop :=
  Lookahead.Yields Lexer.producer q ts error

lemma yields_unique {q : TokenStream} {us : List Token} {e e' : Option TokenError} (h : q.Yields ts e)
    (h' : q.Yields us e') : ts = us ∧ e = e' :=
  ⟨h.1.symm.trans h'.1, h.2.symm.trans h'.2⟩

end TokenStream

namespace Lexer

variable {us : List Token} {error : Option TokenError}

/-- A lexer passes over the first lexemes of a text: it yields their tokens, and then what it yields behind them. -/
lemma Before.yields_segments (h : l.Before (front ++ last) line) (segments : Segments (front ++ last) ts last)
    (later : ∀ l' : Lexer, l'.Before last (line + breaks front) → TokenStream.Yields (.ofSource l') us error) :
    TokenStream.Yields (.ofSource l) (ts ++ us) error := by
  generalize hcs : front ++ last = cs at h segments
  induction segments generalizing front line l with
  | nil =>
      have none : front = [] := by simpa using hcs
      subst none
      exact later l h
  | @cons cs rest last t ts opens segments ih =>
      obtain ⟨w, x, rfl, trivia, lexeme⟩ := opens
      obtain ⟨used, rfl⟩ := segments.exists_front
      have same : front = (w ++ x) ++ used := List.append_cancel_right (by rw [hcs]; simp)
      have opens : Opens ((w ++ x) ++ (used ++ last)) t (used ++ last) := ⟨w, x, by simp, trivia, lexeme⟩
      obtain ⟨w', x', -, -, -, apart⟩ := opens.front_eq
      rw [← List.append_assoc w x] at h
      obtain ⟨l', computed, before⟩ := h.opens opens
      refine Lookahead.yields_of_item computed (ih (fun m hm => later m ?_) rfl before)
      rw [same, (Segments.cons opens (.nil _)).breaks_append, ← Nat.add_assoc]
      exact hm

/-- A text that is used up yields the end of the input behind its tokens. -/
lemma Before.yields_of_lexes (h : l.Before cs line) (lexes : Lexes cs ts) :
    TokenStream.Yields (.ofSource l) (ts ++ [.endOfInput]) none := by
  obtain ⟨w, segments, behind⟩ := lexes
  obtain ⟨front, rfl⟩ := segments.exists_front
  refine h.yields_segments segments fun l' hl' => ?_
  obtain ⟨l'', computed, ended, -⟩ := hl'.ends behind
  exact Lookahead.yields_of_item computed (Lookahead.yields_of_finished (compute_of_ended ended))

/-- A text with an offence yields a complaint behind its tokens, at the line of the offending character. -/
lemma Before.yields_of_offends (h : l.Before cs line) (offends : Offends cs ts before complaint) :
    TokenStream.Yields (.ofSource l) ts (some (.failed (.parse ⟨complaint, line + breaks before, none⟩))) := by
  obtain ⟨front, last, back, rest, rfl, segments, fails, rfl⟩ := offends
  rw [segments.breaks_append back, ← Nat.add_assoc, ← List.append_nil ts]
  refine h.yields_segments segments fun l' hl' => ?_
  obtain ⟨l'', computed⟩ := hl'.fails fails
  exact Lookahead.yields_of_failed computed

end Lexer

/-- **The lexical grammar is recognised.** A text yields tokens and the end of the input exactly if it consists of the
lexemes of these tokens with trivia around them. It yields tokens and an error exactly if it begins with the lexemes of
these tokens and then goes on with an offence, and the error is the complaint about it, at the line of the offending
character. One of the two is the case for every text. -/
theorem TokenStream.recognises (text : String) :
    (∀ ts, (ofText text).Yields ts none ↔ ∃ us, ts = us ++ [.endOfInput] ∧ Lexes text.toList us) ∧
    (∀ ts e, (ofText text).Yields ts (some e) ↔ ∃ before complaint, Offends text.toList ts before complaint ∧
      e = .failed (.parse ⟨complaint, 1 + breaks before, none⟩)) ∧
    ((∃ ts, Lexes text.toList ts) ∨ ∃ ts before complaint, Offends text.toList ts before complaint) := by
  have place := Lexer.before_ofChars text.toList
  refine ⟨fun ts => ⟨fun yields => ?_, ?_⟩, fun ts e => ⟨fun yields => ?_, ?_⟩, lexes_or_offends _⟩
  · rcases lexes_or_offends text.toList with ⟨us, lexes⟩ | ⟨us, before, complaint, offends⟩
    · exact ⟨us, (yields_unique yields (place.yields_of_lexes lexes)).1, lexes⟩
    · cases (yields_unique yields (place.yields_of_offends offends)).2
  · rintro ⟨us, rfl, lexes⟩
    exact place.yields_of_lexes lexes
  · rcases lexes_or_offends text.toList with ⟨us, lexes⟩ | ⟨us, before, complaint, offends⟩
    · cases (yields_unique yields (place.yields_of_lexes lexes)).2
    · obtain ⟨rfl, same⟩ := yields_unique yields (place.yields_of_offends offends)
      exact ⟨before, complaint, offends, Option.some.inj same⟩
  · rintro ⟨before, complaint, offends, rfl⟩
    exact place.yields_of_offends offends

end CommandTree
