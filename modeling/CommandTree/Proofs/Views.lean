import CommandTree.Proofs.Lexicon.Placement
import CommandTree.Proofs.Machine.Steps
import CommandTree.Proofs.Simulation.Parsing
/-!
Token streams that look the same.

What a parser makes of tokens may depend on more than the tokens, if a resolver looks at the lines of the errors that it has
made. Two token streams are compared here by the tokens that they hand out and by some view of the lexer behind each. If
nothing is seen of the lexer, they go on alike for resolvers that are blind to lines; if its line is seen, for all.

* `Lookahead.Shows`: what is handed out, with a view of the source behind each item; `Lookahead.Shows.sees` is what looking
  at the next item shows of it;
* `TokenStream.showing`: token streams that show the same are a simulation;
* `Resolver.IsLineBlind`: the answers of a resolver do not depend on lines; prompt resolvers are blind to them
  (`Resolver.IsPrompt.isLineBlind`).
-/

namespace CommandTree

/-! ### Items and what is seen behind them -/

namespace Lookahead

variable {σ ε α β : Type} {p : Producer σ ε α} {view : σ → β} {l l' : Lookahead σ α} {o : Option α}
  {items : List (α × β)}

/-- Looking again finds the same. -/
lemma peek?_again (h : peek? p l = .ok o l') : peek? p l' = .ok o l' := by
  unfold peek? at h
  split at h
  · rename_i ready
    cases h
    simp only [peek?, ready]
  · rename_i done
    cases h
    simp only [peek?, done]
  · cases h
  · split at h <;> cases h
    · rfl
    · rfl

/-- Looking at the next item takes none. -/
lemma run_of_peek? (h : peek? p l = .ok o l') : l'.run p = l.run p := by
  have same : next? p l' = next? p l := by
    rw [next?, next?, peek?_again h, h]
  rw [run_eq, run_eq p l, same]

/-- These items are left to hand out, with so much seen of the source behind each, and no error. -/
def Shows (p : Producer σ ε α) (view : σ → β) (l : Lookahead σ α) (items : List (α × β)) : Prop :=
  ((l.run p).items.map fun (a, s) => (a, view s)) = items ∧ (l.run p).error = none

/-- What is left to hand out, as it is seen by looking at the next item: there is none, or there is one that can be
taken, and the source is the one behind it. -/
inductive Sees (p : Producer σ ε α) (view : σ → β) :
    List (α × β) → EStateM.Result (QueryError ε) (Lookahead σ α) (Option α) → Prop
  | none {l : Lookahead σ α} (shows : l.Shows p view []) : Sees p view [] (.ok none l)
  | some {a : α} {items : List (α × β)} {l : Lookahead σ α} (shows : l.Shows p view ((a, view l.source) :: items))
      (taken : (ofSource l.source).Shows p view items) : Sees p view ((a, view l.source) :: items) (.ok (some a) l)

lemma Shows.sees (h : l.Shows p view items) : Sees p view items (peek? p l) := by
  have run := run_eq p l
  cases seen : peek? p l with
  | error e l' =>
      simp only [next?, seen] at run
      rw [Shows, run] at h
      cases h.2
  | ok o l' =>
      have again := run_of_peek? seen
      cases o with
      | none =>
          simp only [next?, seen] at run
          obtain rfl : [] = items := by rw [← h.1, run]; rfl
          exact .none (by rw [Shows, again]; exact h)
      | some a =>
          simp only [next?, seen] at run
          have whole := h
          rw [Shows, run] at h
          obtain ⟨rfl, sound⟩ := h
          refine .some ?_ ⟨rfl, sound⟩
          rw [Shows, again]
          exact whole

lemma Shows.yields (h : l.Shows p view items) : l.Yields p (items.map Prod.fst) none := by
  obtain ⟨rfl, sound⟩ := h
  exact ⟨by rw [List.map_map]; rfl, sound⟩

/-- If nothing is seen of the source, the items alone are shown. -/
lemma shows_unseen_iff {as : List α} : l.Shows p (fun _ => ()) (as.map (·, ())) ↔ l.Yields p as none := by
  constructor
  · intro shows
    have yields := shows.yields
    rwa [List.map_map, show Prod.fst ∘ (fun a : α => (a, ())) = id from rfl, List.map_id] at yields
  · rintro ⟨rfl, sound⟩
    exact ⟨by rw [List.map_map]; rfl, sound⟩

end Lookahead

/-! ### Token streams that show the same -/

namespace TokenStream

variable {β : Type} {view : Lexer → β} {q q' : TokenStream}

/-- These tokens are left to hand out, with so much seen of the lexer behind each, and no error. -/
abbrev Shows (view : Lexer → β) (q : TokenStream) (items : List (Token × β)) : Prop :=
  Lookahead.Shows Lexer.producer view q items

/-- The lexer stays as it is where it finds no token. -/
lemma source_eq_of_peek? (h : Lookahead.peek? Lexer.producer q = .ok none q') : q'.source = q.source := by
  unfold Lookahead.peek? at h
  split at h
  · cases h
  · cases h
    rfl
  · cases h
  · split at h <;> cases h
    rename_i computed
    exact Lexer.eq_of_compute_finished computed

/-- Two token streams show the same, now and behind each token. -/
def ShowSame (view : Lexer → β) (q q' : TokenStream) : Prop :=
  view q.source = view q'.source ∧ ∃ items, q.Shows view items ∧ q'.Shows view items

/-- The next token is the same, and what is left shows the same, whether it is taken or not. -/
lemma ShowSame.peek? (h : ShowSame view q q') :
    Corresponds (fun o m m' => ShowSame view m m' ∧ (o.isSome → ShowSame view ⟨m.source, .idle⟩ ⟨m'.source, .idle⟩))
      (ShowSame view) (fun _ => True) (Lookahead.peek? Lexer.producer q) (Lookahead.peek? Lexer.producer q') := by
  obtain ⟨now, items, shows, shows'⟩ := h
  have sees := shows.sees
  have sees' := shows'.sees
  cases seen : Lookahead.peek? Lexer.producer q with
  | error e m =>
      rw [seen] at sees
      cases sees
  | ok o m =>
      cases seen' : Lookahead.peek? Lexer.producer q' with
      | error e m' =>
          rw [seen'] at sees'
          cases sees'
      | ok o' m' =>
          rw [seen] at sees
          rw [seen'] at sees'
          cases sees with
          | none more =>
              cases sees' with
              | none more' =>
                  have same : view m.source = view m'.source := by
                    rw [source_eq_of_peek? seen, source_eq_of_peek? seen', now]
                  exact .ok ⟨⟨same, [], more, more'⟩, nofun⟩
          | @some t items _ more taken =>
              generalize whole : (t, view m.source) :: items = all at sees'
              cases sees' with
              | none => cases whole
              | @some t' items' _ more' taken' =>
                  obtain ⟨head, rfl⟩ := List.cons_eq_cons.1 whole
                  obtain ⟨rfl, same⟩ := Prod.mk.inj head
                  rw [← same] at more'
                  exact .ok ⟨⟨same, _, more, more'⟩, fun _ => ⟨same, _, taken, taken'⟩⟩

/-- **Token streams that show the same answer alike.** An error may name another line, so errors are excused. -/
def showing (view : Lexer → β) : TokenStream.Simulation where
  related := ShowSame view
  excused _ := True
  ends := True
  peek? h := h.peek?.mono fun _ _ _ behind => ⟨behind.1, fun _ => trivial⟩
  next? {q q'} h := by
    have peeked := h.peek?
    unfold Lookahead.next?
    generalize Lookahead.peek? Lexer.producer q = r at peeked
    generalize Lookahead.peek? Lexer.producer q' = r' at peeked
    cases peeked with
    | @ok o _ _ behind =>
        cases o with
        | none => exact .ok ⟨behind.1, trivial⟩
        | some t => exact .ok ⟨behind.2 rfl, trivial⟩
    | error stopped => exact .error stopped
    | excused => exact .excused trivial
  refusal _ _ _ := .inr trivial

/-- Token streams that hand out the same tokens show the same, if nothing is seen of the lexer. -/
lemma showSame_of_yields {ts : List Token} (h : q.Yields ts none) (h' : q'.Yields ts none) :
    ShowSame (fun _ => ()) q q' :=
  ⟨rfl, _, Lookahead.shows_unseen_iff.2 h, Lookahead.shows_unseen_iff.2 h'⟩

lemma ShowSame.exists_yields (h : ShowSame view q q') : ∃ ts, q.Yields ts none ∧ q'.Yields ts none := by
  obtain ⟨-, items, shows, shows'⟩ := h
  exact ⟨_, shows.yields, shows'.yields⟩

/-- If the lines are seen, they are the same. -/
lemma keepsLines_showing : (showing Lexer.line).KeepsLines := fun _ _ h => h.1

end TokenStream

/-! ### Resolvers that are blind to lines -/

/-- The answers of a resolver do not depend on lines: what it answers on a token stream without an error it answers on every
other one that hands out the same tokens, and it leaves the same tokens. -/
def Resolver.IsLineBlind (r : Resolver) : Prop :=
  ∀ space name (q q' : TokenStream) ts type m, q.Yields ts none → q'.Yields ts none → r.resolve space name q = .ok type m →
    ∃ us m', r.resolve space name q' = .ok type m' ∧ m.Yields us none ∧ m'.Yields us none

/-- All resolvers of a registry are blind to lines. -/
def Registry.IsLineBlind (registry : Registry) : Prop := ∀ r ∈ registry.resolvers, r.IsLineBlind

namespace Resolver

variable {r : Resolver}

/-- A resolver that is blind to lines answers alike on token streams that hand out the same tokens. -/
lemma IsLineBlind.respects (blind : r.IsLineBlind) (space name : String) :
    (TokenStream.showing fun _ => ()).Respects r space name := by
  intro q q' (h : TokenStream.ShowSame (fun _ => ()) q q')
  obtain ⟨ts, yields, yields'⟩ := h.exists_yields
  cases answer : r.resolve space name q with
  | error e m => exact .excused trivial
  | ok type m =>
      obtain ⟨us, m', answer', left, left'⟩ := blind space name q q' ts type m yields yields' answer
      rw [answer']
      exact .ok ⟨TokenStream.showSame_of_yields left left', trivial⟩

/-- **A prompt resolver is blind to lines.** -/
lemma IsPrompt.isLineBlind (prompt : r.IsPrompt) : r.IsLineBlind := by
  intro space name q q' ts type m yields yields' answer
  have respects : (TokenStream.showing fun _ => ()).Respects r space name :=
    TokenStream.Simulation.respects_of_isPrompt prompt space name
  have answers := respects q q' (TokenStream.showSame_of_yields yields yields')
  rw [answer] at answers
  generalize r.resolve space name q' = result at answers
  cases answers with
  | @ok _ m m' behind =>
      have related : TokenStream.ShowSame (fun _ => ()) m m' := behind.1
      obtain ⟨us, left, left'⟩ := related.exists_yields
      exact ⟨us, m', rfl, left, left'⟩

end Resolver

lemma Registry.IsPrompt.isLineBlind {registry : Registry} (prompt : registry.IsPrompt) : registry.IsLineBlind :=
  fun r hr => (prompt r hr).isLineBlind

lemma Registry.IsLineBlind.agree_refl {registry : Registry} (blind : registry.IsLineBlind) :
    (TokenStream.showing fun _ => ()).Agree registry registry :=
  fun space name => .inl ⟨rfl, fun _ claims => (blind _ (List.mem_of_find?_eq_some claims)).respects space name⟩

end CommandTree
