import CommandTree.Proofs.Simulation.Parsing
/-!
Token streams over scanners that proceed alike.

What reads tokens cannot tell two simulated scanners apart: the queries of a token stream answer the same, complain of the
same line, and go on alike. So a simulation of scanners is one of token streams, and of all that reads them.

* `Scanner.Simulation.Streams` are the token streams that answer alike;
* `Scanner.Simulation.tokens`: they are a simulation of token streams;
* `Scanner.Simulation.parse`: files are parsed alike.
-/

namespace CommandTree.Scanner.Simulation

variable {sim : Simulation}

/-! ### Token streams -/

/-- Two token streams answer alike. Once a computation has failed nothing more is computed, and only the line matters. -/
structure Streams (sim : Simulation) (q q' : TokenStream) : Prop where
  phase : q.phase = q'.phase
  ended : q.source.ended = q'.source.ended
  -- the scanners may have met a failure
  stopped : sim.stopped q.source.scanner q'.source.scanner
  related : q.phase ≠ .failed → sim.related q.source.scanner q'.source.scanner
  -- the end of the input is at hand only where an end may be met
  atEnd : q.phase = .ready .endOfInput → sim.ends

/-- An error is excused if a failure behind it is. -/
def Excuses (sim : Simulation) (e : TokenError) : Prop := ∃ failure, e = .failed failure ∧ sim.excused failure

variable {q q' : TokenStream}

/-- Token streams over scanners that proceed alike answer alike. -/
lemma streams_ofStream {stream stream' : CharStream} (h : sim.related ⟨stream, 1⟩ ⟨stream', 1⟩) :
    sim.Streams (.ofStream stream) (.ofStream stream') where
  phase := rfl
  ended := rfl
  stopped := sim.stop h
  related _ := h
  atEnd := nofun

lemma Streams.line_eq (h : sim.Streams q q') : q.line = q'.line := sim.line_eq h.stopped

/-- The next token is the same, and it stays in place. -/
lemma peek? (h : sim.Streams q q') :
    Corresponds (fun o q q' => sim.Streams q q' ∧ q.phase ≠ .failed ∧ (o = some .endOfInput → sim.ends)) sim.Streams
      sim.Excuses (Lookahead.peek? Lexer.producer q) (Lookahead.peek? Lexer.producer q') := by
  obtain ⟨l, phase⟩ := q
  obtain ⟨l', phase'⟩ := q'
  obtain rfl : phase = phase' := h.phase
  cases phase with
  | ready t =>
      refine .ok ⟨h, nofun, ?_⟩
      rintro ⟨⟩
      exact h.atEnd rfl
  | done => exact .ok ⟨h, nofun, nofun⟩
  | failed => exact .error h
  | idle =>
      have computes := sim.compute (h.related nofun) h.ended
      simp only [Lookahead.peek?, Lexer.producer]
      generalize l.compute = r at computes
      generalize l'.compute = r' at computes
      cases computes with
      | item related same atEnd =>
          exact .ok ⟨⟨rfl, same, sim.stop related, fun _ => related, fun ready => atEnd (Phase.ready.inj ready)⟩, nofun,
            fun found => atEnd (Option.some.inj found)⟩
      | finished related same => exact .ok ⟨⟨rfl, same, sim.stop related, fun _ => related, nofun⟩, nofun, nofun⟩
      | failed stopped same => exact .error ⟨rfl, same, stopped, fun going => absurd rfl going, nofun⟩
      | excused h => exact .excused ⟨_, rfl, h⟩

/-- The next token is the same, and it is taken. -/
lemma next? (h : sim.Streams q q') : Corresponds (fun _ q q' => sim.Streams q q' ∧ True) sim.Streams sim.Excuses
    (Lookahead.next? Lexer.producer q) (Lookahead.next? Lexer.producer q') := by
  have peeked := sim.peek? h
  unfold Lookahead.next?
  generalize Lookahead.peek? Lexer.producer q = r at peeked
  generalize Lookahead.peek? Lexer.producer q' = r' at peeked
  cases peeked with
  | @ok o _ _ behind =>
      obtain ⟨streams, going, -⟩ := behind
      cases o with
      | none => exact .ok ⟨streams, trivial⟩
      | some t => exact .ok ⟨⟨rfl, streams.ended, streams.stopped, fun _ => streams.related going, nofun⟩, trivial⟩
  | error stopped => exact .error stopped
  | excused h => exact .excused h

/-- **Token streams over scanners that proceed alike are a simulation.** -/
def tokens (sim : Simulation) : TokenStream.Simulation where
  related := sim.Streams
  excused := sim.Excuses
  ends := sim.ends
  peek? h := (sim.peek? h).mono fun _ _ _ behind => ⟨behind.1, behind.2.2⟩
  next? := sim.next?
  refusal h complaint cause := .inl (by rw [TokenStream.errorAt, TokenStream.errorAt, h.line_eq])

lemma keepsLines_tokens (sim : Simulation) : sim.tokens.KeepsLines := fun _ _ h => h.line_eq

/-! ### Parsers -/

/-- Two parsers go on alike, and have found the same resolvers. -/
abbrev States (sim : Simulation) (s s' : ParseState) : Prop := sim.tokens.States s s'

/-- **Files are parsed alike**: the trees are the same, or the errors are, unless the first parser is excused. A tree is
read only where an end may be met. -/
theorem parse {s s' : ParseState} (registry : Registry) (h : sim.States s s') :
    Corresponds (fun _ s s' => sim.States s s' ∧ sim.ends) sim.States sim.Excuses (Parser.parse registry s)
      (Parser.parse registry s') :=
  sim.tokens.parse (sim.keepsLines_tokens.agree_refl registry) h

end CommandTree.Scanner.Simulation
