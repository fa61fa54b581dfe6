import CommandTree.Proofs.Gathering
import CommandTree.Proofs.Simulation.Streams
/-!
Conversations of a caller with a token stream.

A caller of a token stream sees only what its calls come to, and the line that the lexer has reached behind each. Calls
that fail end nothing: a caller may go on, and is refused from then on.

* `Call` are the calls that a resolver may make, and `TokenStream.converse` what a list of them comes to;
* `TokenStream.Simulation.converse_eq`: token streams that answer alike lead to the same conversations;
* `TokenStream.converse_ofChunks`: how a text is cut into chunks makes no difference to any conversation.
-/

namespace CommandTree

/-! ### Calls -/

/-- What a caller asks of a token stream. -/
inductive Call where
  | hasNext
  | next
  | peek
  | createError (complaint : Complaint) (cause : Option Cause)
  deriving DecidableEq, Repr

/-- What a call that succeeds comes to. -/
inductive Reply where
  | flag (b : Bool)
  | token (t : Token)
  | created (error : ParseError)
  deriving DecidableEq, Repr

/-- Carries a call out. -/
def Call.reply : Call → TokenM Reply
  | hasNext => return .flag (← TokenStream.hasNext)
  | next => return .token (← TokenStream.next)
  | peek => return .token (← TokenStream.peek)
  | createError complaint cause => return .created ((← get).errorAt complaint cause)

namespace TokenStream

/-- What a call comes to, and the token stream behind it, also where the call fails. -/
def call (q : TokenStream) (c : Call) : Except TokenError Reply × TokenStream :=
  match c.reply q with
  | .ok reply q' => (.ok reply, q')
  | .error e q' => (.error e, q')

/-- What calls come to one after the other, each with the line behind it. -/
def converse (q : TokenStream) : List Call → List (Except TokenError Reply × Nat)
  | [] => []
  | c :: calls => ((q.call c).1, (q.call c).2.line) :: (q.call c).2.converse calls

end TokenStream

/-! ### Token streams that answer alike -/

namespace TokenStream.Simulation

variable {sim : Simulation} {q q' : TokenStream}

/-- Token streams that answer alike, with no error excused, are on the same line. -/
lemma line_eq (strict : ∀ e, ¬ sim.excused e) (h : sim.related q q') : q.line = q'.line :=
  congrArg ParseError.line ((sim.refusal h .argumentRoot none).resolve_right (strict _))

/-- Calls are answered alike. -/
lemma reply (strict : ∀ e, ¬ sim.excused e) (c : Call) (h : sim.related q q') :
    sim.Answers (fun _ => True) (c.reply q) (c.reply q') := by
  cases c with
  | hasNext => exact (sim.hasNext h).bind fun _ _ _ _ behind => .ok ⟨behind.1, trivial⟩
  | next => exact (sim.next h).bind fun _ _ _ _ behind => .ok ⟨behind.1, trivial⟩
  | peek => exact (sim.peek h).bind fun _ _ _ _ behind => .ok ⟨behind.1, trivial⟩
  | createError complaint cause =>
      have same := (sim.refusal h complaint cause).resolve_right (strict _)
      change sim.Answers _ (.ok (Reply.created (q.errorAt complaint cause)) q)
        (.ok (Reply.created (q'.errorAt complaint cause)) q')
      rw [same]
      exact .ok ⟨h, trivial⟩

/-- A call comes to the same, and the token streams go on alike. -/
lemma call (strict : ∀ e, ¬ sim.excused e) (c : Call) (h : sim.related q q') :
    (q.call c).1 = (q'.call c).1 ∧ sim.related (q.call c).2 (q'.call c).2 := by
  have replies := sim.reply strict c h
  unfold TokenStream.call
  generalize c.reply q = r at replies
  generalize c.reply q' = r' at replies
  cases replies with
  | ok behind => exact ⟨rfl, behind.1⟩
  | error stopped => exact ⟨rfl, stopped⟩
  | excused h => exact absurd h (strict _)

/-- **Token streams that answer alike lead to the same conversations**, if no error is excused. -/
theorem converse_eq (strict : ∀ e, ¬ sim.excused e) (h : sim.related q q') (calls : List Call) :
    q.converse calls = q'.converse calls := by
  induction calls generalizing q q' with
  | nil => rfl
  | cons c calls ih =>
      obtain ⟨same, related⟩ := sim.call strict c h
      rw [TokenStream.converse, TokenStream.converse, same, sim.line_eq strict related, ih related]

end TokenStream.Simulation

/-- Streams of characters whose scanners proceed alike lead to the same conversations, if no failure is excused. -/
lemma Scanner.Simulation.converse_eq {sim : Simulation} (strict : ∀ e, ¬ sim.excused e) {stream stream' : CharStream}
    (h : sim.related ⟨stream, 1⟩ ⟨stream', 1⟩) (calls : List Call) :
    (TokenStream.ofStream stream).converse calls = (TokenStream.ofStream stream').converse calls :=
  sim.tokens.converse_eq (fun _ ⟨_, _, excused⟩ => strict _ excused) (sim.streams_ofStream h) calls

/-! ### Chunks -/

namespace TokenStream

/-- A token stream over a dense stream converses like that over the gathered one. -/
lemma converse_gathered {stream : CharStream} (dense : stream.Dense) (calls : List Call) :
    (ofStream stream).converse calls = (ofStream stream.gathered).converse calls :=
  Scanner.gathering.converse_eq (fun _ no => no) ⟨dense, rfl⟩ calls

/-- **Chunks make no difference.** Over a stream that delivers a text in chunks, none of them empty, and then ends or
fails, every list of calls comes to the same, with the same line behind each call, as over the stream that delivers the
text character by character. -/
theorem converse_ofChunks {chunks : List (List Char)} (full : [] ∉ chunks) (failure : Option Cause)
    (calls : List Call) :
    (ofStream (.ofChunks chunks failure)).converse calls =
      (ofStream (.ofChars chunks.flatten failure)).converse calls := by
  have dense : (CharStream.ofChunks chunks failure).Dense := full
  have chunked := converse_gathered dense calls
  have single := converse_gathered (CharStream.dense_ofChars chunks.flatten failure) calls
  rw [CharStream.gathered_ofChars] at single
  rw [chunked, single]
  rfl

/-- Chunks may part the two slashes of a comment, a star and the slash behind it, the two characters of a line break, and
an escape. -/
theorem converse_ofChunks_parted :
    let chunks : List (List Char) := [['/'], ['/', '\r'], ['\n', '/', '*', '*'], ['/', '"', '\\'], ['"', '"']]
    let calls : List Call := [.peek, .createError .argumentRoot none, .next, .hasNext, .next, .next]
    [] ∉ chunks ∧ (ofStream (.ofChunks chunks none)).converse calls =
      (ofStream (.ofChars chunks.flatten none)).converse calls := by
  intro chunks calls
  have full : [] ∉ chunks := by decide
  exact ⟨full, converse_ofChunks full none calls⟩

end TokenStream

end CommandTree
