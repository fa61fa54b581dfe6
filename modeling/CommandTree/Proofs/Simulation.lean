import CommandTree.Proofs.Unfolding
/-!
Scanners that proceed alike.

Two scanners may stand in front of different streams and still find the same tokens. A simulation is a relation between
scanners that is kept by what both read next, one character or one line break at a time. This one step is all that has to
be seen of the streams; the scanners, and all that reads tokens, follow.

* `Corresponds`: two results are the same up to related states, unless the first is an error that is excused;
  `Corresponds.bind` goes on from there;
* `Scanner.Step` is what two scanners read next, and `Scanner.Simulation` a relation that keeps it up;
* `Scanner.Simulation.skipBlank`, `readWord` and `readQuoted` are the scanners, each by induction on what is left to
  scan;
* `Scanner.Simulation.compute`: the next tokens are the same.
-/

namespace CommandTree

open Text

/-! ### Results that correspond -/

/-- Two results are successes with the same value, or failures with the same error, and their states are related.
An error that is excused may stand against anything. -/
inductive Corresponds {ε σ α : Type} (post : α → σ → σ → Prop) (stop : σ → σ → Prop) (excused : ε → Prop) :
    EStateM.Result ε σ α → EStateM.Result ε σ α → Prop
  | ok {a : α} {s s' : σ} (related : post a s s') : Corresponds post stop excused (.ok a s) (.ok a s')
  | error {e : ε} {s s' : σ} (stopped : stop s s') : Corresponds post stop excused (.error e s) (.error e s')
  | excused {e : ε} {s : σ} {r : EStateM.Result ε σ α} (h : excused e) : Corresponds post stop excused (.error e s) r

namespace Corresponds

variable {ε σ α β : Type} {post post' : α → σ → σ → Prop} {goal : β → σ → σ → Prop} {stop : σ → σ → Prop}
  {excused : ε → Prop}

/-- What is known of the states behind a success may be weakened. -/
lemma mono {r r' : EStateM.Result ε σ α} (h : Corresponds post stop excused r r')
    (weaker : ∀ a s s', post a s s' → post' a s s') : Corresponds post' stop excused r r' := by
  cases h with
  | ok related => exact .ok (weaker _ _ _ related)
  | error stopped => exact .error stopped
  | excused h => exact .excused h

/-- Sequences correspond if their parts do. -/
lemma bind {m m' : EStateM ε σ α} {k k' : α → EStateM ε σ β} {s s' : σ}
    (first : Corresponds post stop excused (m s) (m' s'))
    (second : ∀ a t t', m s = .ok a t → post a t t' → Corresponds goal stop excused (k a t) (k' a t')) :
    Corresponds goal stop excused ((m >>= k) s) ((m' >>= k') s') := by
  simp only [Bind.bind, EStateM.bind]
  generalize m s = r at first second
  generalize m' s' = r' at first
  cases first with
  | ok related => exact second _ _ _ rfl related
  | error stopped => exact .error stopped
  | excused h => exact .excused h

end Corresponds

/-- Scans that go on alike from what corresponds do correspond. -/
lemma Corresponds.andThen {α β : Type} {post : α → Scanner → Scanner → Prop} {goal : β → Scanner → Scanner → Prop}
    {stop : Scanner → Scanner → Prop} {excused : InputFailure → Prop} {r r' : Scan α} {next next' : α → Scanner → Scan β}
    (first : Corresponds post stop excused r r')
    (second : ∀ a t t', r = .ok a t → post a t t' → Corresponds goal stop excused (next a t) (next' a t')) :
    Corresponds goal stop excused (r.andThen next) (r'.andThen next') := by
  cases first with
  | ok related => exact second _ _ _ rfl related
  | error stopped => exact .error stopped
  | excused h => exact .excused h

/-! ### Failures of streams -/

/-- What a failure of the stream comes to at a line. -/
def InputFailure.ofCause (cause : Cause) (line : Nat) : InputFailure :=
  if cause.isUnreadable then .parse ⟨.unreadable cause, line, some cause⟩ else .interrupted cause

lemma Scanner.fail_eq {α : Type} (s : Scanner) (cause : Cause) :
    (s.fail cause : Scan α) = .error (.ofCause cause s.line) s := by
  unfold fail InputFailure.ofCause
  split <;> rfl

/-! ### Simulations -/

namespace Scanner

/-- What two scanners read next: both fail, or the first one in a way that is excused; both are at the end; or both find
a character, the same one inside a line. Line breaks may differ, as long as what counts them comes to the same. A
character read may be handed back. -/
inductive Step (related stopped : Scanner → Scanner → Prop) (excused : InputFailure → Prop) (ends : Prop)
    (s s' : Scanner) : Prop
  | failed {cause : Cause} (left : s.stream.read = .failed cause) (right : s'.stream.read = .failed cause)
  | excused {cause : Cause} (left : s.stream.read = .failed cause) (h : excused (.ofCause cause s.line))
  | finished {rest rest' : CharStream} (left : s.stream.read = .finished rest) (right : s'.stream.read = .finished rest')
      (met : ends) (after : related (s.withStream rest) (s'.withStream rest'))
  | inLine {c : Char} {rest rest' : CharStream} (left : s.stream.read = .char c rest)
      (right : s'.stream.read = .char c rest') (plain : isLineBreak c = false)
      (after : related (s.withStream rest) (s'.withStream rest'))
      (back : related (s.withStream (rest.unread c)) (s'.withStream (rest'.unread c)))
  | lineBreak {c c' : Char} {rest rest' : CharStream} (left : s.stream.read = .char c rest)
      (right : s'.stream.read = .char c' rest') (breaking : isLineBreak c = true) (breaking' : isLineBreak c' = true)
      (after : stopped (s.withStream rest) (s'.withStream rest'))
      (back : related (s.withStream (rest.unread c)) (s'.withStream (rest'.unread c')))
      (counted : Corresponds (fun _ => related) stopped excused ((s.withStream rest).lineBreak c)
        ((s'.withStream rest').lineBreak c'))

/-- A relation between scanners that is kept by what they read next. Where both stop for a failure less is known of them,
but still that they are on the same line. Whether an end is ever met is part of the simulation. -/
structure Simulation where
  -- the scanners go on alike
  related : Scanner → Scanner → Prop
  -- the scanners have met a failure alike
  stopped : Scanner → Scanner → Prop
  -- the failures of the first scanner that the other one need not meet
  excused : InputFailure → Prop
  -- whether the scanners may be at an end
  ends : Prop
  stop : ∀ {s s'}, related s s' → stopped s s'
  line_eq : ∀ {s s'}, stopped s s' → s.line = s'.line
  step : ∀ {s s'}, related s s' → Step related stopped excused ends s s'

namespace Simulation

variable {sim : Simulation} {s s' : Scanner} {α : Type} {post : α → Scanner → Scanner → Prop}

/-- Two scans correspond. -/
abbrev Scans (sim : Simulation) (post : α → Scanner → Scanner → Prop) : Scan α → Scan α → Prop :=
  Corresponds post sim.stopped sim.excused

/-- A complaint about the current line is the same. -/
lemma complain (h : sim.stopped s s') (complaint : Complaint) :
    sim.Scans post (s.complain complaint) (s'.complain complaint) := by
  rw [Scanner.complain, Scanner.complain, sim.line_eq h]
  exact .error h

/-- Scans correspond that read a character and go on alike from whatever comes of it. -/
lemma read (h : sim.related s s') {finished finished' : CharStream → Scan α} {char char' : Char → CharStream → Scan α}
    (atEnd : ∀ rest rest', sim.ends → sim.related (s.withStream rest) (s'.withStream rest') →
      sim.Scans post (finished rest) (finished' rest'))
    (inLine : ∀ c rest rest', s.stream.read = .char c rest → isLineBreak c = false →
      sim.related (s.withStream rest) (s'.withStream rest') →
      sim.related (s.withStream (rest.unread c)) (s'.withStream (rest'.unread c)) →
      sim.Scans post (char c rest) (char' c rest'))
    (lineBreak : ∀ c c' rest rest', s.stream.read = .char c rest → isLineBreak c = true → isLineBreak c' = true →
      sim.stopped (s.withStream rest) (s'.withStream rest') →
      sim.related (s.withStream (rest.unread c)) (s'.withStream (rest'.unread c')) →
      sim.Scans (fun _ => sim.related) ((s.withStream rest).lineBreak c) ((s'.withStream rest').lineBreak c') →
      sim.Scans post (char c rest) (char' c' rest')) :
    sim.Scans post
      (match s.stream.read with
        | .failed cause => s.fail cause
        | .finished rest => finished rest
        | .char c rest => char c rest)
      (match s'.stream.read with
        | .failed cause => s'.fail cause
        | .finished rest => finished' rest
        | .char c rest => char' c rest) := by
  cases sim.step h with
  | failed left right =>
      simp only [left, right, fail_eq, sim.line_eq (sim.stop h)]
      exact .error (sim.stop h)
  | excused left h =>
      simp only [left, fail_eq]
      exact .excused h
  | finished left right met after =>
      simp only [left, right]
      exact atEnd _ _ met after
  | inLine left right plain after back =>
      simp only [left, right]
      exact inLine _ _ _ left plain after back
  | lineBreak left right breaking breaking' after back counted =>
      simp only [left, right]
      exact lineBreak _ _ _ _ left breaking breaking' after back counted

/-! ### Blanks and comments -/

/-- Line comments are passed over alike. -/
lemma skipLineComment {s s' : Scanner} (h : sim.related s s') :
    sim.Scans (fun _ => sim.related) s.skipLineComment s'.skipLineComment := by
  rw [skipLineComment_eq, skipLineComment_eq s']
  refine sim.read h (fun rest rest' _ after => .ok after) (fun c rest rest' found plain after _ => ?_)
    fun c c' rest rest' _ breaking breaking' _ back _ => ?_
  · have less : (s.withStream rest).size < s.size := CharStream.size_lt_of_read found
    simp only [plain, Bool.false_eq_true, if_false]
    exact skipLineComment after
  · simp only [breaking, breaking', if_true]
    exact .ok back
termination_by s.size

/-- Block comments are passed over alike. -/
lemma skipBlockComment (star : Bool) {s s' : Scanner} (h : sim.related s s') :
    sim.Scans (fun _ => sim.related) (s.skipBlockComment star) (s'.skipBlockComment star) := by
  rw [skipBlockComment_eq, skipBlockComment_eq star s']
  refine sim.read h (fun rest rest' _ after => sim.complain (sim.stop after) _)
    (fun c rest rest' found plain after _ => ?_) fun c c' rest rest' found breaking breaking' _ _ counted => ?_
  · have less : (s.withStream rest).size < s.size := CharStream.size_lt_of_read found
    simp only [plain, Bool.false_eq_true, if_false]
    split
    · exact .ok after
    · exact skipBlockComment _ after
  · have less : (s.withStream rest).size < s.size := CharStream.size_lt_of_read found
    simp only [breaking, breaking', if_true]
    refine counted.andThen fun _ t t' counted' h' => ?_
    have less : t.size < s.size := Nat.lt_of_le_of_lt (size_lineBreak counted') less
    exact skipBlockComment false h'
termination_by s.size

/-- What is known behind blanks and comments: no character is found at an end alone. -/
def BehindBlank (sim : Simulation) (o : Option Char) (s s' : Scanner) : Prop :=
  sim.related s s' ∧ (o = none → sim.ends)

/-- Blanks and comments are passed over alike. -/
lemma skipBlank {s s' : Scanner} (h : sim.related s s') : sim.Scans sim.BehindBlank s.skipBlank s'.skipBlank := by
  rw [skipBlank_eq, skipBlank_eq s']
  refine sim.read h (fun rest rest' met after => .ok ⟨after, fun _ => met⟩)
    (fun c rest rest' found plain after _ => ?_) fun c c' rest rest' found breaking breaking' _ _ counted => ?_
  · have less : (s.withStream rest).size < s.size := CharStream.size_lt_of_read found
    simp only [plain, Bool.false_eq_true, if_false]
    split
    · exact skipBlank after
    split
    · refine sim.read after
        (fun last last' met after' => .ok ⟨after', nofun⟩) (fun d last last' found' _ after' back' => ?_)
        fun d d' last last' _ breaking breaking' _ back' _ => ?_
      · have less : (s.withStream last).size < s.size := Nat.lt_trans (CharStream.size_lt_of_read found') less
        split
        · refine (sim.skipLineComment after').andThen fun _ t t' skipped h' => ?_
          have less : t.size < s.size := Nat.lt_of_le_of_lt (size_skipLineComment skipped) less
          exact skipBlank h'
        split
        · refine (sim.skipBlockComment false after').andThen fun _ t t' skipped h' => ?_
          have less : t.size < s.size := Nat.lt_of_le_of_lt (size_skipBlockComment skipped) less
          exact skipBlank h'
        · exact .ok ⟨back', nofun⟩
      · have apart (e : Char) (he : isLineBreak e = true) : e ≠ '/' ∧ e ≠ '*' := by
          constructor <;> rintro rfl <;> cases he
        simp only [apart d breaking, apart d' breaking', if_false]
        exact .ok ⟨back', nofun⟩
    · exact .ok ⟨after, nofun⟩
  · have less : (s.withStream rest).size < s.size := CharStream.size_lt_of_read found
    simp only [breaking, breaking', if_true]
    refine counted.andThen fun _ t t' counted' h' => ?_
    have less : t.size < s.size := Nat.lt_of_le_of_lt (size_lineBreak counted') less
    exact skipBlank h'
termination_by s.size

/-! ### Words and quoted strings -/

/-- Words are read alike. -/
lemma readWord {s s' : Scanner} (h : sim.related s s') :
    sim.Scans (fun _ => sim.related) s.readWord s'.readWord := by
  rw [readWord_eq, readWord_eq s']
  refine sim.read h (fun rest rest' _ after => .ok after) (fun c rest rest' found _ after back => ?_)
    fun c c' rest rest' _ breaking breaking' _ back _ => ?_
  · have less : (s.withStream rest).size < s.size := CharStream.size_lt_of_read found
    split
    · exact (readWord after).andThen fun cs t t' _ h' => .ok h'
    · exact .ok back
  · have apart (e : Char) (he : isLineBreak e = true) : isWordChar e = false := by
      simp only [isLineBreak, Bool.or_eq_true, beq_iff_eq] at he
      rcases he with rfl | rfl <;> rfl
    simp only [apart c breaking, apart c' breaking', Bool.false_eq_true, if_false]
    exact .ok back
termination_by s.size

/-- Quoted strings are read alike. -/
lemma readQuoted {s s' : Scanner} (h : sim.related s s') :
    sim.Scans (fun _ => sim.related) s.readQuoted s'.readQuoted := by
  rw [readQuoted_eq, readQuoted_eq s']
  refine sim.read h (fun rest rest' _ after => sim.complain (sim.stop after) _)
    (fun c rest rest' found plain after _ => ?_) fun c c' rest rest' _ breaking breaking' after _ _ => ?_
  · have less : (s.withStream rest).size < s.size := CharStream.size_lt_of_read found
    simp only [plain, Bool.false_eq_true, if_false]
    split
    · exact .ok after
    split
    · refine sim.read after
        (fun last last' _ after' => sim.complain (sim.stop after') _)
        (fun d last last' found' plain' after' _ => ?_) fun d d' last last' _ breaking breaking' after' _ _ => ?_
      · have less : (s.withStream last).size < s.size := Nat.lt_trans (CharStream.size_lt_of_read found') less
        simp only [plain', Bool.false_eq_true, if_false]
        exact (readQuoted after').andThen fun cs t t' _ h' => .ok h'
      · simp only [breaking, breaking', if_true]
        exact sim.complain after' _
    · exact (readQuoted after).andThen fun cs t t' _ h' => .ok h'
  · simp only [breaking, breaking', if_true]
    exact sim.complain after _
termination_by s.size

/-! ### Tokens -/

/-- Two lexers compute the same: an item, and they go on alike; that there is none; or a failure, where they stop. An
end of the input is computed at an end alone. -/
inductive Computes (sim : Simulation) :
    Lexer × Computed InputFailure Token → Lexer × Computed InputFailure Token → Prop
  | item {t : Token} {l l' : Lexer} (related : sim.related l.scanner l'.scanner) (same : l.ended = l'.ended)
      (atEnd : t = .endOfInput → sim.ends) : Computes sim (l, .item t) (l', .item t)
  | finished {l l' : Lexer} (related : sim.related l.scanner l'.scanner) (same : l.ended = l'.ended) :
      Computes sim (l, .finished) (l', .finished)
  | failed {e : InputFailure} {l l' : Lexer} (stopped : sim.stopped l.scanner l'.scanner) (same : l.ended = l'.ended) :
      Computes sim (l, .failed e) (l', .failed e)
  | excused {e : InputFailure} {l : Lexer} {r : Lexer × Computed InputFailure Token} (h : sim.excused e) :
      Computes sim (l, .failed e) r

/-- A string found by scans that correspond is the same. -/
lemma computes_ofScan {r r' : Scan (List Char)} (h : sim.Scans (fun _ => sim.related) r r') (before : List Char) :
    sim.Computes (Lexer.ofScan before r) (Lexer.ofScan before r') := by
  cases h with
  | ok related => exact .item related rfl nofun
  | error stopped => exact .failed stopped rfl
  | excused h => exact .excused h

/-- The tokens with the same first character are the same. -/
lemma computes_tokenFrom (o : Option Char) (h : sim.BehindBlank o s s') :
    sim.Computes (Lexer.tokenFrom o s) (Lexer.tokenFrom o s') := by
  obtain ⟨related, atEnd⟩ := h
  cases o with
  | none => exact .item related rfl fun _ => atEnd rfl
  | some c =>
      simp only [Lexer.tokenFrom]
      cases structural : Token.ofStructural? c with
      | some t =>
          refine .item related rfl ?_
          rintro rfl
          unfold Token.ofStructural? at structural
          split at structural <;> cases structural
      | none =>
          simp only
          split
          · exact computes_ofScan (sim.readQuoted related) []
          split
          · exact computes_ofScan (sim.readWord related) [c]
          · rw [sim.line_eq (sim.stop related)]
            exact .failed (sim.stop related) rfl

/-- **The next tokens are the same**, or the failures are, unless the first lexer is excused. -/
theorem compute {l l' : Lexer} (h : sim.related l.scanner l'.scanner) (same : l.ended = l'.ended) :
    sim.Computes l.compute l'.compute := by
  cases going : l.ended with
  | true =>
      rw [Lexer.compute_of_ended going, Lexer.compute_of_ended (same ▸ going)]
      exact .finished h same
  | false =>
      have blank := sim.skipBlank h
      rw [Lexer.compute_of_not_ended going, Lexer.compute_of_not_ended (same ▸ going)]
      generalize l.scanner.skipBlank = r at blank
      generalize l'.scanner.skipBlank = r' at blank
      cases blank with
      | ok behind => exact sim.computes_tokenFrom _ behind
      | error stopped => exact .failed stopped rfl
      | excused h => exact .excused h

end Simulation

end Scanner

end CommandTree
