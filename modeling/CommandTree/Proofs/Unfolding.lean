import Mathlib.Tactic.Common
import CommandTree.Parser
/-!
The loops of the scanners, the resolvers and the parser, one step at a time.

Each loop is given by what its first step comes to, and by how it goes on from there. All that is proved of a loop rests
on its equation, and not on how its end is seen.

* `bind_of_ok` and `bind_of_error` go on from the first part of a sequence, and `Scan.andThen` from what a scan finds;
* `Lookahead.run_eq` is the step from one item taken to the next;
* `Scanner.skipBlank_eq`, `Scanner.readWord_eq`, `Scanner.readQuoted_eq` and their likes are the steps of the scanners;
* `Lexer.compute_of_not_ended`: the next token is the one whose first character stands behind blanks and comments;
* `Resolver.resolveFrom_eq` is the step from one token taken to the next;
* `Parser.perform_enter_eq`, `Parser.perform_leave_eq` are the steps between the nodes of a tree.
-/

namespace CommandTree

open Text

/-! ### Sequences -/

section Sequences

variable {ε σ α β : Type} {m : EStateM ε σ α} {k : α → EStateM ε σ β} {s s' : σ}

/-- A sequence whose first part succeeds goes on with the second. -/
lemma bind_of_ok {a : α} (h : m s = .ok a s') : (m >>= k) s = k a s' := by
  simp only [Bind.bind, EStateM.bind, h]

/-- A sequence whose first part fails does. -/
lemma bind_of_error {e : ε} (h : m s = .error e s') : (m >>= k) s = .error e s' := by
  simp only [Bind.bind, EStateM.bind, h]

/-- Two sequences come to the same if they begin alike and what comes behind does. -/
lemma bind_congr_of_ok {k' : α → EStateM ε σ β} (h : ∀ a s', m s = .ok a s' → k a s' = k' a s') :
    (m >>= k) s = (m >>= k') s := by
  cases run : m s with
  | ok a s' => rw [bind_of_ok run, bind_of_ok run, h a s' run]
  | error e s' => rw [bind_of_error run, bind_of_error run]

end Sequences

/-! ### Lookahead -/

/-- An item that was looked at is at hand. -/
lemma Lookahead.phase_of_peek? {σ ε α : Type} {p : Producer σ ε α} {l l' : Lookahead σ α} {a : α}
    (h : peek? p l = .ok (some a) l') : l'.phase = .ready a := by
  unfold peek? at h
  split at h
  · cases h
    assumption
  · cases h
  · cases h
  · split at h <;> cases h
    rfl

/-- One step of taking all items. -/
lemma Lookahead.run_eq {σ ε α : Type} (p : Producer σ ε α) (l : Lookahead σ α) :
    l.run p = match next? p l with
      | .ok none l' => ⟨[], none, l'⟩
      | .error e l' => ⟨[], some e, l'⟩
      | .ok (some a) l' => { l'.run p with items := (a, l'.source) :: (l'.run p).items } := by
  rw [run]
  split <;> simp only [*]

/-! ### Scanners -/

/-- Goes on from what a scan finds. -/
def Scan.andThen {α β : Type} (r : Scan α) (next : α → Scanner → Scan β) : Scan β :=
  match r with
  | .error e s => .error e s
  | .ok a s => next a s

namespace Scanner

/-- One step over a line comment. -/
lemma skipLineComment_eq (s : Scanner) :
    s.skipLineComment = match s.stream.read with
      | .failed cause => s.fail cause
      | .finished rest => .ok () (s.withStream rest)
      | .char c rest =>
        if isLineBreak c then .ok () (s.withStream (rest.unread c)) else (s.withStream rest).skipLineComment := by
  rw [skipLineComment]
  split <;> simp only [*]

/-- One step over a block comment. -/
lemma skipBlockComment_eq (star : Bool) (s : Scanner) :
    s.skipBlockComment star = match s.stream.read with
      | .failed cause => s.fail cause
      | .finished rest => (s.withStream rest).complain .unterminatedComment
      | .char c rest =>
        if isLineBreak c then ((s.withStream rest).lineBreak c).andThen fun _ s => s.skipBlockComment false
        else if star && c == '/' then .ok () (s.withStream rest)
        else (s.withStream rest).skipBlockComment (c == '*') := by
  rw [skipBlockComment]
  split <;> simp only [*]
  split
  · split <;> simp only [*, Scan.andThen]
  · rfl

/-- One step over blanks and comments. -/
lemma skipBlank_eq (s : Scanner) :
    s.skipBlank = match s.stream.read with
      | .failed cause => s.fail cause
      | .finished rest => .ok none (s.withStream rest)
      | .char c rest =>
        if isLineBreak c then ((s.withStream rest).lineBreak c).andThen fun _ s => s.skipBlank
        else if c ≤ ' ' then (s.withStream rest).skipBlank
        else if c = '/' then
          match rest.read with
          | .failed cause => (s.withStream rest).fail cause
          | .finished rest' => .ok (some c) (s.withStream rest')
          | .char d rest' =>
            if d = '/' then (s.withStream rest').skipLineComment.andThen fun _ s => s.skipBlank
            else if d = '*' then ((s.withStream rest').skipBlockComment false).andThen fun _ s => s.skipBlank
            else .ok (some c) (s.withStream (rest'.unread d))
        else .ok (some c) (s.withStream rest) := by
  rw [skipBlank]
  split <;> simp only [*]
  split
  · split <;> simp only [*, Scan.andThen]
  split
  · rfl
  split
  · split <;> simp only [*]
    split
    · split <;> simp only [*, Scan.andThen]
    split
    · split <;> simp only [*, Scan.andThen]
    · rfl
  · rfl

/-- One step through a word. -/
lemma readWord_eq (s : Scanner) :
    s.readWord = match s.stream.read with
      | .failed cause => s.fail cause
      | .finished rest => .ok [] (s.withStream rest)
      | .char c rest =>
        if isWordChar c then (s.withStream rest).readWord.andThen fun cs s => .ok (c :: cs) s
        else .ok [] (s.withStream (rest.unread c)) := by
  rw [readWord]
  split <;> simp only [*]
  split
  · split <;> simp only [*, Scan.andThen]
  · rfl

/-- One step through a quoted string. -/
lemma readQuoted_eq (s : Scanner) :
    s.readQuoted = match s.stream.read with
      | .failed cause => s.fail cause
      | .finished rest => (s.withStream rest).complain .unterminatedQuote
      | .char c rest =>
        if isLineBreak c then (s.withStream rest).complain .unterminatedQuote
        else if c = '"' then .ok [] (s.withStream rest)
        else if c = '\\' then
          match rest.read with
          | .failed cause => (s.withStream rest).fail cause
          | .finished rest' => (s.withStream rest').complain .unterminatedQuote
          | .char d rest' =>
            if isLineBreak d then (s.withStream rest').complain .unterminatedQuote
            else (s.withStream rest').readQuoted.andThen fun cs s => .ok (unescape d :: cs) s
        else (s.withStream rest).readQuoted.andThen fun cs s => .ok (c :: cs) s := by
  rw [readQuoted]
  split <;> simp only [*]
  split
  · rfl
  split
  · rfl
  split
  · split <;> simp only [*]
    split
    · rfl
    · split <;> simp only [*, Scan.andThen]
  · split <;> simp only [*, Scan.andThen]

end Scanner

/-! ### Tokens -/

namespace Lexer

variable {l : Lexer} {s : Scanner}

/-- The token whose first character is given, as a lexer finds it behind blanks and comments. -/
def tokenFrom : Option Char → Scanner → Lexer × Computed InputFailure Token
  | none, s => (⟨s, true⟩, .item .endOfInput)
  | some c, s =>
    match Token.ofStructural? c with
    | some t => (⟨s, false⟩, .item t)
    | none =>
      if c = '"' then ofScan [] s.readQuoted
      else if isWordChar c then ofScan [c] s.readWord
      else (⟨s, false⟩, .failed (.parse ⟨.unknownCharacter c, s.line, none⟩))

lemma compute_of_ended (h : l.ended = true) : l.compute = (l, .finished) := by
  simp only [compute, h, if_true]

/-- What is computed from a scan over blanks and comments. -/
def ofBlank : Scan (Option Char) → Lexer × Computed InputFailure Token
  | .error e s => (⟨s, false⟩, .failed e)
  | .ok o s => tokenFrom o s

/-- Before the end of the input the next token is that behind blanks and comments. -/
lemma compute_of_not_ended (h : l.ended = false) : l.compute = ofBlank l.scanner.skipBlank := by
  rw [compute, h, if_neg Bool.false_ne_true]
  cases l.scanner.skipBlank with
  | error e s => rfl
  | ok o s => cases o <;> rfl

lemma compute_of_error {e : InputFailure} (h : l.ended = false) (hs : l.scanner.skipBlank = .error e s) :
    l.compute = (⟨s, false⟩, .failed e) := by
  rw [compute_of_not_ended h, hs, ofBlank]

lemma compute_of_ok {o : Option Char} (h : l.ended = false) (hs : l.scanner.skipBlank = .ok o s) :
    l.compute = tokenFrom o s := by
  rw [compute_of_not_ended h, hs, ofBlank]

end Lexer

/-! ### Resolvers -/

/-- One step of a resolver, up to the next token that it takes. -/
lemma Resolver.resolveFrom_eq (r : Resolver) (space name : String) (taken : List Token) (made : List ParseError)
    (q : TokenStream) :
    r.resolveFrom space name taken made q = ((r.request space name taken made).follow made >>= fun
      | .inl type => pure type
      | .inr made => TokenStream.next >>= fun token => r.resolveFrom space name (taken ++ [token]) made) q := by
  rw [resolveFrom]
  split
  · rename_i followed
    rw [bind_of_error followed]
  · rename_i followed
    rw [bind_of_ok followed]
    rfl
  · rename_i made' _ followed
    rw [bind_of_ok followed]
    simp only
    split
    · rename_i took
      exact (bind_of_error took).symm
    · rename_i took
      exact (bind_of_ok (k := fun token => r.resolveFrom space name (taken ++ [token]) made') took).symm

/-! ### The parser -/

namespace Parser

/-- One step of a task that begins a node. -/
lemma perform_enter_eq (registry : Registry) (blocks : List OpenBlock) (s : ParseState) :
    perform registry (.enter blocks) s = (enter registry blocks >>= fun
      | .complete n => pure n
      | .inside block outer => perform registry (.leave block outer)) s := by
  rw [perform]
  split
  · rename_i entered
    rw [bind_of_error entered]
  · rename_i entered
    rw [bind_of_ok entered]
    rfl
  · rename_i entered
    rw [bind_of_ok entered]

/-- One step of a task that goes on with a block. -/
lemma perform_leave_eq (registry : Registry) (block : OpenBlock) (outer : List OpenBlock) (s : ParseState) :
    perform registry (.leave block outer) s = (leave block outer >>= fun
      | none => perform registry (.enter (block :: outer))
      | some (.complete n) => pure n
      | some (.inside block outer) => perform registry (.leave block outer)) s := by
  rw [perform]
  split
  · rename_i left
    rw [bind_of_error left]
  · rename_i left
    rw [bind_of_ok left]
  · rename_i left
    rw [bind_of_ok left]
    rfl
  · rename_i left
    rw [bind_of_ok left]

end Parser

end CommandTree
