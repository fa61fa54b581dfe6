import CommandTree.Lexer
/-!
The tokens of a command file with one token of lookahead: what the parser and the resolvers of argument types read.

* `TokenStream.next`, `peek`, `hasNext` are the queries;
* `TokenStream.errorAt` is a complaint about the line that the lexer has reached, which depends on whether the next token
  has been looked at; `create` hands it out, `raise` fails with one, and `refuse` does both.
-/

namespace CommandTree

/-- A lexer with one token of lookahead. -/
abbrev TokenStream : Type := Lookahead Lexer Token

/-- Why a token stream does not answer. -/
abbrev TokenError : Type := QueryError InputFailure

/-- The wording of a failure of a token stream. -/
def TokenError.message (e : TokenError) : String := QueryError.message InputFailure.message e

/-- A computation that reads tokens. -/
abbrev TokenM (α : Type) : Type := EStateM TokenError TokenStream α

/-- The tokens of a lexer, one after the other. -/
def Lexer.producer : Producer Lexer InputFailure Token where
  produce := compute
  size := size
  size_le {l l'} h := by
    unfold compute at h
    split at h
    · cases h; exact Nat.le_refl _
    · split at h
      · cases h
      · cases h
      · split at h
        · cases h
        · split at h
          · unfold ofScan at h; split at h <;> cases h
          · split at h
            · unfold ofScan at h; split at h <;> cases h
            · cases h
  size_lt := size_lt_of_compute

namespace TokenStream

/-- The tokens of a stream of characters. -/
def ofStream (stream : CharStream) : TokenStream := .ofSource (.ofStream stream)

/-- The line that the lexer has reached. -/
def line (ts : TokenStream) : Nat := ts.source.line

/-- How many tokens are left at most. -/
def size (ts : TokenStream) : Nat := Lookahead.size Lexer.producer ts

/-- Whether there is a next token. -/
def hasNext : TokenM Bool := Lookahead.hasNext Lexer.producer

/-- The next token, which must exist and stays in place. -/
def peek : TokenM Token := Lookahead.peek Lexer.producer

/-- Takes the next token, which must exist. -/
def next : TokenM Token := Lookahead.next Lexer.producer

/-- Takes the next token, if there is one. -/
def next? : TokenM (Option Token) := Lookahead.next? Lexer.producer

/-- Takes all tokens that are left. -/
def drain : TokenM (List Token) := Lookahead.drain Lexer.producer

/-- Takes tokens until there are no more, and keeps the lexer as it was after each. -/
def run (ts : TokenStream) : Lookahead.Run Lexer InputFailure Token := Lookahead.run Lexer.producer ts

/-- A failure at the line that the lexer has reached. -/
def errorAt (ts : TokenStream) (complaint : Complaint) (cause : Option Cause) : ParseError :=
  ⟨complaint, ts.line, cause⟩

/-- Hands out a failure at the line that the lexer has reached, without failing. -/
def create (complaint : Complaint) (cause : Option Cause) : TokenM ParseError := fun ts =>
  .ok (ts.errorAt complaint cause) ts

/-- Fails with an error that is at hand. -/
def raise {α : Type} (e : ParseError) : TokenM α := fun ts => .error (.failed (.parse e)) ts

/-- Fails at the line that the lexer has reached. -/
def refuse {α : Type} (complaint : Complaint) (cause : Option Cause) : TokenM α := create complaint cause >>= raise

/-! ### Queries use the tokens up -/

/-- Asking whether there is a next token keeps within what is left. -/
theorem keepsWithin_hasNext : KeepsWithin size hasNext := Lookahead.keepsWithin_hasNext _

/-- Looking at the next token keeps within what is left. -/
theorem keepsWithin_peek : KeepsWithin size peek := Lookahead.keepsWithin_peek _

/-- Taking a token consumes. -/
theorem consumes_next : Consumes size next := Lookahead.consumes_next _

/-- Creating an error touches no token. -/
theorem keepsWithin_create (complaint : Complaint) (cause : Option Cause) : KeepsWithin size (create complaint cause) := by
  intro s a s' h
  cases h
  exact Nat.le_refl _

/-- Raising an error consumes, for want of successful runs. -/
theorem consumes_raise {α : Type} (e : ParseError) : Consumes size (raise e : TokenM α) := by
  intro s a s' h
  cases h

/-- Refusing consumes, for want of successful runs. -/
theorem consumes_refuse {α : Type} (complaint : Complaint) (cause : Option Cause) :
    Consumes size (refuse complaint cause : TokenM α) := by
  intro s a s' h
  cases h

end TokenStream

end CommandTree
