import CommandTree.Proofs.Conversation
import CommandTree.Proofs.Lexicon.Recognition
import CommandTree.Proofs.Place
import CommandTree.Proofs.Printing
/-!
Tokens as they are written.

A text stands for one token in two ways, between quotation marks or bare. Whatever follows it, a quoted text is taken as
the token it was written for and nothing else is used up, so that the rest is met as if it stood alone; a bare text needs
a character behind it that carries no word on. It is quoted only where it has to be.

* `TokenStream.LeadsWith`: a text begins with a token, and a caller cannot tell what is left from the rest alone;
  `TokenStream.leadsWith_of_lexeme`: so it does if it begins with a lexeme of the token;
* `Token.written` is how a token is written, and `Lexicon.segments_spaced` lexes written tokens with spaces between them;
* `TokenStream.leads_written`: **writing and lexing are inverse**, for one token in any context and for lists of tokens;
* `Lexicon.lexes_self_iff`: a text is the only lexeme of itself exactly if it is a word that opens no comment, so that
  `TokenStream.yields_bare_iff`: **texts are quoted exactly where they have to be**.
-/

namespace CommandTree

open Text Lexicon

/-! ### Lexers in front of the same text -/

/-- The tokens of a text that begins on a given line. -/
def TokenStream.ofTextAt (text : String) (line : Nat) : TokenStream :=
  .ofSource ⟨⟨.ofChars text.toList none, line⟩, false⟩

namespace Lexer

variable {l l' : Lexer} {cs : List Char} {line : Nat}

lemma before_ofCharsAt (cs : List Char) (line : Nat) : Before ⟨⟨.ofChars cs none, line⟩, false⟩ cs line := by
  refine ⟨CharStream.dense_ofChars cs none, ?_⟩
  rw [gathered, Scanner.gathered, CharStream.gathered_ofChars]
  rfl

/-- A lexer answers like the one that holds its characters at hand. -/
lemma Dense.streams_gathered (h : l.Dense) :
    Scanner.gathering.Streams (.ofSource l) (.ofSource l.gathered) where
  phase := rfl
  ended := rfl
  stopped := rfl
  related _ := ⟨h, rfl⟩
  atEnd := nofun

/-- Lexers in front of the same text lead to the same conversations, if they are on the same line. -/
lemma Before.converse_eq (h : l.Before cs line) (h' : l'.Before cs line) (calls : List Call) :
    TokenStream.converse (.ofSource l) calls = TokenStream.converse (.ofSource l') calls := by
  have left := Scanner.gathering.tokens.converse_eq (fun _ ⟨_, _, no⟩ => no) h.1.streams_gathered calls
  have right := Scanner.gathering.tokens.converse_eq (fun _ ⟨_, _, no⟩ => no) h'.1.streams_gathered calls
  rw [left, right, h.2, h'.2]

end Lexer

namespace TokenStream

/-- A text begins with a token, and `rest` is left: on whatever line the text begins, the token is taken first and no line
is counted, and every caller meets from then on what it meets in front of `rest` alone. -/
def LeadsWith (text : String) (t : Token) (rest : String) : Prop :=
  ∀ line, ∃ q, next (ofTextAt text line) = .ok t q ∧ q.line = line ∧
    ∀ calls, q.converse calls = (ofTextAt rest line).converse calls

/-- **A lexeme is taken, and what follows it is met as if it stood alone.** -/
lemma leadsWith_of_lexeme {x r : String} {t : Token} (lexeme : Lexeme r.toList x.toList t) :
    LeadsWith (x ++ r) t r := by
  intro line
  have opens : Opens (x.toList ++ r.toList) t r.toList := ⟨[], x.toList, rfl, .nil, lexeme⟩
  have place := Lexer.before_ofCharsAt (x ++ r).toList line
  rw [String.toList_append] at place
  obtain ⟨l, computed, before⟩ := place.opens opens
  rw [breaks_eq_zero lexeme.inLine, Nat.add_zero] at before
  refine ⟨.ofSource l, ?_, before.line_eq, before.converse_eq (Lexer.before_ofCharsAt r.toList line)⟩
  rw [ofTextAt, String.toList_append]
  exact (queries_of_item computed (.inl rfl)).2

end TokenStream

/-! ### Written tokens -/

/-- A token as it is written. -/
def Token.written : Token → String
  | string s => formatToken s
  | t => t.text

namespace Lexicon

variable {rest : List Char} {t : Token} {ts : List Token}

/-- A written token is its lexeme, if no word goes on behind it. -/
lemma lexeme_written (ordinary : t ≠ .endOfInput) (ends : ∀ c ∈ rest.head?, isWordChar c = false) :
    Lexeme rest t.written.toList t := by
  cases t with
  | string s => exact lexeme_formatToken s ends
  | openBlock => exact .structural rfl
  | closeBlock => exact .structural rfl
  | statementEnd => exact .structural rfl
  | endOfInput => exact absurd rfl ordinary

/-- Written tokens with a space in front of each. -/
def spaced (ts : List Token) : List Char := ts.flatMap fun t => ' ' :: t.written.toList

lemma isWordChar_of_head_spaced : ∀ c ∈ (spaced ts).head?, isWordChar c = false := by
  intro c hc
  cases ts with
  | nil => cases hc
  | cons t ts =>
      obtain rfl : ' ' = c := Option.some.inj hc
      rfl

/-- Written tokens are lexed one by one. -/
lemma segments_spaced (ordinary : .endOfInput ∉ ts) : Segments (spaced ts) ts [] := by
  induction ts with
  | nil => exact .nil []
  | cons t ts ih =>
      obtain ⟨first, others⟩ := List.ne_and_not_mem_of_not_mem_cons ordinary
      have lexeme : Lexeme (spaced ts) t.written.toList t := lexeme_written first.symm isWordChar_of_head_spaced
      have opens : Opens (spaced (t :: ts)) t (spaced ts) :=
        opens_of_blanks (List.forall_mem_singleton.2 (by decide : ' ' ≤ ' ')) lexeme
      exact .cons opens (ih others)

/-- So they are without the first space. -/
lemma lexes_intercalate (ordinary : .endOfInput ∉ ts) : Lexes (" ".intercalate (ts.map Token.written)).toList ts := by
  cases ts with
  | nil => exact ⟨[], .nil [], .nil⟩
  | cons t ts =>
      obtain ⟨first, others⟩ := List.ne_and_not_mem_of_not_mem_cons ordinary
      have lexeme : Lexeme (spaced ts) t.written.toList t := lexeme_written first.symm isWordChar_of_head_spaced
      have parts : (" ".intercalate ((t :: ts).map Token.written)).toList = t.written.toList ++ spaced ts := by
        rw [List.map_cons, Node.toList_intercalate_cons, List.flatMap_map]
        rfl
      rw [parts]
      exact ⟨[], .cons ⟨[], _, rfl, .nil, lexeme⟩ (segments_spaced others), .nil⟩

end Lexicon

/-- **Writing and lexing are inverse.** A text between quotation marks is taken as the token of the text, whatever follows,
and what follows is then met as if it stood alone: the same tokens, lines and errors. A text as it is written is taken so
too, if it is quoted or no word goes on behind it. So every list of tokens is lexed from its written tokens with spaces
between them. -/
theorem TokenStream.leads_written :
    (∀ s r, LeadsWith (quote s ++ r) (.string s) r) ∧
    (∀ s r : String, needsQuotes s = true ∨ (∀ c ∈ r.toList.head?, isWordChar c = false) →
      LeadsWith (formatToken s ++ r) (.string s) r) ∧
    ∀ ts, .endOfInput ∉ ts →
      (ofText (" ".intercalate (ts.map Token.written))).Yields (ts ++ [.endOfInput]) none := by
  refine ⟨fun s r => leadsWith_of_lexeme (lexeme_quote s r.toList), ?_, ?_⟩
  · rintro s r (quoted | ends)
    · rw [formatToken, if_pos quoted]
      exact leadsWith_of_lexeme (lexeme_quote s r.toList)
    · exact leadsWith_of_lexeme (lexeme_formatToken s ends)
  · intro ts ordinary
    exact (Lexer.before_ofChars _).yields_of_lexes (lexes_intercalate ordinary)

/-- A word stands at once behind the quotation marks of a text that holds one itself, a backslash and a line break; a slash
is bare where it would open a comment but for the space behind it; and a string of a structural character stands among the
structural tokens. -/
theorem TokenStream.leads_written_slashes :
    LeadsWith (quote "\"\\\n" ++ "word // all") (.string "\"\\\n") "word // all" ∧
    ((∀ c ∈ " // all".toList.head?, isWordChar c = false) ∧
      LeadsWith (formatToken "/" ++ " // all") (.string "/") " // all") ∧
    (.endOfInput ∉ [Token.string ";", .statementEnd] ∧
      (ofText (" ".intercalate ([.string ";", .statementEnd].map Token.written))).Yields
        [.string ";", .statementEnd, .endOfInput] none) := by
  have apart : ∀ c ∈ " // all".toList.head?, isWordChar c = false := by
    intro c first
    obtain rfl : ' ' = c := Option.some.inj first
    rfl
  have ordinary : .endOfInput ∉ [Token.string ";", .statementEnd] := by decide
  exact ⟨leads_written.1 _ _, ⟨apart, leads_written.2.1 _ _ (.inr apart)⟩, ordinary, leads_written.2.2 _ ordinary⟩

/-! ### Texts that are written bare -/

namespace Lexicon

/-- A string has no more characters than stand between its quotation marks. -/
lemma QuotedRun.length_le {body s : List Char} (run : QuotedRun body s) : s.length ≤ body.length := by
  induction run with
  | nil => exact Nat.le_refl 0
  | plain _ _ _ _ ih => exact Nat.succ_le_succ ih
  | escape _ _ _ ih => exact Nat.le_succ_of_le (Nat.succ_le_succ ih)

/-- **A text is the only lexeme of itself** exactly if it is a word that opens no comment. With anything around the lexeme,
or with quotation marks, it would be longer than itself. -/
lemma lexes_self_iff {s : String} : Lexes s.toList [.string s] ↔ needsQuotes s = false := by
  constructor
  · rintro ⟨last, segments, -⟩
    obtain ⟨rest, ⟨v, x, whole, -, lexeme⟩, -⟩ := segments_cons_iff.1 segments
    have size := congrArg List.length whole
    rw [List.length_append, List.length_append] at size
    generalize same : Token.string s = t at lexeme
    cases lexeme with
    | structural is => rcases structural_cases is with ⟨-, rfl⟩ | ⟨-, rfl⟩ | ⟨-, rfl⟩ <;> cases same
    | @quoted body s' run =>
        obtain rfl := Token.string.inj same
        have shorter := run.length_le
        rw [String.toList_ofList, List.length_cons, List.length_append] at size
        omega
    | word ne inside _ opens =>
        obtain rfl := Token.string.inj same
        rw [needsQuotes_eq_false_iff, String.toList_ofList]
        exact ⟨ne, opens, inside⟩
  · intro bare
    obtain ⟨ne, opens, inside⟩ := needsQuotes_eq_false_iff.1 bare
    have lexeme : Lexeme [] s.toList (.string (.ofList s.toList)) := .word ne inside (fun _ no => nomatch no) opens
    rw [String.ofList_toList] at lexeme
    exact ⟨[], .cons ⟨[], s.toList, by simp, .nil, lexeme⟩ (.nil []), .nil⟩

end Lexicon

namespace TokenStream

/-- A text yields tokens in front of the end of the input only if it consists of their lexemes. -/
lemma lexes_of_yields {text : String} {ts : List Token} (yields : (ofText text).Yields (ts ++ [.endOfInput]) none) :
    Lexes text.toList ts := by
  have place := Lexer.before_ofChars text.toList
  rcases lexes_or_offends text.toList with ⟨us, lexes⟩ | ⟨us, before, complaint, offends⟩
  · obtain ⟨same, -⟩ := yields_unique yields (place.yields_of_lexes lexes)
    rwa [List.append_cancel_right same]
  · cases (yields_unique yields (place.yields_of_offends offends)).2

/-- **Texts are quoted exactly where they have to be**: a text may be written bare if and only if its characters alone are
lexed as the one token that it is written for, with nothing but the end of the input behind it. -/
theorem yields_bare_iff (s : String) :
    needsQuotes s = false ↔ (ofText s).Yields [.string s, .endOfInput] none := by
  rw [← lexes_self_iff]
  constructor
  · exact (Lexer.before_ofChars s.toList).yields_of_lexes
  · intro yields
    exact lexes_of_yields yields

end TokenStream

end CommandTree
