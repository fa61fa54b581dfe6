import CommandTree.Proofs.Grammar.Parsing
import CommandTree.Proofs.Simulation.Reading
import CommandTree.Proofs.Types
/-!
Readers accept the grammar, and complain of everything else.

* `Parser.comes_parse`: parsing a file comes to a literal of the grammar with nothing behind it, or to a complaint;
* `Parser.parse_of_tree`: every such literal is read;
* `Reader.parseText_eq_ok_iff`: a reader gives a tree exactly if the tokens of the text are those of the tree;
* `Reader.parseText_literal_or_complaint`: else it complains, and no other failure is possible.
-/

namespace CommandTree

open Lexicon Grammar

namespace Parser

variable {s : ParseState} {cs rest : List Char} {ts : List Token} {root : Node}

/-- Parsing a file comes to a literal of the grammar that uses the text up, or to a complaint. -/
theorem comes_parse (h : s.Before cs) : Comes ParseState.Before
    (fun root _ => root.isLiteral = true ∧ ∃ ts, Lexes cs ts ∧ Tree ts root) (parse .standard s) := by
  refine (comes_parseNode h).bind fun root s' rest h' => ?_
  rintro ⟨ts, segments, tree⟩
  cases literal : root.isLiteral with
  | false => exact comes_refuse s' .argumentRoot
  | true =>
      refine (comes_peek h').bind fun t s'' _ h'' => ?_
      rintro ⟨rfl, upcoming⟩
      cases t with
      | endOfInput =>
          refine .ok h'' ⟨literal, ts, ⟨_, segments, ?_⟩, tree⟩
          rcases upcoming with ⟨-, trivia⟩ | ⟨_, opens⟩
          · exact trivia
          · exact absurd rfl opens.ne_endOfInput
      | string => exact comes_refuse s'' _
      | openBlock => exact comes_refuse s'' _
      | closeBlock => exact comes_refuse s'' _
      | statementEnd => exact comes_refuse s'' _

/-- A literal with nothing behind it is a file. -/
lemma parse_of_parseNode {registry : Registry} {s1 : ParseState} (read : parseNode registry s = .ok root s1)
    (place : Rests s1 rest) (trivia : Trivia [] rest) (literal : root.isLiteral = true) :
    ∃ s', parse registry s = .ok root s' := by
  obtain ⟨s2, peeked, -⟩ := peek_of_ends place.before trivia
  refine ⟨s2, ?_⟩
  rw [parse]
  rw [bind_of_ok read]
  simp only [literal, Bool.not_true, Bool.false_eq_true, if_false]
  rw [bind_of_ok peeked]
  rfl

/-- A literal of the grammar that uses the text up is read. -/
theorem parse_of_tree (lexes : Lexes cs ts) (tree : Tree ts root) (literal : root.isLiteral = true) (h : s.Before cs) :
    ∃ s', parse .standard s = .ok root s' := by
  obtain ⟨w, segments, trivia⟩ := lexes
  obtain ⟨s1, read, place⟩ := parseNode_of_tree tree segments h
  exact parse_of_parseNode read place trivia literal

end Parser

/-- A complaint about the text stays what it is. -/
lemma ReadError.exists_ofTokenError_eq {e : TokenError} (h : IsComplaint e) :
    ∃ error : ParseError, ofTokenError e = .tokens (.failed (.parse error)) := by
  obtain ⟨⟨complaint, line, cause⟩, rfl, noIo⟩ := h
  refine ⟨⟨complaint, line, cause⟩, ?_⟩
  unfold ofTokenError
  split
  · rename_i same
    cases same
    exact absurd rfl (noIo _)
  · rfl

namespace Reader

/-- A reader of a text gives the tree of the parser, whatever the registry is. -/
lemma result_parseText_iff (r : Reader) (text : String) (root : Node) : (r.parseText text).result = .ok root ↔
    ∃ s, Parser.parse r.registry (.ofStream (.ofChars text.toList none)) = .ok root s := by
  simp only [parseText, parseStream]
  cases Parser.parse r.registry (.ofStream (.ofChars text.toList none)) with
  | ok found s =>
      simp only [ReadReport.ofTree, Except.ok.injEq, EStateM.Result.ok.injEq, exists_and_left, exists_eq', and_true]
  | error e s => simp only [ReadReport.result_ofError, reduceCtorEq, exists_false]

lemma result_parseText (encoding text : String) (root : Node) :
    ((standard encoding).parseText text).result = .ok root ↔
      ∃ s, Parser.parse .standard (.ofStream (.ofChars text.toList none)) = .ok root s :=
  result_parseText_iff (standard encoding) text root

/-- A reader that knows the primitive types alone comes to a tree of the grammar, which is a literal, or to a complaint. -/
theorem reads_or_complains (encoding : String) (cs : List Char) :
    let result := ((standard encoding).parseStream (.ofChars cs none)).result
    (∃ root ts, result = .ok root ∧ root.isLiteral = true ∧ Lexes cs ts ∧ Tree ts root) ∨
      ∃ error : ParseError, result = .error (.tokens (.failed (.parse error))) := by
  have comes := Parser.comes_parse (s := .ofStream (.ofChars cs none)) (TokenStream.before_ofChars cs)
  simp only [parseStream, standard]
  cases parsed : Parser.parse .standard (.ofStream (.ofChars cs none)) with
  | ok root s =>
      obtain ⟨_, -, literal, ts, lexes, tree⟩ := (parsed ▸ comes).of_ok
      exact .inl ⟨root, ts, rfl, literal, lexes, tree⟩
  | error e s =>
      obtain ⟨error, same⟩ := ReadError.exists_ofTokenError_eq (parsed ▸ comes).of_error
      exact .inr ⟨error, by rw [ReadReport.result_ofError, same]⟩

/-- A tree that such a reader gives is that of the tokens of the text. -/
lemma exists_lexes_of_parseText {encoding text : String} {root : Node}
    (read : ((standard encoding).parseText text).result = .ok root) :
    root.isLiteral = true ∧ ∃ ts, Lexes text.toList ts ∧ Tree ts root := by
  rcases reads_or_complains encoding text.toList with ⟨_, ts, same, literal, lexes, tree⟩ | ⟨_, same⟩
  · cases same.symm.trans read
    exact ⟨literal, ts, lexes, tree⟩
  · cases same.symm.trans read

/-- **The grammar is accepted, and nothing else.** A reader that knows the primitive types alone gives a tree exactly if
the text yields some tokens and the end of the input without an error, and these are the tokens of the tree, which is a
literal. -/
theorem parseText_eq_ok_iff (encoding text : String) (root : Node) :
    ((standard encoding).parseText text).result = .ok root ↔
      ∃ ts, (TokenStream.ofText text).Yields (ts ++ [.endOfInput]) none ∧ Tree ts root ∧ root.isLiteral = true := by
  have place : (ParseState.ofStream (.ofChars text.toList none)).Before text.toList :=
    TokenStream.before_ofChars text.toList
  constructor
  · intro read
    obtain ⟨literal, ts, lexes, tree⟩ := exists_lexes_of_parseText read
    exact ⟨ts, (Lexer.before_ofChars text.toList).yields_of_lexes lexes, tree, literal⟩
  · rintro ⟨ts, yields, tree, literal⟩
    rw [result_parseText]
    rcases lexes_or_offends text.toList with ⟨us, lexes⟩ | ⟨us, before, complaint, offends⟩
    · have same := (TokenStream.yields_unique yields ((Lexer.before_ofChars text.toList).yields_of_lexes lexes)).1
      rw [List.append_cancel_right same] at tree
      exact Parser.parse_of_tree lexes tree literal place
    · cases (TokenStream.yields_unique yields ((Lexer.before_ofChars text.toList).yields_of_offends offends)).2

/-- **A reader of a text gives a literal or complains of a line**, whatever the text is. The sequence of tokens is never
asked for more than there is, nor after it has failed, and no failure of a file or stream comes up. All types of the
tree pass the checks for given values, as do all types that are resolved before a complaint. -/
theorem parseText_literal_or_complaint (encoding text : String) :
    ((∃ root, ((standard encoding).parseText text).result = .ok root ∧ root.isLiteral = true ∧
        ∀ n ∈ root.walk, ∀ type ∈ n.type, type.IsAdmitted) ∨
      ∃ error : ParseError, ((standard encoding).parseText text).result = .error (.tokens (.failed (.parse error)))) ∧
    ∀ (space name : String) (q q' : TokenStream) (type : ArgumentType),
      Registry.standard.resolve space name q = .ok type q' → type.IsAdmitted := by
  refine ⟨?_, fun _ _ _ _ _ resolved =>
    ArgumentType.isAdmitted_iff.2 (Registry.isPrimitive_of_resolve_standard resolved)⟩
  rcases reads_or_complains encoding text.toList with ⟨root, _, read, literal, -, tree⟩ | complaint
  · refine .inl ⟨root, read, literal, fun n hn type ht => ArgumentType.isAdmitted_iff.2 ?_⟩
    exact tree.isPrimitive root List.mem_cons_self n hn type ht
  · exact .inr complaint

end Reader

end CommandTree
