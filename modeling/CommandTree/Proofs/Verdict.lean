import CommandTree.Proofs.Issues
import CommandTree.Proofs.Reporting
/-!
The verdict on a command file.

A file is valid if its text is read and the tree is sound. The verdict counts the nodes of the tree; in the text a node is
known by the semicolon that ends it or by the brace that opens its block.

* `Grammar.Forest.count_eq`: there are as many of these tokens as nodes;
* `Reader.exists_tokens_of_parseText`: so there are for any text that is read;
* `CommandLine.run_validate`: **the command to validate a file ends with code 0 exactly if the file is valid**.
-/

namespace CommandTree

open Utf8

/-! ### Counting nodes -/

namespace Grammar

variable {ts : List Token}

/-- A node up to its semicolon or its block is made of strings alone. -/
lemma Head.isString {name : String} {type : Option ArgumentType} (head : Head name type ts) :
    ∀ t ∈ ts, t.isString = true := by
  cases head with
  | literal => simp [Token.isString]
  | argument refers parameters => cases parameters <;> simp [Token.isString]

/-- How many nodes end or open a block in some tokens. -/
def nodeCount (ts : List Token) : Nat := ts.count .statementEnd + ts.count .openBlock

/-- The tokens of a list of nodes hold a semicolon or an opening brace for each node. -/
theorem Forest.nodeCount_eq {ns : List Node} (forest : Forest ts ns) : nodeCount ts = Node.sizes ns := by
  have strings {name type hd} (head : Head name type hd) : hd.count .statementEnd = 0 ∧ hd.count .openBlock = 0 := by
    refine ⟨List.count_eq_zero.2 fun mem => ?_, List.count_eq_zero.2 fun mem => ?_⟩
    · cases head.isString _ mem
    · cases head.isString _ mem
  induction forest with
  | nil => rfl
  | leaf head more ih =>
      obtain ⟨ends, opens⟩ := strings head
      simp only [nodeCount, List.count_append, ends, opens, Node.sizes, Node.size] at ih ⊢
      simp
      omega
  | block head inside more ih ih' =>
      obtain ⟨ends, opens⟩ := strings head
      simp only [nodeCount, List.count_append, List.count_cons, ends, opens, Node.sizes, Node.size] at ih ih' ⊢
      simp
      omega

end Grammar

/-! ### Texts that are read -/

namespace Reader

variable {encoding text : String} {root : Node}

/-- A text that is read yields tokens, and as many nodes end or open a block in them as the tree has. -/
theorem exists_tokens_of_parseText (read : ((standard encoding).parseText text).result = .ok root) :
    ∃ ts, (TokenStream.ofText text).Yields ts none ∧ Grammar.nodeCount ts = root.walk.length := by
  obtain ⟨-, ts, lexes, tree⟩ := exists_lexes_of_parseText read
  refine ⟨ts ++ [Token.endOfInput], (Lexer.before_ofChars text.toList).yields_of_lexes lexes, ?_⟩
  have counted := tree.nodeCount_eq
  rw [Node.walk, Node.length_walkAll, ← counted]
  simp [Grammar.nodeCount]

/-- The types of a tree that is read are primitive. -/
lemma isPrimitive_of_parseText (read : ((standard encoding).parseText text).result = .ok root) : root.IsPrimitive := by
  obtain ⟨-, _, -, tree⟩ := exists_lexes_of_parseText read
  exact tree.isPrimitive root List.mem_cons_self

/-- A file that holds a text is read like the text. -/
lemma result_parsePath_text {r : Reader} {codecs : Codecs}
    (named : codecs.lookup r.encoding = .ok Encoding.utf8.codec) {folder : Folder} {p : Path}
    (holds : folder.read p = .ok (ofText text)) :
    (r.parsePath codecs folder p).result = (r.parseText text).result :=
  result_parse_of_delivers named (.path holds)

end Reader

/-! ### The command -/

namespace Command

variable {p : Platform} {folder : Folder} {file : Path} {root : Node}

lemma forall_isPlain_issues {ps : List Print} (plain : ∀ p ∈ ps, p.IsPlain) (issues : List Issue) :
    ∀ p ∈ issues.map Print.issue ++ ps, p.IsPlain := by
  refine List.forall_mem_append.2 ⟨List.forall_mem_map.2 fun _ _ => trivial, plain⟩

/-- A line with a number has no tags. -/
lemma isPlain_count {opening : String} (plain : '[' ∉ opening.toList) (n : Nat) :
    (Print.markup (opening ++ toString n)).IsPlain := by
  rw [Print.IsPlain, String.toList_append, List.mem_append, not_or]
  refine ⟨plain, fun mem => ?_⟩
  rw [Nat.toString_eq_repr, Nat.repr, String.toList_ofList] at mem
  have digit := Nat.isDigit_of_mem_toDigits (by decide) (by decide) mem
  exact absurd digit (by decide)

/-- A sound tree is valid. -/
lemma verdict_of_isSound (takes : p.console.TakesPlain) (sound : root.IsSound) : verdict p folder file root =
    ⟨0, root.issues.map .issue ++ [.success s!"Valid command file: {root.name}",
      .markup s!"  Nodes: {root.walk.length}", .markup s!"  Issues: {root.issues.length}"], none, folder⟩ := by
  have none_ : root.errors = [] := Node.errors_eq_nil_iff.2 sound
  simp only [verdict, none_, List.isEmpty_nil, if_true]
  refine Outcome.printing_of_isPlain takes folder 0 (forall_isPlain_issues ?_ _)
  simp only [List.forall_mem_cons]
  exact ⟨trivial, isPlain_count (by decide) _, isPlain_count (by decide) _, List.forall_mem_nil _⟩

/-- Any other tree is not. -/
lemma verdict_of_not_isSound (takes : p.console.TakesPlain) (faulty : ¬ root.IsSound) : verdict p folder file root =
    ⟨1, root.issues.map .issue ++ [.error s!"{root.errors.length} error(s) in {file.text}"], none, folder⟩ := by
  have some_ : root.errors.isEmpty = false := by
    rw [List.isEmpty_eq_false_iff, ne_eq, Node.errors_eq_nil_iff]
    exact faulty
  simp only [verdict, some_, Bool.false_eq_true, if_false]
  refine Outcome.printing_of_isPlain takes folder 1 (forall_isPlain_issues ?_ _)
  exact List.forall_mem_singleton.2 trivial

end Command

namespace CommandLine

variable {p : Platform} {env : Environment} {settings : Settings} {folder : Folder} {args : List String} {file : Path}
  {text : String}

/-- Where settings and arguments do, the command is carried out. -/
lemma run_validate_eq (stops : p.arguments.StopsAtOther) (accepted : p.settings env = .ok settings)
    (given : Command.ofArguments? p.arguments folder .validate args = some (.validate file)) :
    run p folder env ("validate" :: args) = Command.withTree p folder settings file (Command.verdict p folder file) := by
  have separated := stops options "validate" args (by decide)
  have named : CommandName.ofName? "validate" = some .validate := by decide
  rw [run, separated]
  simp only [Given.has, List.any_nil, Bool.false_eq_true, if_false, named]
  rw [runCommand, accepted]
  simp only [given]
  rfl

/-- **The verdict on a command file.** The command to validate a file that holds a text in UTF-8 ends with code 0 exactly
if the text is read and the tree is sound, which is to say that no name is empty and the lower bound of each numeric type
does not exceed the upper one, or that the type contains a value. Otherwise it ends with code 1. It does not crash, and
changes no file. What it prints of a valid file are the mistakes of the tree, how many nodes end or open a block in the
tokens of the text, and how many mistakes there are. -/
theorem run_validate (lawful : p.IsLawful) (accepted : p.settings env = .ok settings)
    (named : p.codecs.lookup settings.encoding = .ok Encoding.utf8.codec)
    (given : Command.ofArguments? p.arguments folder .validate args = some (.validate file))
    (holds : folder.read file = .ok (ofText text)) :
    let outcome := run p folder env ("validate" :: args)
    let result := ((Reader.standard settings.encoding).parseText text).result
    (outcome.exitCode = 0 ↔ ∃ root, result = .ok root ∧ root.IsSound) ∧
    (outcome.exitCode = 0 ∨ outcome.exitCode = 1) ∧ outcome.crash = none ∧ outcome.folder = folder ∧
    (∀ root, result = .ok root → root.IsSound → ∃ ts, (TokenStream.ofText text).Yields ts none ∧
      outcome.printed = root.issues.map .issue ++ [.success s!"Valid command file: {root.name}",
        .markup s!"  Nodes: {ts.count .statementEnd + ts.count .openBlock}",
        .markup s!"  Issues: {root.issues.length}"]) ∧
    ∀ root, result = .ok root →
      (root.IsSound ↔ ∀ m ∈ root.walk, m.name ≠ "" ∧ ∀ t minimum maximum, m.type = some (.numeric t minimum maximum) →
        (t.number minimum).le (t.number maximum) = true) ∧
      (root.IsSound ↔ ∀ m ∈ root.walk, m.name ≠ "" ∧ ∀ t minimum maximum, m.type = some (.numeric t minimum maximum) →
        ∃ v : t.Bound, (ArgumentType.numeric t minimum maximum).contains (t.number v) = true) := by
  intro outcome result
  have whole : outcome = Command.withTree p folder settings file (Command.verdict p folder file) :=
    run_validate_eq lawful.arguments accepted given
  have same := Reader.result_parsePath_text (r := Reader.standard settings.encoding) named holds
  clear_value outcome
  rcases @Reader.reports_text settings.encoding text.toList with ⟨root, read⟩ | ⟨e, complaint⟩
  · have found : result = .ok root := read
    have primitive := Reader.isPrimitive_of_parseText read
    obtain ⟨ts, yields, counted⟩ := Reader.exists_tokens_of_parseText read
    rw [Command.withTree, Command.load_of_tree (same.trans read)] at whole
    simp only [found, Except.ok.injEq, exists_eq_left', forall_eq']
    have meant := And.intro (Node.isSound_iff_le primitive) (Node.isSound_iff_contains primitive)
    by_cases sound : root.IsSound
    · simp only [Command.verdict_of_isSound lawful.console sound, ← counted] at whole
      subst whole
      exact ⟨iff_of_true rfl sound, .inl rfl, rfl, rfl, fun _ => ⟨ts, yields, rfl⟩, meant⟩
    · simp only [Command.verdict_of_not_isSound lawful.console sound] at whole
      subst whole
      exact ⟨iff_of_false Nat.one_ne_zero sound, .inr rfl, rfl, rfl, fun holds => absurd holds sound, meant⟩
  · have unread (root : Node) : result ≠ .ok root := fun read => nomatch complaint.symm.trans read
    rw [Command.withTree, Command.load_of_complaint lawful.console (same.trans complaint)] at whole
    subst whole
    exact ⟨iff_of_false Nat.one_ne_zero fun ⟨root, read, _⟩ => unread root read, .inr rfl, rfl, rfl,
      fun root read => absurd read (unread root), fun root read => absurd read (unread root)⟩

/-- A file is not valid if no number lies between the bounds of a nested argument. -/
theorem run_validate_inverted :
    let text := "a \x7b b \x7b c \"builtin:integer\" 5 3; \x7d \x7d"
    let folder : Folder := ⟨[(.ofText "in", .bytes (ofText text))], []⟩
    let p := Platform.standard
    p.IsLawful ∧ p.settings [] = .ok .standard ∧
      p.codecs.lookup Settings.standard.encoding = .ok Encoding.utf8.codec ∧
      Command.ofArguments? p.arguments folder .validate ["in"] = some (.validate (.ofText "in")) ∧
      folder.read (.ofText "in") = .ok (ofText text) ∧ (run p folder [] ["validate", "in"]).exitCode = 1 ∧
      ¬ ∃ root, ((Reader.standard Settings.standard.encoding).parseText text).result = .ok root ∧ root.IsSound := by
  intro text folder p
  have accepted : p.settings [] = .ok .standard := by rfl
  have given : Command.ofArguments? p.arguments folder .validate ["in"] = some (.validate (.ofText "in")) := by rfl
  have holds : folder.read (.ofText "in") = .ok (ofText text) := by rfl
  have code : (run p folder [] ["validate", "in"]).exitCode = 1 := by decide +kernel
  have known : p.codecs.lookup Settings.standard.encoding = .ok Encoding.utf8.codec := Reader.lookup_standard
  refine ⟨Platform.isLawful_standard, accepted, known, given, holds, code, fun valid => ?_⟩
  have ends := (run_validate Platform.isLawful_standard accepted known given holds).1.2 valid
  exact absurd (code.symm.trans ends) Nat.one_ne_zero

end CommandLine

end CommandTree
