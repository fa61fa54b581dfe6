import CommandTree.Node.Issue
import CommandTree.Node.Label
/-!
What a program prints.

Texts, panels and trees are handed to a console as they are, lines with markup as texts in which brackets hold tags. How
the console shows them is not fixed here. It may refuse a line whose markup is faulty.

* `Print` is one thing to print, and `Print.error`, `Print.success`, `Print.issue`, `Print.title` are the messages;
* `Console.TakesPlain`: a console refuses nothing but lines with brackets;
* `Console.printAll` prints one thing after the other, as far as nothing is refused.
-/

namespace CommandTree

/-! ### Things to print -/

/-- One thing to print. -/
inductive Print where
  | text (label : Label)
  -- tags in brackets are markup
  | markup (line : String)
  -- the title stands centred in a border
  | panel (title : Styled) (border : String)
  | tree (labels : LabelTree)
  -- standard output takes it as it is, without a line feed behind it
  | raw (s : String)

namespace Print

/-- A message of an error. -/
def error (s : String) : Print := text [⟨s, "red"⟩]

/-- A message of success. -/
def success (s : String) : Print := text [⟨s, "green"⟩]

/-- The style of a severity. -/
def severityStyle : Severity → String
  | .error => "red"
  | .warning => "yellow"
  | .info => "dim"

/-- A likely mistake in a tree. -/
def issue (i : Issue) : Print := text [⟨i.describe, severityStyle i.severity⟩]

/-- A title. -/
def title (s : String) : Print := panel ⟨s, "bold"⟩ "blue"

/-- Whether nothing in a thing to print can be a tag. -/
def IsPlain : Print → Prop
  | markup line => '[' ∉ line.toList
  | _ => True

end Print

/-! ### Consoles -/

/-- A console: what is seen of a thing that is printed, or why it is refused. -/
structure Console where
  render : Print → Except String String

namespace Console

/-- Nothing is refused but lines with tags. -/
def TakesPlain (console : Console) : Prop := ∀ p : Print, p.IsPlain → ∃ seen, console.render p = .ok seen

/-- Prints one thing after the other: what is printed, and why the next thing is refused, if one is. -/
def printAll (console : Console) : List Print → List Print × Option String
  | [] => ([], none)
  | p :: ps =>
    match console.render p with
    | .error message => ([], some message)
    | .ok _ =>
      let (printed, refusal) := console.printAll ps
      (p :: printed, refusal)

/-- Things without tags are all printed. -/
theorem printAll_of_isPlain {console : Console} (takes : console.TakesPlain) {ps : List Print}
    (plain : ∀ p ∈ ps, p.IsPlain) : console.printAll ps = (ps, none) := by
  induction ps with
  | nil => rfl
  | cons p ps ih =>
      obtain ⟨here, others⟩ := List.forall_mem_cons.1 plain
      obtain ⟨seen, taken⟩ := takes p here
      rw [printAll, taken, ih others]

/-- What is seen of things that are printed. -/
def output (console : Console) (ps : List Print) : String :=
  String.join (ps.map fun p => (console.render p).toOption.getD "")

end Console

end CommandTree
