import CommandTree.Console
import CommandTree.Markup
/-!
The terminal as a console.

Styles are not seen on it. A tree of labels is drawn with lines that lead from a label to the branches below it.

* `Console.terminal` is the console;
* `Console.takesPlain_terminal`: it refuses nothing but lines with tags.
-/

namespace CommandTree

open Terminal

/-! ### Trees of labels -/

/-- The text of a label. -/
def Label.plain (label : Label) : String := withoutControls (String.join (label.map Styled.text))

namespace LabelTree

/-- The lines of a label, the first behind `lead` and the others behind `follow`. -/
def labelLines (lead follow : String) (label : Label) : List String :=
  match (printedLines label.plain).map String.ofList with
  | [] => []
  | line :: lines => (lead ++ line) :: lines.map (follow ++ ·)

mutual

/-- The lines of a tree, the first behind `lead` and the others behind `follow`. -/
def linesAt (lead follow : String) : LabelTree → List String
  | branch label branches => labelLines lead follow label ++ linesBelow follow branches

/-- The lines of the branches of a tree, all behind `follow`. -/
def linesBelow (follow : String) : List LabelTree → List String
  | [] => []
  | b :: bs =>
    (if bs.isEmpty then linesAt (follow ++ "└── ") (follow ++ "    ") b
      else linesAt (follow ++ "├── ") (follow ++ "│   ") b) ++ linesBelow follow bs

end

/-- A drawn tree of labels, each line with a line feed at its end. -/
def drawn (b : LabelTree) : String := String.join ((linesAt "" "" b).map (· ++ "\n"))

end LabelTree

/-! ### The console -/

/-- What is seen of a thing that is printed on a terminal. -/
def Print.seen : Print → Except String String
  | text label => .ok (printed label.plain)
  | markup line => (Markup.printed? line).mapError MarkupError.message
  | panel title _ => .ok (Terminal.panel title.text)
  | tree labels => .ok labels.drawn
  | raw s => .ok (.ofList (withoutEscapes s.toList))

/-- The terminal. -/
def Console.terminal : Console := ⟨Print.seen⟩

namespace Markup

/-- A text without an opening bracket has no tags. -/
theorem Piece.exists_text_of_scan {cs : List Char} (none_ : '[' ∉ cs) (position : Nat) (before : List Char) (slashes : Nat) :
    ∃ cs', scan position before slashes cs = ofChars cs' := by
  induction cs generalizing before slashes with
  | nil => exact ⟨_, by rw [scan]⟩
  | cons c cs ih =>
      obtain ⟨other, later⟩ := not_or.1 (mt List.mem_cons.2 none_)
      rw [scan]
      by_cases slash : c = '\\'
      · rw [if_pos slash]
        exact ih later _ _
      · rw [if_neg slash, if_neg (Ne.symm other)]
        exact ih later _ _

/-- A text without an opening bracket is not faulty. -/
theorem exists_printed {line : String} (none_ : '[' ∉ line.toList) : ∃ seen, printed? line = .ok seen := by
  obtain ⟨cs, only⟩ := Piece.exists_text_of_scan none_ 0 [] 0
  rw [printed?, plainText?, Piece.ofText, only]
  cases cs with
  | nil => exact ⟨_, rfl⟩
  | cons c cs => exact ⟨_, rfl⟩

end Markup

/-- The terminal refuses nothing but lines with tags. -/
theorem Console.takesPlain_terminal : terminal.TakesPlain := by
  intro p plain
  cases p with
  | text label => exact ⟨_, rfl⟩
  | markup line =>
      obtain ⟨seen, printed⟩ := Markup.exists_printed plain
      exact ⟨seen, congrArg (Except.mapError MarkupError.message) printed⟩
  | panel title border => exact ⟨_, rfl⟩
  | tree labels => exact ⟨_, rfl⟩
  | raw s => exact ⟨_, rfl⟩

end CommandTree
