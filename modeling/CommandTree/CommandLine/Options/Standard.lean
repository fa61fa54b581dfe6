import CommandTree.CommandLine.Options
import CommandTree.Numeric.TypedInteger
/-!
Options behind hyphens.

An option has a long name behind two hyphens and a letter behind one. The value of an option that takes one is
attached, to the long name by an equals sign, or is the next argument, whatever it looks like. Letters may share a
hyphen, up to one that takes a value. Two hyphens alone end the options; one hyphen alone is no option.

* `Options.read` separates the options from the other arguments, or finds that they are misused;
* `ArgumentReader.standard` reads arguments in this way, and `ArgumentReader.stopsAtOther_standard`: it stops at an
  argument that is no option.
-/

namespace CommandTree

namespace Options

/-- Options of one argument, and the name of one that takes the next argument as its value, if there is one. -/
abbrev Cluster : Type := List (String × Option String) × Option String

/-- The options that letters behind a hyphen stand for. -/
def readLetters (known : List CommandOption) : List Char → Option Cluster
  | [] => some ([], none)
  | c :: cs =>
    match known.find? fun o => o.letter == c with
    | none => none
    | some o =>
      if o.takesValue then
        if cs.isEmpty then some ([], some o.long) else some ([(o.long, some (.ofList cs))], none)
      else (readLetters known cs).map fun (options, awaiting) => ((o.long, none) :: options, awaiting)

/-- The option that a name behind two hyphens stands for, with what follows the first equals sign. -/
def readLong (known : List CommandOption) (cs : List Char) : Option Cluster :=
  let name := String.ofList (cs.takeWhile (· ≠ '='))
  match known.find? fun o => o.long == name with
  | none => none
  | some o =>
    match o.takesValue, cs.dropWhile (· ≠ '=') with
    | true, [] => some ([], some o.long)
    | true, _ :: value => some ([(o.long, some (.ofList value))], none)
    | false, [] => some ([(o.long, none)], none)
    | false, _ => none

/-- What an argument is. -/
inductive Argument where
  | separator
  | positional
  | options (cluster : Option Cluster)

/-- Tells what an argument is. -/
def classify (known : List CommandOption) (arg : String) : Argument :=
  match arg.toList with
  | ['-', '-'] => .separator
  | '-' :: '-' :: cs => .options (readLong known cs)
  | '-' :: c :: cs => .options (readLetters known (c :: cs))
  | _ => .positional

/-- Separates the options from the other arguments. If they are not `mixed`, the first argument that is no option
ends the options. -/
def read (known : List CommandOption) (mixed : Bool) : List String → Option Given
  | [] => some ⟨[], []⟩
  | arg :: args =>
    match classify known arg with
    | .separator => some ⟨[], args⟩
    | .positional =>
      if mixed then (read known mixed args).map (.withPositional arg) else some ⟨[], arg :: args⟩
    | .options none => none
    | .options (some (options, none)) => (read known mixed args).map (.withOptions options)
    | .options (some (options, some long)) =>
      match args with
      | [] => none
      | value :: args => (read known mixed args).map (.withOptions (options ++ [(long, some value)]))

end Options

/-- Options stand behind hyphens. -/
def ArgumentReader.standard : ArgumentReader := ⟨Options.read, Numeric.readTypedInteger?⟩

/-- An argument without a hyphen in front is no option. -/
theorem ArgumentReader.stopsAtOther_standard : standard.StopsAtOther := by
  intro known arg args other
  have positional : Options.classify known arg = .positional := by
    unfold Options.classify
    split <;> simp_all
  change Options.read known false (arg :: args) = _
  rw [Options.read.eq_def]
  simp only [positional, Bool.false_eq_true, if_false]

end CommandTree
