/-!
Options among the arguments of a command line.

How arguments are taken apart is not fixed here: a reader of arguments is given the options of a command, and whether
they may stand behind other arguments.

* `Given.value?` and `Given.has` look an option up;
* `ArgumentReader` is a way to read arguments;
* `ArgumentReader.StopsAtOther`: an argument that is no option ends the options in front of a command.
-/

namespace CommandTree

/-- An option of a command. -/
structure CommandOption where
  long : String
  letter : Char
  takesValue : Bool
  deriving DecidableEq, Repr

/-- Arguments taken apart. -/
structure Given where
  -- the options by their long names, each with its value if it takes one, in order
  options : List (String × Option String)
  positional : List String
  deriving DecidableEq, Repr

namespace Given

/-- Whether an option is given. -/
def has (g : Given) (long : String) : Bool := g.options.any fun (name, _) => name == long

/-- The value that is given for an option last. -/
def value? (g : Given) (long : String) : Option String := g.options.reverse.lookup long |>.join

/-- Arguments with options in front of the others. -/
def withOptions (options : List (String × Option String)) (g : Given) : Given :=
  { g with options := options ++ g.options }

/-- Arguments with one that is no option in front of the others. -/
def withPositional (arg : String) (g : Given) : Given := { g with positional := arg :: g.positional }

end Given

/-- A way to read arguments: `separate` takes the options from among the others, which they may stand behind if they are
`mixed`, or finds that they are misused, and `integer?` reads the value of an option that is an integer. -/
structure ArgumentReader where
  separate : (known : List CommandOption) → (mixed : Bool) → List String → Option Given
  integer? : String → Option Int

/-- Where options stand in front of the other arguments, one that does not begin with a hyphen ends them. -/
def ArgumentReader.StopsAtOther (reader : ArgumentReader) : Prop :=
  ∀ known arg args, arg.toList.head? ≠ some '-' → reader.separate known false (arg :: args) = some ⟨[], arg :: args⟩

end CommandTree
