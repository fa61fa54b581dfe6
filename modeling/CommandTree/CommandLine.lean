import CommandTree.Node.Json
import CommandTree.Node.Printer
import CommandTree.Platform
/-!
The command line.

There are four commands: `show` draws a tree or writes it as JSON, `validate` lists its likely mistakes, `format`
writes it in the canonical layout, `config` shows the settings. Misused arguments end a run with code 2, and
everything else that fails with code 1. A wrong command is reported before wrong settings, and these before wrong
arguments of the command. What a run prints is told by what it hands to the console.

* `Command.ofArguments?` reads a command with its arguments;
* `Command.run` carries a command out on a folder of files;
* `CommandLine.run` is the whole program, from the arguments to what is printed and written.
-/

namespace CommandTree

/-! ### Outcomes -/

/-- A failure that no message is made of. -/
inductive Crash where
  | reading (error : ReadError)
  | writing (error : IoError)
  -- an encoding lacks a character that is to be written
  | unencodable
  -- the console refuses what is to be printed
  | refused (message : String)
  -- the call stack overflows
  | recursion
  | settings (error : SettingsError)

/-- What a run of the program comes to: the code that it ends with, what it prints, the failure that ends it, if no message
is made of it, and the files afterwards. -/
structure Outcome where
  exitCode : Nat
  printed : List Print
  crash : Option Crash
  folder : Folder

namespace Outcome

/-- The run ends with a code when it has printed these things, unless one of them is refused. -/
def printing (console : Console) (folder : Folder) (code : Nat) (ps : List Print) : Outcome :=
  match console.printAll ps with
  | (printed, none) => ⟨code, printed, none, folder⟩
  | (printed, some message) => ⟨1, printed, some (.refused message), folder⟩

/-- The run does what it was asked to. -/
def success (console : Console) (folder : Folder) (ps : List Print) : Outcome := printing console folder 0 ps

/-- The run fails with a message. -/
def failure (console : Console) (folder : Folder) (ps : List Print) : Outcome := printing console folder 1 ps

/-- The arguments are misused. -/
def misuse (folder : Folder) : Outcome := ⟨2, [], none, folder⟩

/-- The run fails without a message. -/
def crashed (folder : Folder) (crash : Crash) : Outcome := ⟨1, [], some crash, folder⟩

/-- The run fails without a message when it has come so far, unless it has failed before. -/
def thenCrash (o : Outcome) (crash : Crash) : Outcome :=
  match o.crash with
  | none => { o with exitCode := 1, crash := some crash }
  | some _ => o

end Outcome

/-! ### Commands -/

/-- The commands by their names. -/
inductive CommandName where
  | show
  | validate
  | format
  | config
  deriving DecidableEq, Repr

namespace CommandName

/-- The word for a command. -/
def name : CommandName → String
  | .show => "show"
  | validate => "validate"
  | format => "format"
  | config => "config"

/-- The command that a word stands for. -/
def ofName? (s : String) : Option CommandName :=
  [CommandName.show, validate, format, config].find? fun c => c.name == s

/-- The options of a command. -/
def options : CommandName → List CommandOption
  | .show => [⟨"json", 'j', false⟩]
  | format => [⟨"output", 'o', true⟩, ⟨"indent", 'i', true⟩]
  | validate | config => []

end CommandName

/-- A command with its arguments. -/
inductive Command where
  | show (file : Path) (asJson : Bool)
  | validate (file : Path)
  | format (file : Path) (target : Option Path) (indent : Int)
  | config

namespace Command

/-- The greatest indentation that can be asked for. -/
def indentLimit : Int := 8

/-- The indentation that is asked for, if it is an admitted one. -/
def readIndent? (reader : ArgumentReader) : Option String → Option Int
  | none => some Node.standardIndent
  | some s =>
    match reader.integer? s with
    | some n => if 0 ≤ n ∧ n ≤ indentLimit then some n else none
    | none => none

/-- The path of an existing file, if that is the only argument. -/
def readFile? (folder : Folder) : List String → Option Path
  | [arg] => if folder.hasFile (.ofText arg) then some (.ofText arg) else none
  | _ => none

/-- The path of the file to write, if one is given, unless no file can have it. -/
def readTarget? : Option String → Option (Option Path)
  | none => some none
  | some s => if (Path.ofText s).hasNull then none else some (some (.ofText s))

/-- A command with its arguments, if they are not misused. -/
def ofGiven? (reader : ArgumentReader) (folder : Folder) (c : CommandName) (g : Given) : Option Command :=
  match c with
  | .show => do return .show (← readFile? folder g.positional) (g.has "json")
  | .validate => do return .validate (← readFile? folder g.positional)
  | .format => do
    let file ← readFile? folder g.positional
    let target ← readTarget? (g.value? "output")
    let indent ← readIndent? reader (g.value? "indent")
    return .format file target indent
  | .config => if g.positional.isEmpty then some .config else none

/-- A command with the arguments behind its name, if they are not misused. -/
def ofArguments? (reader : ArgumentReader) (folder : Folder) (c : CommandName) (args : List String) :
    Option Command :=
  match reader.separate c.options true args with
  | none => none
  | some g => ofGiven? reader folder c g

/-! ### Carrying commands out -/

/-- The tree of a file, or how the run ends without it. -/
def load (p : Platform) (folder : Folder) (settings : Settings) (file : Path) : Except Outcome Node :=
  match ((Reader.standard settings.encoding).parsePath p.codecs folder file).result with
  | .ok root => .ok root
  | .error (.tokens (.failed (.parse e))) =>
    .error (.failure p.console folder [.error (s!"{file.text}:{e.line}: " ++ e.message)])
  | .error (.io e) => .error (.failure p.console folder [.error (s!"Cannot read {file.text}: " ++ e.message)])
  | .error e => .error (.crashed folder (.reading e))

/-- Draws a tree, or writes it as JSON. The title is printed before the tree of labels is built. -/
def display (p : Platform) (folder : Folder) (file : Path) (asJson : Bool) (root : Node) : Outcome :=
  if asJson then .success p.console folder [.raw (root.toJson.text (some 2) ++ "\n")]
  else
    match root.buildTree? p.stack with
    | some labels => .success p.console folder [.title file.text, .tree labels]
    | none => (Outcome.success p.console folder [.title file.text]).thenCrash .recursion

/-- The verdict on a tree. -/
def verdict (p : Platform) (folder : Folder) (file : Path) (root : Node) : Outcome :=
  let listed := root.issues.map Print.issue
  if root.errors.isEmpty then
    .success p.console folder (listed ++ [.success s!"Valid command file: {root.name}",
      .markup s!"  Nodes: {root.walk.length}", .markup s!"  Issues: {root.issues.length}"])
  else .failure p.console folder (listed ++ [.error s!"{root.errors.length} error(s) in {file.text}"])

/-- The bytes of a text in the encoding of the settings, if it has all the characters. -/
def encoded? (codecs : Codecs) (settings : Settings) (text : String) : Option (List UInt8) :=
  match codecs.textCodec settings.encoding with
  | .error _ => none
  | .ok codec => codec.encode? text.toList

/-- Prints a text, or writes it to a file, which is emptied first. -/
def deliver (p : Platform) (folder : Folder) (settings : Settings) (file : Path) (target : Option Path)
    (text : String) : Outcome :=
  match target with
  | none => .success p.console folder [.raw text]
  | some target =>
    let bytes := encoded? p.codecs settings text
    match folder.write target (bytes.getD []), bytes with
    | .error e, _ => .crashed folder (.writing e)
    | .ok folder, none => .crashed folder .unencodable
    | .ok folder, some _ => .success p.console folder [.success s!"Formatted {file.text} -> {target.text}"]

/-- The lines that show the settings, with markup. -/
def settingLines (s : Settings) : List String :=
  let endpoint := if s.telemetry.endpoint.isEmpty then "(console only)" else s.telemetry.endpoint
  ["[bold]Current Configuration:[/bold]", "  Log level: " ++ s.logLevel.name, "  Debug: " ++ Value.boolText s.debug,
    "  Encoding: " ++ s.encoding, "", "[bold]OpenTelemetry Settings:[/bold]",
    "  Enabled: " ++ Value.boolText s.telemetry.enabled, "  Service name: " ++ s.telemetry.serviceName,
    "  Endpoint: " ++ endpoint]

/-- Carries a command on with the tree of a file. -/
def withTree (p : Platform) (folder : Folder) (settings : Settings) (file : Path) (next : Node → Outcome) : Outcome :=
  match load p folder settings file with
  | .error outcome => outcome
  | .ok root => next root

/-- Carries a command out. -/
def run (p : Platform) (folder : Folder) (settings : Settings) : Command → Outcome
  | .show file asJson => withTree p folder settings file (display p folder file asJson)
  | validate file => withTree p folder settings file (verdict p folder file)
  | format file target indent =>
    withTree p folder settings file fun root => deliver p folder settings file target (root.print indent)
  | config => .success p.console folder ((settingLines settings).map .markup)

end Command

/-! ### The program -/

namespace CommandLine

/-- What is printed to show the version. -/
def versionText : String := "command-dsl version 0.1.0"

/-- The options in front of the command. -/
def options : List CommandOption := [⟨"version", 'v', false⟩]

/-- What is printed of a setting that does not do. -/
def shownProblem (p : FieldProblem) : Print :=
  .error ("Invalid setting " ++ ".".intercalate p.path ++ ": " ++ p.reason.message)

/-- Carries out the command of the given name, if the settings do. -/
def runCommand (p : Platform) (folder : Folder) (env : Environment) (c : CommandName) (args : List String) : Outcome :=
  match p.settings env with
  | .error (.problems problems) => .failure p.console folder (problems.map shownProblem)
  | .error e => .crashed folder (.settings e)
  | .ok settings =>
    match Command.ofArguments? p.arguments folder c args with
    | none => .misuse folder
    | some command => command.run p folder settings

/-- Runs the program on a folder of files with the given environment and arguments. -/
def run (p : Platform) (folder : Folder) (env : Environment) (args : List String) : Outcome :=
  match p.arguments.separate options false args with
  | none => .misuse folder
  | some g =>
    if g.has "version" then .success p.console folder [.markup versionText]
    else match g.positional with
      | [] => .misuse folder
      | name :: args =>
        match CommandName.ofName? name with
        | none => .misuse folder
        | some c => runCommand p folder env c args

end CommandLine

end CommandTree
