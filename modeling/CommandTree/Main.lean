import CommandTree.CommandLine
import CommandTree.Platform.Standard
/-!
The program: it looks at the files that its arguments may name and at its environment, runs the command line on
them, prints what is to be printed, and writes what has changed.
-/

namespace CommandTree.Main

/-- The texts in an argument that may be paths: the argument, what follows an equals sign in it, and what follows an
option letter. -/
def candidates (arg : String) : List String :=
  [arg, .ofList ((arg.toList.dropWhile (· ≠ '=')).drop 1), .ofList (arg.toList.drop 2)].filter fun s => s ≠ ""

/-- What is found at a path. -/
def look (p : Path) (folder : Folder) : IO Folder := do
  try
    let content ← IO.FS.readBinFile p.text
    return folder.put p content.toList
  catch
    | .noFileOrDirectory .. | .noSuchThing .. => return folder
    | .inappropriateType .. => return { folder with directories := p :: folder.directories }
    | _ => return { folder with files := (p, .broken) :: folder.files }

/-- The paths that a path leads through, down to itself. -/
def stops (p : Path) : List Path :=
  let steps := p.names.foldl (fun (q, qs) name =>
    let q := if name = Path.parentName then q.parent else q.child name
    (q, q :: qs)) (({ p with names := [] } : Path), ([] : List Path))
  steps.2

/-- The names of the environment variables that can be settings. -/
def settingVariables : List String :=
  ["LOG_LEVEL", "DEBUG", "ENCODING", "OTEL", "OTEL_ENABLED", "OTEL_SERVICE_NAME", "OTEL_ENDPOINT"].map
    fun name => "COMMAND_DSL_" ++ name

/-- The settings that the environment holds. -/
def environment : IO Environment :=
  settingVariables.filterMapM fun name => do return (← IO.getEnv name).map fun value => (name, value)

/-- The files that the arguments may name, and the directories that hold them. -/
def snapshot (args : List String) : IO Folder := do
  let mut folder := Folder.empty
  for s in args.flatMap candidates do
    for p in stops (.ofText s) do
      if !p.isAbove && !p.hasNull then folder ← look p folder
  return folder

/-- Writes the files of a folder whose content is not as it was. -/
def store (folder old : Folder) : IO Unit := do
  for (p, content) in folder.files do
    match content with
    | .broken => pure ()
    | .bytes bs => if old.files.lookup p ≠ some content then IO.FS.writeBinFile p.text ⟨bs.toArray⟩

end CommandTree.Main

/-- Runs the program with the given arguments. -/
def main (args : List String) : IO UInt32 := do
  let folder ← CommandTree.Main.snapshot args
  let platform := CommandTree.Platform.standard
  let outcome := CommandTree.CommandLine.run platform folder (← CommandTree.Main.environment) args
  IO.print (platform.console.output outcome.printed)
  CommandTree.Main.store outcome.folder folder
  if outcome.exitCode = 2 then IO.eprintln "misused arguments"
  if outcome.crash.isSome then IO.eprintln "unexpected failure"
  return outcome.exitCode.toUInt32
