import CommandTree.Codec
import CommandTree.FieldProblem
import CommandTree.Trace
/-!
Settings.

Settings are loaded from environment variables, by a loader that is not fixed here. It is given the form of the settings:
their standard values and the checks of those that are checked.

* `Settings.form` is the form, with `Settings.readLevel` and `Settings.readEncoding` as the checks;
* `SettingsLoader.ChecksEncoding`: a loader gives the standard encoding, or one that has passed its check;
* `Settings.effectiveLogLevel` is the level that is in force.
-/

namespace CommandTree

/-! ### Settings -/

/-- Settings of telemetry: whether spans are exported, under which name, and where they are sent to, if anywhere. -/
structure TelemetrySettings where
  enabled : Bool
  serviceName : String
  endpoint : String
  deriving DecidableEq, Repr

/-- Settings of the program. -/
structure Settings where
  logLevel : LogLevel
  debug : Bool
  encoding : String
  telemetry : TelemetrySettings
  deriving DecidableEq, Repr

/-- Why there are no settings: the value of a variable cannot be read at all, or some values do not do. -/
inductive SettingsError where
  | unreadable (setting : String)
  | problems (problems : List FieldProblem)
  deriving DecidableEq, Repr

/-- The form of the settings: their standard values, and what is checked of a level and of the name of an encoding. -/
structure SettingsForm where
  standard : Settings
  readLevel : String → Except FieldProblem.Reason LogLevel
  readEncoding : String → Except FieldProblem.Reason String

namespace Settings

/-- The level that is in force. -/
def effectiveLogLevel (s : Settings) : LogLevel := if s.debug then .debug else s.logLevel

/-! ### The form -/

/-- The capital letter of a character, as far as it is an ASCII letter. -/
def upperChar (c : Char) : Char :=
  if c = 'ı' then 'I' else if c = 'ſ' then 'S' else c.toUpper

/-- The level of a name, in any letter case. -/
def readLevel (s : String) : Except FieldProblem.Reason LogLevel :=
  match LogLevel.ofName? (String.ofList (s.toList.map upperChar)) with
  | some l => .ok l
  | none => .error (.refused ("Unknown log level: " ++ s))

/-- The name of a codec, which need not be a text encoding. -/
def readEncoding (codecs : Codecs) (s : String) : Except FieldProblem.Reason String :=
  match codecs.lookup s with
  | .ok _ => .ok s
  | .error .nullInName => .error (.refused EncodingProblem.nullInName.message)
  | .error _ => .error (.refused ("Unknown encoding: " ++ s))

/-- The settings unless it is said otherwise. -/
def standard : Settings := ⟨.warning, false, "utf-8", ⟨false, "command-dsl", ""⟩⟩

/-- The form of the settings. -/
def form (codecs : Codecs) : SettingsForm := ⟨standard, readLevel, readEncoding codecs⟩

end Settings

/-! ### Loading -/

/-- Environment variables with their values; of two with the same name the later one counts. -/
abbrev Environment : Type := List (String × String)

/-- A way to load settings from the environment. -/
structure SettingsLoader where
  load : SettingsForm → Environment → Except SettingsError Settings

/-- The encoding that is loaded is the standard one, or has passed its check. -/
def SettingsLoader.ChecksEncoding (loader : SettingsLoader) : Prop :=
  ∀ form env settings, loader.load form env = .ok settings →
    settings.encoding = form.standard.encoding ∨ ∃ text, form.readEncoding text = .ok settings.encoding

end CommandTree
