import CommandTree.FieldProblem.Number
import CommandTree.Settings
import CommandTree.Value.Json
/-!
Loading settings from environment variables by their names.

The names of the variables begin with a common word, and letter case does not matter in them. A setting without a
variable has a standard value. The settings of telemetry have variables of their own, and may also be given together, as
a JSON object. All settings that do not do are reported together, but those of telemetry alone and before all others
unless they are given together.

* `Environment.get?` looks a variable up;
* `SettingsForm.load` loads the settings of a form, and `SettingsLoader.standard` is this way of loading;
* `SettingsLoader.checksEncoding_standard`: it checks the encoding.
-/

namespace CommandTree

-- Powers are taken with the core instance, also where a module beside this one brings another.
attribute [local instance (high)] instPowNat

/-! ### Variables -/

namespace Environment

/-- What the names of all variables that are settings begin with. -/
def opening : String := "command_dsl_"

/-- A text in lower case, as far as it is ASCII. -/
def lower (s : String) : String := String.ofList (s.toList.map Char.toLower)

/-- The value of the variable for a setting, if it is set. -/
def get? (env : Environment) (setting : String) : Option String :=
  (env.reverse.find? fun (name, _) => lower name == opening ++ setting).map Prod.snd

end Environment

/-- The wording of the failure to read the value of a variable. -/
def SettingsError.unreadableText (setting : String) : String :=
  "error parsing value for field \"" ++ setting ++ "\" from source \"EnvSettingsSource\""

namespace SettingsForm

/-! ### Reading values -/

/-- The words for the truth values. -/
def booleanWords : List (List String × Bool) :=
  [(["0", "off", "f", "false", "n", "no"], false), (["1", "on", "t", "true", "y", "yes"], true)]

/-- The truth value that a word stands for, in any letter case. -/
def readBool (s : String) : Except FieldProblem.Reason Bool :=
  match booleanWords.find? fun (words, _) => words.contains (Environment.lower s) with
  | some (_, b) => .ok b
  | none => .error .notBoolean

/-- The truth value that an integer of less than 64 bits stands for. -/
def truthOfInteger (n : Int) : Except FieldProblem.Reason Bool :=
  if n = 0 then .ok false else if n = 1 then .ok true else .error .notBoolean

/-- The truth value that a value stands for. -/
def truthOf : Value → Except FieldProblem.Reason Bool
  | .bool b => .ok b
  | .text s => readBool s
  | .integer n => if -2 ^ (63 : Nat) ≤ n ∧ n < 2 ^ (63 : Nat) then truthOfInteger n else .error .notTruth
  | .real x =>
    match (Numeric.Number.real x).integer? with
    | .ok n => truthOfInteger n
    | .error _ => .error .notTruth
  | .none | .list _ | .dictionary _ => .error .notTruth

/-- The text that a value is. -/
def textOf : Value → Except FieldProblem.Reason String
  | .text s => .ok s
  | _ => .error .notText

/-- The value of a setting, which is the standard value if none is given; `path` is how the setting is named in
problems. -/
def read {α β : Type} (given : Option α) (path : List String) (standard : β)
    (read : α → Except FieldProblem.Reason β) : Except FieldProblem β :=
  match given with
  | none => .ok standard
  | some a => (read a).mapError fun reason => ⟨path, reason⟩

/-- The value of a setting with a variable of its own. -/
def readVariable {α : Type} (env : Environment) (setting : String) (standard : α)
    (ofText : String → Except FieldProblem.Reason α) : Except FieldProblem α :=
  read (env.get? setting) [setting] standard ofText

/-- The problem of a value, if there is one. -/
def problem {α : Type} : Except FieldProblem α → List FieldProblem
  | .ok _ => []
  | .error p => [p]

/-! ### Settings of telemetry -/

/-- The settings of telemetry, by their names. -/
def telemetryNames : List String := ["enabled", "service_name", "endpoint"]

/-- The members of an object with the settings of telemetry under their names, which may be in any letter case. -/
def withSettingNames (members : List (String × Value)) : List (String × Value) :=
  members.foldl (fun named (name, v) =>
    JsonText.assign named ((telemetryNames.find? (· == Environment.lower name)).getD name) v) []

/-- The settings of telemetry, of which those that are not among the members of an object have variables of their
own; `around` is how the object is named in problems. -/
def telemetryOf (standard : TelemetrySettings) (env : Environment) (around : List String)
    (members : List (String × Value)) :
    Except (List FieldProblem) TelemetrySettings :=
  let given (name : String) : Option Value := members.lookup name <|> (env.get? ("otel_" ++ name)).map .text
  let unknown := (members.filter fun (name, _) => !telemetryNames.contains name).map fun (name, _) =>
    (⟨around ++ [name], .unknownField⟩ : FieldProblem)
  match read (given "enabled") (around ++ ["enabled"]) standard.enabled truthOf,
    read (given "service_name") (around ++ ["service_name"]) standard.serviceName textOf,
    read (given "endpoint") (around ++ ["endpoint"]) standard.endpoint textOf, unknown with
  | .ok enabled, .ok serviceName, .ok endpoint, [] => .ok ⟨enabled, serviceName, endpoint⟩
  | enabled, serviceName, endpoint, unknown =>
    .error (problem enabled ++ problem serviceName ++ problem endpoint ++ unknown)

/-- The settings of telemetry; `given` is an object with some of them, or no value. -/
def readTelemetry (standard : TelemetrySettings) (env : Environment) :
    (given : Value) → Except (List FieldProblem) TelemetrySettings
  | .none => telemetryOf standard env [] []
  | .dictionary members => telemetryOf standard env ["otel"] (withSettingNames members)
  | _ => .error [⟨["otel"], .notObject⟩]

/-! ### All settings -/

/-- The settings that the environment holds, with those of telemetry. -/
def withTelemetry (form : SettingsForm) (env : Environment)
    (telemetry : Except (List FieldProblem) TelemetrySettings) : Except SettingsError Settings :=
  match readVariable env "log_level" form.standard.logLevel form.readLevel,
    readVariable env "debug" form.standard.debug readBool,
    readVariable env "encoding" form.standard.encoding form.readEncoding, telemetry with
  | .ok logLevel, .ok debug, .ok encoding, .ok telemetry => .ok ⟨logLevel, debug, encoding, telemetry⟩
  | logLevel, debug, encoding, telemetry =>
    .error (.problems (problem logLevel ++ problem debug ++ problem encoding ++ match telemetry with
      | .ok _ => []
      | .error problems => problems))

/-- The settings of telemetry that are given together, or no value, unless the variable holds no JSON document. -/
def givenTelemetry? (env : Environment) : Option Value :=
  match env.get? "otel" with
  | none => some .none
  | some s => JsonText.readDocument? s

/-- The settings that the environment holds. -/
def load (form : SettingsForm) (env : Environment) : Except SettingsError Settings :=
  match givenTelemetry? env with
  | none => .error (.unreadable "otel")
  | some .none =>
    match readTelemetry form.standard.telemetry env .none with
    | .error problems => .error (.problems problems)
    | telemetry => form.withTelemetry env telemetry
  | some given => form.withTelemetry env (readTelemetry form.standard.telemetry env given)

/-- The encoding that is loaded is that of its variable. -/
theorem readVariable_of_load {form : SettingsForm} {env : Environment} {settings : Settings}
    (loaded : form.load env = .ok settings) :
    readVariable env "encoding" form.standard.encoding form.readEncoding = .ok settings.encoding := by
  have encoding {telemetry} (loaded : form.withTelemetry env telemetry = .ok settings) :
      readVariable env "encoding" form.standard.encoding form.readEncoding = .ok settings.encoding := by
    unfold withTelemetry at loaded
    split at loaded
    · cases loaded
      assumption
    · cases loaded
  unfold load at loaded
  split at loaded
  · cases loaded
  · split at loaded
    · cases loaded
    · exact encoding loaded
  · exact encoding loaded

end SettingsForm

/-- Settings are loaded from the variables of their names. -/
def SettingsLoader.standard : SettingsLoader := ⟨SettingsForm.load⟩

/-- The encoding of a variable is checked. -/
theorem SettingsLoader.checksEncoding_standard : standard.ChecksEncoding := by
  intro form env settings loaded
  have loaded := SettingsForm.readVariable_of_load loaded
  unfold SettingsForm.readVariable SettingsForm.read at loaded
  split at loaded
  · exact .inl (Except.ok.inj loaded).symm
  · rename_i given _
    cases passed : form.readEncoding given with
    | error reason => rw [passed] at loaded; cases loaded
    | ok name =>
        rw [passed] at loaded
        cases loaded
        exact .inr ⟨given, passed⟩

end CommandTree
