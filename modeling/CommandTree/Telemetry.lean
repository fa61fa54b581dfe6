import CommandTree.Settings
/-!
Telemetry, which is installed once and shut down again.

Installing it a second time changes nothing. It is not installed unless the settings enable it and the support for
it is there; without the support for sending spans to an endpoint they are only shown.

* `Telemetry.install` and `Telemetry.shutDown` are the steps between the two states, with what they log.
-/

namespace CommandTree

/-- Support for telemetry that may be missing. -/
inductive TelemetrySupport where
  | sdk
  | otlp
  deriving DecidableEq, Repr

/-- Whether telemetry is installed. -/
inductive Telemetry where
  | absent
  | installed
  deriving DecidableEq, Repr

namespace Telemetry

/-- An entry of the log of telemetry. -/
def entry (level : LogLevel) (message : String) : LogEntry :=
  ⟨level, "command_dsl.observability.telemetry", message⟩

/-- What is logged about the endpoint. -/
def endpointLogs (settings : TelemetrySettings) (missing : List TelemetrySupport) : List LogEntry :=
  if settings.endpoint.isEmpty then []
  else if missing.contains .otlp then [entry .warning "OTLP exporter not available, using console only"]
  else [entry .info ("OTLP exporter configured: " ++ settings.endpoint)]

/-- Installs telemetry as the settings say, where some support is missing. -/
def install (state : Telemetry) (settings : TelemetrySettings) (missing : List TelemetrySupport) :
    Telemetry × List LogEntry :=
  if state = installed then (installed, [entry .debug "Telemetry already initialized"])
  else if !settings.enabled then (absent, [entry .debug "Telemetry disabled"])
  else if missing.contains .sdk then
    (absent, [entry .warning ("OpenTelemetry SDK not installed, spans will not be exported. "
      ++ "Install with: pip install command-dsl[observability]")])
  else
    (installed, endpointLogs settings missing
      ++ [entry .info ("Telemetry initialized: service=" ++ settings.serviceName)])

/-- Shuts telemetry down. -/
def shutDown : Telemetry → Telemetry × List LogEntry
  | installed => (absent, [entry .debug "Telemetry shutdown complete"])
  | absent => (absent, [])

/-- Telemetry that has been shut down is absent. -/
theorem shutDown_fst (state : Telemetry) : state.shutDown.1 = absent := by
  cases state <;> rfl

end Telemetry

end CommandTree
