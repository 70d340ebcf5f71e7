import EchoFilter.Event
import EchoFilter.Telemetry.LogFilter

/-!
Settings of logging and metrics, and starting the log.

The settings come from named variables and fall back to defaults; no value of a variable is an
error.  Starting the log fails on a filter that does not read, or when a log is already running.
-/

namespace EchoFilter

/-- The value of each variable that is set. -/
abbrev Lookup := String → Option String

structure Telemetry where
  serviceName : String := "canbridge"
  /-- A level, or a full log filter. -/
  logLevel : String := "info"
  consoleOutput : Bool := true
  jsonLogs : Bool := false
  /-- The port on which a host process serves the metrics. -/
  metricsPort : UInt16 := 9100
  deriving DecidableEq, Repr

namespace Telemetry

instance : Inhabited Telemetry := ⟨{}⟩

/-- Whether a value is a word in any case.  No letter outside ASCII has a lower case among the ASCII
letters of `true` and `false`, so folding ASCII decides it. -/
def isWord (word value : String) : Bool :=
  value.map Char.toLower = word

/-- Whether the process runs in a container. -/
def inContainer (lookup : Lookup) : Bool :=
  (lookup "KUBERNETES_SERVICE_HOST").isSome || (lookup "DOCKER_CONTAINER").isSome

/-- A port number, not trimmed. -/
def port? (value : String) : Option UInt16 :=
  match Numeral.read UInt16.size value.toList with
  | .ok n => some (UInt16.ofNat n)
  | .error _ => none

def ofLookup (lookup : Lookup) : Telemetry where
  serviceName := (lookup "OTEL_SERVICE_NAME").getD "canbridge"
  logLevel := ((lookup "CB_LOG_LEVEL").or (lookup "RUST_LOG")).getD "info"
  consoleOutput :=
    match lookup "CB_CONSOLE_OUTPUT" with
    | some v => !isWord "false" v && v ≠ "0"
    | none => true
  jsonLogs :=
    match lookup "CB_JSON_LOGS" with
    | some v => isWord "true" v || v = "1"
    | none => inContainer lookup
  metricsPort := ((lookup "CB_METRICS_PORT").bind port?).getD 9100

/-- Without any variable all settings are the defaults. -/
theorem ofLookup_none : ofLookup (fun _ => none) = default := rfl

end Telemetry

/-! ## Starting the log -/

inductive TelemetryError where
  | subscriberInit (text : String)
  | metricsInit (text : String)
  | config (text : String)
  deriving DecidableEq, Repr

def TelemetryError.message : TelemetryError → String
  | .subscriberInit text => "Failed to install tracing subscriber: " ++ text
  | .metricsInit text => "Failed to initialize Prometheus metrics: " ++ text
  | .config text => "Invalid configuration: " ++ text

namespace Telemetry

/-- Starts the log of a process, of which there can be only one.  The first event tells of it. -/
def startLog (t : Telemetry) (running : Bool) : Except TelemetryError Event :=
  match LogFilter.check t.logLevel with
  | .error e => .error (.config ("log level " ++ Quoted.quote t.logLevel ++ ": " ++ e.message))
  | .ok () =>
    if running then
      .error (.subscriberInit "a global default trace dispatcher has already been set")
    else
      .ok {
        level := .info
        message := "Logging initialized"
        fields := [
          ("service", t.serviceName),
          ("level", t.logLevel),
          ("json", if t.jsonLogs then "true" else "false")] }

end Telemetry

end EchoFilter
