import EchoFilter.Json.Record
import EchoFilter.Json.Writer
import EchoFilter.Settings

/-!
The JSON forms of the library's values.

Each value is written compactly with its fields in the order of declaration.  Reading checks the
limits of a frame wherever an id or a payload occurs, so no text reads as an invalid frame.  A
configuration is read without validating it, and its three choices have defaults; for telemetry
every field has one.
-/

namespace EchoFilter

/-- A value that passes a check of the limits of a frame. -/
def Json.checked {α β : Type} (reader : Json.Reader α) (check : α → Except FrameError β) :
    Json.Reader β := fun s =>
  match reader s with
  | .error e => .error e
  | .ok (a, rest) =>
    match check a with
    | .ok b => .ok (b, rest)
    | .error e => .error (.data (some e))

/-! ## Frames -/

namespace ArbitrationId

def toJson (id : ArbitrationId) : List Char :=
  Json.Write.natural id.raw.toNat

def readJson : Json.Reader ArbitrationId :=
  Json.checked (Json.natural UInt32.size) fun n => ofRaw (UInt32.ofNat n)

end ArbitrationId

namespace Payload

def toJson (p : Payload) : List Char :=
  Json.Write.array (p.bytes.map fun b => Json.Write.natural b.toNat)

def readJson : Json.Reader Payload :=
  Json.checked (Json.array (Json.natural UInt8.size)) fun ns => ofBytes (ns.map UInt8.ofNat)

end Payload

namespace Frame

def toJson (f : Frame) : List Char :=
  Json.Write.object [
    ("id", f.id.toJson),
    ("payload", f.payload.toJson),
    ("timestamp_ms", Json.Write.natural f.timestamp.toNat),
    ("interface", Json.Write.string f.interface)]

/-- The fields of a frame read so far. -/
structure Fields where
  id : Option ArbitrationId := none
  payload : Option Payload := none
  timestamp : Option Nat := none
  interface : Option String := none

def record : Json.Record Fields Frame where
  start := {}
  fields := [
    .of "id" ArbitrationId.readJson Fields.id fun acc x => { acc with id := some x },
    .of "payload" Payload.readJson Fields.payload fun acc x => { acc with payload := some x },
    .of "timestamp_ms" (Json.natural UInt64.size) Fields.timestamp
      fun acc x => { acc with timestamp := some x },
    .of "interface" Json.string Fields.interface fun acc x => { acc with interface := some x }]
  finish acc :=
    match acc with
    | ⟨some id, some payload, some timestamp, some interface⟩ =>
      some { id, payload, timestamp := UInt64.ofNat timestamp, interface }
    | _ => none

def readJson : Json.Reader Frame :=
  record.read

end Frame

/-! ## Configurations -/

namespace Width

def toJson (w : Width) : List Char :=
  Json.Write.string w.name

def readJson : Json.Reader Width :=
  Json.variant ([.bits32, .bits64, .bits128].map fun w => (name w, w))

end Width

namespace Policy

def toJson (p : Policy) : List Char :=
  Json.Write.string p.name

def readJson : Json.Reader Policy :=
  Json.variant ([.recency, .firstInsertion].map fun p => (name p, p))

end Policy

namespace TimeBase

def toJson (t : TimeBase) : List Char :=
  Json.Write.string t.name

def readJson : Json.Reader TimeBase :=
  Json.variant ([.clock, .frameArrival].map fun t => (name t, t))

end TimeBase

namespace Config

def toJson (c : Config) : List Char :=
  Json.Write.object [
    ("window_ms", Json.Write.natural c.windowMs.toNat),
    ("max_cache_size", Json.Write.natural c.maxCacheSize.toNat),
    ("signature_width", c.width.toJson),
    ("ledger_policy", c.policy.toJson),
    ("time_base", c.timeBase.toJson)]

/-- The fields of a configuration read so far. -/
structure Fields where
  windowMs : Option Nat := none
  maxCacheSize : Option Nat := none
  width : Option Width := none
  policy : Option Policy := none
  timeBase : Option TimeBase := none

def record : Json.Record Fields Config where
  start := {}
  fields := [
    .of "window_ms" (Json.natural UInt64.size) Fields.windowMs
      fun acc x => { acc with windowMs := some x },
    .of "max_cache_size" (Json.natural UInt64.size) Fields.maxCacheSize
      fun acc x => { acc with maxCacheSize := some x },
    .of "signature_width" Width.readJson Fields.width fun acc x => { acc with width := some x },
    .of "ledger_policy" Policy.readJson Fields.policy fun acc x => { acc with policy := some x },
    .of "time_base" TimeBase.readJson Fields.timeBase
      fun acc x => { acc with timeBase := some x }]
  finish acc :=
    match acc.windowMs, acc.maxCacheSize with
    | some windowMs, some maxCacheSize =>
      some {
        windowMs := UInt64.ofNat windowMs
        maxCacheSize := UInt64.ofNat maxCacheSize
        width := acc.width.getD default
        policy := acc.policy.getD default
        timeBase := acc.timeBase.getD default }
    | _, _ => none

def readJson : Json.Reader Config :=
  record.read

end Config

/-! ## Telemetry -/

namespace Telemetry

def toJson (t : Telemetry) : List Char :=
  Json.Write.object [
    ("service_name", Json.Write.string t.serviceName),
    ("log_level", Json.Write.string t.logLevel),
    ("console_output", Json.Write.boolean t.consoleOutput),
    ("json_logs", Json.Write.boolean t.jsonLogs),
    ("metrics_port", Json.Write.natural t.metricsPort.toNat)]

/-- The fields of the settings read so far. -/
structure Fields where
  serviceName : Option String := none
  logLevel : Option String := none
  consoleOutput : Option Bool := none
  jsonLogs : Option Bool := none
  metricsPort : Option Nat := none

def record : Json.Record Fields Telemetry where
  start := {}
  fields := [
    .of "service_name" Json.string Fields.serviceName
      fun acc x => { acc with serviceName := some x },
    .of "log_level" Json.string Fields.logLevel fun acc x => { acc with logLevel := some x },
    .of "console_output" Json.boolean Fields.consoleOutput
      fun acc x => { acc with consoleOutput := some x },
    .of "json_logs" Json.boolean Fields.jsonLogs fun acc x => { acc with jsonLogs := some x },
    .of "metrics_port" (Json.natural UInt16.size) Fields.metricsPort
      fun acc x => { acc with metricsPort := some x }]
  finish acc :=
    let d : Telemetry := default
    some {
      serviceName := acc.serviceName.getD d.serviceName
      logLevel := acc.logLevel.getD d.logLevel
      consoleOutput := acc.consoleOutput.getD d.consoleOutput
      jsonLogs := acc.jsonLogs.getD d.jsonLogs
      metricsPort := (acc.metricsPort.map UInt16.ofNat).getD d.metricsPort }

def readJson : Json.Reader Telemetry :=
  record.read

end Telemetry

end EchoFilter
