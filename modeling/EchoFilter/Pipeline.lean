import EchoFilter.Ingest
import EchoFilter.Settings

/-!
The pipeline: a filter between bridged interfaces and a channel, started from the settings.

Frames carry their own arrival stamps here, so the time base is always theirs.  The recorder is
chosen by the caller.
-/

namespace EchoFilter

/-- Why a pipeline does not start. -/
structure StartError where
  cause : SettingsError
  deriving DecidableEq, Repr

/-- What was attempted, and each error down to the first, in one line. -/
def StartError.message (e : StartError) : String :=
  let causes :=
    match e.cause with
    | .filter f => [e.cause.message, f.message]
    | _ => [e.cause.message]
  ": ".intercalate ("invalid deduplication settings" :: causes)

structure Pipeline (ρ : Type) where
  ingest : Ingest Channel ρ
  /-- The report of the ended ingest task, until it is handed out. -/
  report : Option Report := none
  /-- Whether the report was handed out. -/
  stopped : Bool := false

namespace Pipeline

variable {ρ : Type} [Recorder ρ]

def startEvent (c : Config) (ingestQueue : UInt64) : Event :=
  .onDetector .info "Bridge pipeline started" [
    ("window_ms", Numeral.text c.windowMs.toNat),
    ("max_cache_size", Numeral.text c.maxCacheSize.toNat),
    ("ingest_queue", Numeral.text ingestQueue.toNat)]

def stopEvent (r : Report) : Event :=
  .onDetector .info "Bridge pipeline stopped" [
    ("received", Numeral.text r.received),
    ("forwarded", Numeral.text r.forwarded),
    ("suppressed", Numeral.text r.suppressed)]

/-- Starts a pipeline in front of a channel. -/
def start (s : Settings) (channel : Channel) (recorder : ρ) :
    Except StartError (Pipeline ρ × List Event) :=
  match s.filterConfig with
  | .error e => .error ⟨e⟩
  | .ok config =>
    let config := { config with timeBase := .frameArrival }
    match Detector.create config with
    | .error e => .error ⟨.filter e⟩
    | .ok detector =>
      .ok ({ ingest := .create { detector, recorder } channel s.ingestQueue.toNat },
        [Detector.creationEvent config, startEvent config s.ingestQueue])

/-- A sender for an interface, until the pipeline is shut down. -/
def attach? (p : Pipeline ρ) (interface : String) : Option (Pipeline ρ × List Event) :=
  (p.ingest.attach? interface).map fun (ingest, events) =>
    ({ p with ingest },
      events ++ [{ level := .info
                   message := "Interface attached"
                   fields := [("interface", interface)] }])

/-- Runs the ingest task until it has to wait or ends. -/
def settle (p : Pipeline ρ)
    (moment : Nat → Moment := fun _ => { clock := p.ingest.monitor.detector.clock }) :
    Pipeline ρ × List Event :=
  match p.ingest.poll moment with
  | (.finished report, ingest, events) => ({ p with ingest, report := some report }, events)
  | (_, ingest, events) => ({ p with ingest }, events)

/-- Lets go of the pipeline's own handle and settles.  The answer is the report once the ingest task
has ended; before that it is pending, as long as senders or a full channel hold it up. -/
def shutdown (p : Pipeline ρ)
    (moment : Nat → Moment := fun _ => { clock := p.ingest.monitor.detector.clock }) :
    Polled × Pipeline ρ × List Event :=
  if p.stopped then (.stopped, p, [])
  else
    let ingest := { p.ingest with inlet := p.ingest.inlet.dropHandle }
    let (p, events) := { p with ingest }.settle moment
    match p.report with
    | some report => (.finished report, { p with stopped := true }, events ++ [stopEvent report])
    | none => (.pending, p, events)

end Pipeline

end EchoFilter
