import EchoFilter.Clock
import EchoFilter.Event
import EchoFilter.Window

/-!
The duplicate detector: a window of signatures under a configuration, with a clock.

`Detector.perform` answers one call and gives the detector after it; `Detector.events` are the log
events that go with the outcome.  A raw call that breaks the limits of a frame is refused before
anything is touched, so its outcome leaves the detector as it was.
-/

namespace EchoFilter

/-- A detector runs only on a valid configuration. -/
structure Detector where
  config : Config
  valid : config.Valid
  clock : Clock
  window : Window Signature

/-- What can be asked of a detector. -/
inductive Call where
  /-- Judge raw data, at the current time or at a given one. -/
  | check (id : UInt32) (bytes : List UInt8) (at? : Option Time)
  /-- Judge a frame at its own time. -/
  | frame (f : Frame)
  /-- Judge an id and a payload at a given time. -/
  | decide (id : ArbitrationId) (payload : Payload) (now : Time)
  | sweep (now : Time)
  | reset
  | setClock (ms : UInt64)
  | advanceClock (ms : UInt64)
  deriving DecidableEq, Repr

/-- What a call came to. -/
inductive Outcome where
  | judged (id : ArbitrationId) (verdict : Verdict Signature)
  | swept (sweep : Sweep)
  | reset (dropped : Nat)
  | refused (error : FrameError)
  | clockMoved
  deriving DecidableEq, Repr

/-- Whether the frame of the call must be suppressed. -/
def Outcome.isDuplicate : Outcome → Bool
  | .judged _ v => v.duplicate
  | _ => false

namespace Detector

/-- A detector that has seen nothing, if the configuration is valid. -/
def create (config : Config) (clock : Clock := default) : Except FilterError Detector :=
  match h : config.validate with
  | .ok () => .ok { config, valid := Config.validate_eq_ok_iff.1 h, clock, window := .empty }
  | .error e => .error e

def limits (d : Detector) : Limits where
  window := d.config.windowMs.toNat
  capacity := d.config.maxCacheSize.toNat
  policy := d.config.policy

/-- The current time: the clock, or the latest time seen where frames bring the time. -/
def currentTime (d : Detector) : Time :=
  match d.config.timeBase with
  | .clock => d.clock.now.toNat
  | .frameArrival => d.window.mark.getD 0

/-- The time of a frame: the clock, or the frame's stamp. -/
def frameTime (d : Detector) (f : Frame) : Time :=
  match d.config.timeBase with
  | .clock => d.clock.now.toNat
  | .frameArrival => f.timestamp.toNat

/-- The signature of an id with a payload of any length, at the configured width. -/
def signature (d : Detector) (id : ArbitrationId) (payload : List UInt8) : Signature :=
  .compute d.config.width id payload

def contains (d : Detector) (s : Signature) : Bool :=
  d.window.contains s

def lastSeen? (d : Detector) (s : Signature) : Option Time :=
  d.window.lastSeen? s

/-- The number of remembered signatures. -/
def size (d : Detector) : Nat :=
  d.window.size

/-- The number of ledger entries. -/
def ledgerSize (d : Detector) : Nat :=
  d.window.ledger.size

def isEmpty (d : Detector) : Bool :=
  d.window.cache.isEmpty

/-- Judges an id and a payload at a given time, with signatures by any hash. -/
def decideBy (hash : Hash) (d : Detector) (id : ArbitrationId) (payload : Payload) (now : Time) :
    Verdict Signature × Detector :=
  let (v, window) :=
    d.window.check d.limits (.computeBy hash d.config.width id payload.bytes) now
  (v, { d with window })

/-- Judges an id and a payload at a given time. -/
def decide (d : Detector) (id : ArbitrationId) (payload : Payload) (now : Time) :
    Verdict Signature × Detector :=
  d.decideBy SipHash.digest id payload now

/-- Answers one call, with signatures by any hash. -/
def performBy (hash : Hash) (d : Detector) : Call → Outcome × Detector
  | .check id bytes at? =>
    match ArbitrationId.ofRaw id with
    | .error e => (.refused e, d)
    | .ok id =>
      match Payload.ofBytes bytes with
      | .error e => (.refused e, d)
      | .ok payload =>
        let (v, d) := d.decideBy hash id payload (at?.getD d.currentTime)
        (.judged id v, d)
  | .frame f =>
    let (v, d) := d.decideBy hash f.id f.payload (d.frameTime f)
    (.judged f.id v, d)
  | .decide id payload now =>
    let (v, d) := d.decideBy hash id payload now
    (.judged id v, d)
  | .sweep now =>
    let (s, window) := d.window.sweep d.limits now
    (.swept s, { d with window })
  | .reset => (.reset d.size, { d with window := d.window.reset })
  | .setClock ms => (.clockMoved, { d with clock := d.clock.set ms })
  | .advanceClock ms => (.clockMoved, { d with clock := d.clock.advance ms })

def perform (d : Detector) (c : Call) : Outcome × Detector :=
  d.performBy SipHash.digest c

/-- A raw call out of the limits of a frame leaves the detector as it was. -/
theorem perform_of_refused {d d' : Detector} {c : Call} {e : FrameError}
    (h : d.perform c = (.refused e, d')) : d' = d := by
  cases c with
  | check id bytes at? =>
    simp only [perform, performBy] at h
    split at h
    · simp only [Prod.mk.injEq] at h; exact h.2.symm
    · split at h
      · simp only [Prod.mk.injEq] at h; exact h.2.symm
      · simp at h
  | _ => simp [perform, performBy] at h

/-- The outcomes of a sequence of calls, one after another, and the detector after them, with
signatures by any hash. -/
def runBy (hash : Hash) (d : Detector) : List Call → List Outcome × Detector
  | [] => ([], d)
  | c :: rest =>
    let (o, d) := d.performBy hash c
    let (os, d) := d.runBy hash rest
    (o :: os, d)

/-- The outcomes of a sequence of calls, one after another, and the detector after them. -/
def run (d : Detector) (calls : List Call) : List Outcome × Detector :=
  d.runBy SipHash.digest calls

/-! ## Log events -/

/-- The event of a new detector. -/
def creationEvent (c : Config) : Event where
  level := .info
  message := "Duplicate detector created"
  fields := [
    ("window_ms", Numeral.text c.windowMs.toNat),
    ("max_cache_size", Numeral.text c.maxCacheSize.toNat),
    ("signature_bits", Numeral.text c.width.bits),
    ("ledger_policy", c.policy.label),
    ("time_base", c.timeBase.label)]

/-- A time before the mark is logged with the mark it is moved to. -/
def clampEvents (given now : Time) : List Event :=
  if given < now then
    [{ level := .trace
       message := "Out-of-order timestamp clamped"
       fields := [("now_ms", Numeral.text given), ("mark", Numeral.text now)] }]
  else []

/-- The events of an outcome, in the order they happen. -/
def events (d : Detector) : Outcome → List Event
  | .judged id v =>
    let repeated : List Event :=
      if v.duplicate then
        [{ level := .trace
           message := "Duplicate frame suppressed"
           fields := [("arbitration_id", id.display), ("signature", v.key.display)] }]
      else []
    let evicted : List Event :=
      match v.evicted with
      | some (s, time) =>
        [{ level := .debug
           message := "Cache full, evicted oldest signature"
           fields := [
             ("signature", s.display),
             ("ledger_time", Numeral.text time),
             ("max_cache_size", Numeral.text d.limits.capacity)] }]
      | none => []
    clampEvents v.given v.now ++ repeated ++ evicted
  | .swept s => clampEvents s.given s.now
  | .reset dropped =>
    [{ level := .info
       message := "Duplicate detector reset"
       fields := [("dropped", Numeral.text dropped)] }]
  | .refused _ => []
  | .clockMoved => []

end Detector

end EchoFilter
