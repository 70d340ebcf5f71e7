import EchoFilter.Ingest.Adapter
import EchoFilter.Ingest.Inlet

/-!
Ingest: interfaces, the queue they feed, and the adapter that drains it in front of a sink.

Nothing runs by itself.  Senders enqueue, and the adapter advances in `Ingest.poll` until it has to
wait.  It ends when the inlet has closed and the queue is drained, or when the sink is closed; then
the queue refuses frames, and the sink is released.
-/

namespace EchoFilter

/-- How far the adapter has come. -/
inductive Task where
  /-- Not yet started. -/
  | fresh
  /-- Waiting, possibly with a frame the sink was too busy to take. -/
  | waiting (report : Report) (kept : Option Frame)
  | ended
  deriving DecidableEq, Repr

structure Ingest (σ ρ : Type) where
  monitor : Monitor ρ
  sink : σ
  inlet : Inlet
  task : Task := .fresh

/-- What polling comes to. -/
inductive Polled where
  /-- The adapter waits for frames or for the sink. -/
  | pending
  /-- The adapter has just ended. -/
  | finished (report : Report)
  /-- The adapter had ended before. -/
  | stopped
  deriving DecidableEq, Repr

namespace Ingest

variable {σ ρ : Type}

def create (monitor : Monitor ρ) (sink : σ) (capacity : Nat) : Ingest σ ρ where
  monitor
  sink
  inlet := .ofCapacity capacity

/-! ## Producers -/

/-- A sender for an interface, as long as the handle is left. -/
def attach? (g : Ingest σ ρ) (interface : String) : Option (Ingest σ ρ × List Event) :=
  if g.inlet.handle then
    some ({ g with inlet := g.inlet.attach interface },
      [{ level := .debug
         message := "Interface attached to ingest queue"
         fields := [("interface", interface)] }])
  else none

/-- Enqueues a frame that is already valid. -/
def sendFrame (g : Ingest σ ρ) (f : Frame) : Enqueued × Ingest σ ρ :=
  let (r, inlet) := g.inlet.enqueue f
  (r, { g with inlet })

def rejectionEvent (interface : String) (id : UInt32) (e : FrameError) : Event where
  level := .warn
  message := "Rejected frame at ingress"
  fields := [
    ("interface", interface),
    ("raw_id", Numeral.text id.toNat),
    ("error", e.message)]

variable [Recorder ρ]

/-- Validates and enqueues raw data.  What breaks the limits of a frame is counted as rejected and
never reaches the queue. -/
def send (g : Ingest σ ρ) (s : Sender) (id : UInt32) (bytes : List UInt8) (timestamp : UInt64) :
    Enqueued × Ingest σ ρ × List Event :=
  match Frame.ofRaw id bytes timestamp s.interface with
  | .error e =>
    (.refused (.invalidFrame e), { g with monitor := g.monitor.reject },
      [rejectionEvent s.interface id e])
  | .ok f =>
    let (r, g) := g.sendFrame f
    (r, g, [])

/-! ## Consumer -/

variable [Sink σ]

/-- Lets go of the queue's receiver and of the sink. -/
def finish (g : Ingest σ ρ) : Ingest σ ρ :=
  { g with inlet := g.inlet.close, sink := Sink.release g.sink, task := .ended }

/-- Runs the adapter until it has to wait or ends; unless told otherwise, the clock stands still. -/
def poll (g : Ingest σ ρ)
    (moment : Nat → Moment := fun _ => { clock := g.monitor.detector.clock }) :
    Polled × Ingest σ ρ × List Event :=
  let go (report : Report) (kept : Option Frame) (before : List Event) :=
    let d := ({ monitor := g.monitor, sink := g.sink, report } : Adapter σ ρ).resume moment kept
      g.inlet.queue
    let g := { g with
      monitor := d.adapter.monitor
      sink := d.adapter.sink
      inlet := { g.inlet with queue := d.rest } }
    let report := d.adapter.report
    let events := before ++ d.events
    let ended := (.finished report, g.finish, events ++ [Adapter.stopEvent report])
    match d.halt with
    | .held f => (.pending, { g with task := .waiting report (some f) }, events)
    | .closed => ended
    | .drained =>
      if g.inlet.isOpen then (.pending, { g with task := .waiting report none }, events) else ended
  match g.task with
  | .fresh => go {} none [Adapter.startEvent]
  | .waiting report kept => go report kept []
  | .ended => (.stopped, g, [])

end Ingest

end EchoFilter
