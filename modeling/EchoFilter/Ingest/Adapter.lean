import EchoFilter.Monitor
import EchoFilter.Sink

/-!
The adapter: takes frames off the queue, forwards first copies and drops the rest.

`Adapter.drain` works through a queue of frames until it is empty, the sink is busy or the sink is
closed.  Its report counts what was taken, forwarded, dropped and rejected, and its events tell the
same in order.
-/

namespace EchoFilter

/-- Counts of one run. -/
structure Report where
  /-- Frames taken off the queue. -/
  received : Nat := 0
  /-- Frames the sink took. -/
  forwarded : Nat := 0
  /-- Frames dropped as repeats. -/
  suppressed : Nat := 0
  /-- Deliveries the sink rejected. -/
  sinkErrors : Nat := 0
  deriving DecidableEq, Repr

/-- The state of a run between two frames. -/
structure Adapter (σ ρ : Type) where
  monitor : Monitor ρ
  sink : σ
  report : Report := {}

/-- What goes on around the adapter when it takes a frame. -/
structure Moment where
  /-- What the clock shows. -/
  clock : Clock
  /-- How long the frame holds the detector. -/
  elapsed : Duration := .zero

/-- Why a run stopped taking frames. -/
inductive Halt where
  /-- The queue is empty. -/
  | drained
  /-- The sink is busy; the frame is kept. -/
  | held (f : Frame)
  | closed
  deriving DecidableEq, Repr

/-- What a run came to. -/
structure Drained (σ ρ : Type) where
  adapter : Adapter σ ρ
  /-- The frames left in the queue. -/
  rest : List Frame
  halt : Halt
  /-- What happened, in order. -/
  events : List Event

/-- The events of what happened before a run, put in front of it. -/
def Drained.after {σ ρ : Type} (before : List Event) (d : Drained σ ρ) : Drained σ ρ :=
  { d with events := before ++ d.events }

namespace Adapter

variable {σ ρ : Type} [Sink σ]

def startEvent : Event where
  level := .info
  message := "[IngestAdapter] Started"

def stopEvent (r : Report) : Event where
  level := .info
  message := "[IngestAdapter] Stopped"
  fields := [
    ("received", Numeral.text r.received),
    ("forwarded", Numeral.text r.forwarded),
    ("suppressed", Numeral.text r.suppressed),
    ("sink_errors", Numeral.text r.sinkErrors)]

def closedEvent : Event where
  level := .warn
  message := "[IngestAdapter] Downstream closed, stopping"

def rejectedEvent (e : SinkError) : Event where
  level := .warn
  message := "Downstream rejected frame"
  fields := [("error", e.message)]

/-- How a delivery went. -/
inductive Delivery (σ ρ : Type) where
  /-- The sink is busy and must be offered the frame again. -/
  | busy
  /-- The sink answered, and the run goes on. -/
  | done (a : Adapter σ ρ) (events : List Event)
  /-- The sink is closed, and the run ends. -/
  | closed (a : Adapter σ ρ)

/-- Offers a frame to the sink and counts the answer. -/
def deliver (a : Adapter σ ρ) (f : Frame) : Delivery σ ρ :=
  match Sink.offer a.sink f with
  | none => .busy
  | some (.ok (), sink) =>
    .done { a with sink, report := { a.report with forwarded := a.report.forwarded + 1 } } []
  | some (.error .closed, sink) => .closed { a with sink }
  | some (.error (.rejected reason), sink) =>
    .done { a with sink, report := { a.report with sinkErrors := a.report.sinkErrors + 1 } }
      [rejectedEvent (.rejected reason)]

variable [Recorder ρ]

/-- Takes a frame off the queue and has it judged.  The answer is whether to drop it, and the events
are those of the detector and of a drop. -/
def judge (a : Adapter σ ρ) (f : Frame) (moment : Moment) :
    Bool × Adapter σ ρ × List Event :=
  let (outcome, monitor) := (a.monitor.showing moment.clock).call (.frame f) moment.elapsed
  let events := a.monitor.detector.events outcome
  let received := a.report.received + 1
  if outcome.isDuplicate then
    (true,
      { a with
        monitor
        report := { a.report with received, suppressed := a.report.suppressed + 1 } },
      events ++ [.onFrame .trace "Duplicate dropped" f.interface f.id])
  else (false, { a with monitor, report := { a.report with received } }, events)

/-- Works through a queue.  The `n`th frame that a run takes is judged at `moment n`. -/
def drain (moment : Nat → Moment) (a : Adapter σ ρ) : List Frame → Drained σ ρ
  | [] => { adapter := a, rest := [], halt := .drained, events := [] }
  | f :: rest =>
    match a.judge f (moment a.report.received) with
    | (true, a, events) => (a.drain moment rest).after events
    | (false, a, events) =>
      let events := events ++ Sink.announce σ f
      match a.deliver f with
      | .busy => { adapter := a, rest, halt := .held f, events }
      | .done a more => (a.drain moment rest).after (events ++ more)
      | .closed a => { adapter := a, rest, halt := .closed, events := events ++ [closedEvent] }

/-- Goes on with a run: the frame kept from before is offered first. -/
def resume (moment : Nat → Moment) (a : Adapter σ ρ) (kept : Option Frame)
    (queue : List Frame) : Drained σ ρ :=
  match kept with
  | none => a.drain moment queue
  | some f =>
    match a.deliver f with
    | .busy => { adapter := a, rest := queue, halt := .held f, events := [] }
    | .done a events => (a.drain moment queue).after events
    | .closed a => { adapter := a, rest := queue, halt := .closed, events := [closedEvent] }

end Adapter

end EchoFilter
