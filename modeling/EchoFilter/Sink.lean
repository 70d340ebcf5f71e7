import EchoFilter.Event
import EchoFilter.Frame

/-!
Sinks: where the filter delivers the frames that are not repeats.

A sink is a state machine that answers each delivery, or asks to be offered the frame again later.
`Channel` is the sink that downstream decoders read from: a bounded buffer with two ends.
-/

namespace EchoFilter

/-- Why a sink did not take a frame. -/
inductive SinkError where
  | closed
  | rejected (reason : String)
  deriving DecidableEq, Repr

def SinkError.message : SinkError → String
  | .closed => "Downstream sink closed"
  | .rejected reason => "Downstream sink rejected frame: " ++ reason

/-- The ways of a sink over its states. -/
class Sink (σ : Type) where
  /-- The events of starting to deliver a frame. -/
  announce : Frame → List Event := fun _ => []
  /-- The answer to a delivery and the state after it; no answer while the sink is busy. -/
  offer : σ → Frame → Option (Except SinkError Unit × σ)
  /-- The state once nobody delivers any more. -/
  release : σ → σ := id

/-- A bounded buffer between the filter and a reader. -/
structure Channel where
  capacity : Nat
  /-- Frames delivered and not yet read, oldest first. -/
  buffer : List Frame := []
  /-- Whether somebody may still deliver. -/
  writing : Bool := true
  /-- Whether somebody may still read. -/
  reading : Bool := true
  deriving DecidableEq, Repr

namespace Channel

/-- An empty channel; a capacity of zero counts as one. -/
def ofCapacity (capacity : Nat) : Channel where
  capacity := max capacity 1

/-- What reading comes to. -/
inductive Reading where
  | frame (f : Frame)
  | empty
  /-- Drained, and nobody delivers any more. -/
  | disconnected
  deriving DecidableEq, Repr

def receive (c : Channel) : Reading × Channel :=
  match c.buffer with
  | f :: rest => (.frame f, { c with buffer := rest })
  | [] => (if c.writing && c.reading then .empty else .disconnected, c)

/-- Stops reading; what was not read is lost. -/
def close (c : Channel) : Channel :=
  { c with buffer := [], reading := false }

/-- A closed channel refuses, a full one is busy, any other appends. -/
instance : Sink Channel where
  announce f := [.onFrame .trace "Frame forwarded downstream" f.interface f.id]
  offer c f :=
    if !c.reading then some (.error .closed, c)
    else if c.buffer.length < c.capacity then
      some (.ok (), { c with buffer := c.buffer ++ [f] })
    else none
  release c := { c with writing := false }

end Channel

end EchoFilter
