import EchoFilter.Config

/-!
The inlet: the bounded queue that all interfaces feed.

Frames leave in the order they came.  A handle gives out senders, one for each interface; the inlet
is open while the handle or any sender is left, and takes frames while there is a receiver.
-/

namespace EchoFilter

/-- Why a sender could not enqueue a frame. -/
inductive IngestError where
  | invalidFrame (error : FrameError)
  | queueClosed
  deriving DecidableEq, Repr

def IngestError.message : IngestError → String
  | .invalidFrame e => "Invalid frame: " ++ e.message
  | .queueClosed => "Ingest queue closed"

/-- One producer of frames. -/
structure Sender where
  interface : String
  attached : Bool := true
  deriving DecidableEq, Repr

structure Inlet where
  capacity : Nat
  /-- Frames waiting, oldest first. -/
  queue : List Frame := []
  /-- Whether the handle is left. -/
  handle : Bool := true
  senders : List Sender := []
  /-- Whether the receiver is left. -/
  receiving : Bool := true
  deriving DecidableEq, Repr

/-- What enqueuing came to. -/
inductive Enqueued where
  | sent
  /-- The queue was full and the frame was given up. -/
  | blocked
  | refused (error : IngestError)
  deriving DecidableEq, Repr

namespace Inlet

/-- An empty queue; a capacity of zero counts as one. -/
def ofCapacity (capacity : Nat) : Inlet where
  capacity := max capacity 1

def isOpen (q : Inlet) : Bool :=
  q.handle || q.senders.any Sender.attached

/-- Adds a sender for an interface; its index is the number of senders so far. -/
def attach (q : Inlet) (interface : String) : Inlet :=
  { q with senders := q.senders ++ [{ interface }] }

/-- The sender with an index, if it is still attached. -/
def sender? (q : Inlet) (i : Nat) : Option Sender :=
  q.senders[i]?.filter Sender.attached

def detach (q : Inlet) (i : Nat) : Inlet :=
  { q with senders := q.senders.modify i fun s => { s with attached := false } }

def dropHandle (q : Inlet) : Inlet :=
  { q with handle := false }

/-- Lets go of the receiver; what still waits is lost. -/
def close (q : Inlet) : Inlet :=
  { q with queue := [], receiving := false }

def enqueue (q : Inlet) (f : Frame) : Enqueued × Inlet :=
  if !q.receiving then (.refused .queueClosed, q)
  else if q.queue.length < q.capacity then (.sent, { q with queue := q.queue ++ [f] })
  else (.blocked, q)

end Inlet

end EchoFilter
