import EchoFilter.Detector
import EchoFilter.Metrics

/-!
A detector that several listeners share, and the recorder it reports to.

A call has two halves.  The locked half, `Monitor.locked`, runs on the detector and notes the
outcome and the number of remembered signatures at its end.  The reporting half takes the measures
of that note to the recorder, and may run later.  `Monitor.call` is both halves in a row.
-/

namespace EchoFilter

/-- What the locked half of a call leaves to be reported. -/
structure Note where
  outcome : Outcome
  /-- The number of remembered signatures when the lock was released. -/
  size : Nat
  /-- How long the lock was held. -/
  elapsed : Duration

namespace Note

/-- The measures of a call, in the order they are reported. -/
def measures (n : Note) : List Measure :=
  match n.outcome with
  | .judged _ v =>
    [.check n.elapsed v.duplicate]
      ++ (if 0 < v.expired then [.expired v.expired] else [])
      ++ (if v.evicted.isSome then [.evicted 1] else [])
      ++ [.cacheSize n.size]
  | .swept s => [.expired s.expired, .cacheSize n.size]
  | .reset _ => [.cacheSize 0]
  | .refused _ => [.rejected]
  | .clockMoved => []

end Note

/-- A shared detector with its recorder. -/
structure Monitor (ρ : Type) where
  detector : Detector
  recorder : ρ

namespace Monitor

variable {ρ : Type}

/-- The locked half of a call. -/
def locked (d : Detector) (c : Call) (elapsed : Duration) : Note × Detector :=
  let (outcome, d) := d.perform c
  ({ outcome, size := d.size, elapsed }, d)

/-- The same detector once the clock has moved. -/
def showing (m : Monitor ρ) (clock : Clock) : Monitor ρ :=
  { m with detector := { m.detector with clock } }

variable [Recorder ρ]

/-- The reporting half of a call. -/
def report (m : Monitor ρ) (n : Note) : Monitor ρ :=
  { m with recorder := recordAll m.recorder n.measures }

/-- One call, reported before the next one starts. -/
def call (m : Monitor ρ) (c : Call) (elapsed : Duration) : Outcome × Monitor ρ :=
  let (n, detector) := locked m.detector c elapsed
  (n.outcome, { m with detector }.report n)

/-- Counts a frame that was rejected before it reached the detector. -/
def reject (m : Monitor ρ) : Monitor ρ :=
  { m with recorder := record m.recorder .rejected }

end Monitor

end EchoFilter
