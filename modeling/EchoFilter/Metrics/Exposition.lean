import EchoFilter.Metrics
import EchoFilter.Text.Shortest

/-!
Exported series of the filter and their text exposition.

The series are counters of 64 bits, one signed gauge, and a histogram of check times.  In the text
each family has a help line and a type line before its samples, and families come in the order of
their names.  Sample values are floating-point numbers, so counts beyond 2 ^ 53 lose digits.
-/

namespace EchoFilter

/-! ## Histograms -/

/-- A histogram over ascending bounds. -/
structure Histogram where
  bounds : List Float
  /-- For each bound, how many observations it is the first to hold. -/
  buckets : List UInt64
  count : UInt64
  sum : Float

namespace Histogram

/-- `n` bounds, each twice the one before. -/
def doubling : Nat → Float → List Float
  | 0, _ => []
  | n + 1, bound => bound :: doubling n (bound * 2)

def ofBounds (bounds : List Float) : Histogram where
  bounds
  buckets := bounds.map fun _ => 0
  count := 0
  sum := 0

/-- Counts a value in the first bucket whose bound it does not exceed, if there is one. -/
def bump (value : Float) : List Float → List UInt64 → List UInt64
  | bound :: bounds, n :: buckets =>
    if value ≤ bound then (n + 1) :: buckets else n :: bump value bounds buckets
  | _, buckets => buckets

def observe (h : Histogram) (value : Float) : Histogram :=
  { h with
    buckets := bump value h.bounds h.buckets
    count := h.count + 1
    sum := h.sum + value }

/-- Running totals, starting from `acc`. -/
def totals (acc : UInt64) : List UInt64 → List UInt64
  | [] => []
  | n :: rest => (acc + n) :: totals (acc + n) rest

/-- For each bound, how many observations did not exceed it. -/
def cumulative (h : Histogram) : List UInt64 :=
  totals 0 h.buckets

end Histogram

/-! ## Series -/

/-- The exported series. -/
structure Series where
  checked : UInt64
  suppressed : UInt64
  accepted : UInt64
  expired : UInt64
  evicted : UInt64
  rejected : UInt64
  cacheEntries : Int64
  durations : Histogram

namespace Series

/-- All series at zero; check times have sixteen bounds from a tenth of a microsecond up. -/
def zero : Series where
  checked := 0
  suppressed := 0
  accepted := 0
  expired := 0
  evicted := 0
  rejected := 0
  cacheEntries := 0
  durations := .ofBounds (Histogram.doubling 16 0.0000001)

/-- Observes a length of time on its own, without a check. -/
def time (s : Series) (elapsed : Duration) : Series :=
  { s with durations := s.durations.observe elapsed.toFloat }

instance : Recorder Series where
  record s
    | .check elapsed duplicate =>
      let s := { s.time elapsed with checked := s.checked + 1 }
      if duplicate then { s with suppressed := s.suppressed + 1 }
      else { s with accepted := s.accepted + 1 }
    | .rejected => { s with rejected := s.rejected + 1 }
    | .expired n => { s with expired := s.expired + UInt64.ofNat n }
    | .evicted n => { s with evicted := s.evicted + UInt64.ofNat n }
    | .cacheSize n => { s with cacheEntries := (UInt64.ofNat n).toInt64 }

end Series

/-! ## Text -/

inductive FamilyKind where
  | counter
  | gauge
  | histogram
  deriving DecidableEq, Repr

def FamilyKind.name : FamilyKind → String
  | .counter => "counter"
  | .gauge => "gauge"
  | .histogram => "histogram"

/-- A family of samples; each sample is what follows the name, and a value. -/
structure Family where
  name : String
  help : String
  kind : FamilyKind
  samples : List (String × Float)

namespace Family

def lines (f : Family) : List String :=
  ("# HELP " ++ f.name ++ " " ++ f.help) :: ("# TYPE " ++ f.name ++ " " ++ f.kind.name) ::
    f.samples.map fun s => f.name ++ s.1 ++ " " ++ Shortest.text s.2

def counter (name help : String) (n : UInt64) : Family :=
  { name, help, kind := .counter, samples := [("", n.toFloat)] }

def gauge (name help : String) (n : Int64) : Family :=
  { name, help, kind := .gauge, samples := [("", n.toFloat)] }

/-- The sample of one bucket. -/
def bucket (bound : String) (n : UInt64) : String × Float :=
  ("_bucket\x7ble=\"" ++ bound ++ "\"\x7d", n.toFloat)

/-- Buckets in ascending order, closed by the unbounded one, then sum and count. -/
def histogram (name help : String) (h : Histogram) : Family where
  name
  help
  kind := .histogram
  samples :=
    (h.bounds.zip h.cumulative).map (fun b => bucket (Shortest.text b.1) b.2) ++
      [bucket "+Inf" h.count, ("_sum", h.sum), ("_count", h.count.toFloat)]

end Family

namespace Series

/-- The families in the order of their names. -/
def families (s : Series) : List Family := [
  .gauge "cb_dedup_cache_entries" "Number of signatures currently cached" s.cacheEntries,
  .histogram "cb_dedup_check_duration_seconds"
    "Time spent deciding whether a frame is a duplicate" s.durations,
  .counter "cb_dedup_duplicates_suppressed_total"
    "Total number of frames suppressed as duplicates" s.suppressed,
  .counter "cb_dedup_entries_evicted_total"
    "Cache entries evicted while still inside the window (cache full)" s.evicted,
  .counter "cb_dedup_entries_expired_total"
    "Cache entries removed because they aged out of the window" s.expired,
  .counter "cb_dedup_frames_accepted_total"
    "Total number of frames accepted as new occurrences" s.accepted,
  .counter "cb_dedup_frames_checked_total"
    "Total number of frames checked for duplicates" s.checked,
  .counter "cb_ingest_frames_rejected_total"
    "Frames rejected before deduplication (oversized payload or id)" s.rejected]

def exposition (s : Series) : List String :=
  s.families.flatMap Family.lines

end Series

end EchoFilter
