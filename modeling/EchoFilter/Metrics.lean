import EchoFilter.Duration

/-!
Measures of the filter, and the counters that collect them in the process.

The filter reports what it does as a sequence of measures; anything that can take them one by one
is a recorder.  `Counters` adds them up in 64 bits, wrapping around, and keeps the last reported
cache size.
-/

namespace EchoFilter

/-- One thing the filter reports. -/
inductive Measure where
  /-- A frame was judged, in a length of time, and found a duplicate or not. -/
  | check (elapsed : Duration) (duplicate : Bool)
  /-- A frame broke the limits of a frame. -/
  | rejected
  /-- Entries aged out. -/
  | expired (count : Nat)
  /-- Entries were pushed out by number. -/
  | evicted (count : Nat)
  /-- The number of remembered signatures is now this. -/
  | cacheSize (size : Nat)
  deriving DecidableEq, Repr

/-- What takes measures. -/
class Recorder (ρ : Type) where
  record : ρ → Measure → ρ

export Recorder (record)

/-- A recorder that keeps nothing. -/
instance : Recorder Unit where
  record _ _ := ()

/-- Takes measures one after another. -/
def recordAll {ρ : Type} [Recorder ρ] (r : ρ) (ms : List Measure) : ρ :=
  ms.foldl record r

@[simp] theorem recordAll_nil {ρ : Type} [Recorder ρ] (r : ρ) : recordAll r [] = r := rfl

@[simp] theorem recordAll_cons {ρ : Type} [Recorder ρ] (r : ρ) (m : Measure) (ms : List Measure) :
    recordAll r (m :: ms) = recordAll (record r m) ms := rfl

theorem recordAll_append {ρ : Type} [Recorder ρ] (r : ρ) (ms ns : List Measure) :
    recordAll r (ms ++ ns) = recordAll (recordAll r ms) ns := by
  simp [recordAll]

/-- Counters of 64 bits that wrap around. -/
structure Counters where
  checked : UInt64 := 0
  suppressed : UInt64 := 0
  accepted : UInt64 := 0
  rejected : UInt64 := 0
  expired : UInt64 := 0
  evicted : UInt64 := 0
  cacheSize : UInt64 := 0
  /-- The summed length of all checks in nanoseconds. -/
  checkTime : UInt64 := 0
  deriving DecidableEq, Repr

namespace Counters

def zero : Counters := {}

instance : Recorder Counters where
  record c
    | .check elapsed duplicate =>
      let c := { c with
        checked := c.checked + 1
        checkTime := c.checkTime + UInt64.ofNat elapsed.nanoseconds }
      if duplicate then { c with suppressed := c.suppressed + 1 }
      else { c with accepted := c.accepted + 1 }
    | .rejected => { c with rejected := c.rejected + 1 }
    | .expired n => { c with expired := c.expired + UInt64.ofNat n }
    | .evicted n => { c with evicted := c.evicted + UInt64.ofNat n }
    | .cacheSize n => { c with cacheSize := UInt64.ofNat n }

/-- The average length of a check in whole nanoseconds; zero before the first. -/
def averageCheck (c : Counters) : UInt64 :=
  if c.checked = 0 then 0 else c.checkTime / c.checked

/-- The fraction of checked frames that were suppressed; zero before the first. -/
def suppressionRate (c : Counters) : Float :=
  if c.checked = 0 then 0 else c.suppressed.toFloat / c.checked.toFloat

end Counters

end EchoFilter
