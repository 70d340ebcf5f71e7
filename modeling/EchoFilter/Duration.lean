/-!
Lengths of time in whole nanoseconds, and the points in time the filter works with.
-/

namespace EchoFilter

/-- A point in time, in milliseconds since an origin that nothing depends on. -/
abbrev Time := Nat

/-- A length of time. -/
structure Duration where
  nanoseconds : Nat
  deriving DecidableEq, Repr

namespace Duration

def zero : Duration := ⟨0⟩

def ofSeconds (seconds nanoseconds : Nat) : Duration :=
  ⟨seconds * 1000000000 + nanoseconds⟩

def ofMilliseconds (ms : Nat) : Duration :=
  ⟨ms * 1000000⟩

/-- Whole milliseconds; what is left over is dropped. -/
def milliseconds (d : Duration) : Nat :=
  d.nanoseconds / 1000000

@[simp] theorem milliseconds_ofMilliseconds (ms : Nat) : (ofMilliseconds ms).milliseconds = ms := by
  simp [ofMilliseconds, milliseconds]

/-- Whole seconds. -/
def seconds (d : Duration) : Nat :=
  d.nanoseconds / 1000000000

/-- The nanoseconds beyond the whole seconds. -/
def subsecond (d : Duration) : Nat :=
  d.nanoseconds % 1000000000

theorem ofSeconds_parts (d : Duration) : ofSeconds d.seconds d.subsecond = d := by
  cases d
  simp only [ofSeconds, seconds, subsecond, Duration.mk.injEq]
  omega

/-- The length in seconds as a floating-point number: whole seconds and the fraction are converted
on their own and then added. -/
def toFloat (d : Duration) : Float :=
  d.seconds.toUInt64.toFloat + d.subsecond.toUInt64.toFloat / 1000000000

end Duration

end EchoFilter
