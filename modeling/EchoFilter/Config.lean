import EchoFilter.Duration
import EchoFilter.Signature

/-!
Configuration of the duplicate filter.

A configuration has a window, a bound on the number of remembered signatures, and three choices
with defaults: the stored signature width, what a repeat does to the place of an entry in the
ledger, and where the time comes from.  `Config.validate` refuses a zero window before a zero bound;
`Draft` collects settings one by one and ends in the same check.
-/

namespace EchoFilter

/-- What a repeat of a remembered frame does to its entry in the ledger. -/
inductive Policy where
  /-- The entry moves to the tail with the time of the repeat. -/
  | recency
  /-- The entry keeps the place and time of its acceptance. -/
  | firstInsertion
  deriving DecidableEq, Repr

namespace Policy

instance : Inhabited Policy := ⟨.recency⟩

/-- The name in written configurations. -/
def name : Policy → String
  | .recency => "recency"
  | .firstInsertion => "first-insertion"

/-- The name in log lines. -/
def label : Policy → String
  | .recency => "Recency"
  | .firstInsertion => "FirstInsertion"

/-- A setting compared without regard to the case of ASCII letters; other letters keep theirs. -/
def lowered (s : String) : String :=
  s.map Char.toLower

/-- The names a setting may use for a policy, in lower case. -/
def ofLowered? (s : String) : Option Policy :=
  if s = "recency" ∨ s = "lru" then some .recency
  else if s = "first-insertion" ∨ s = "insertion" ∨ s = "fifo" then some .firstInsertion
  else none

/-- Reads a policy name; the error is the text that explains the refusal. -/
def parse (s : String) : Except String Policy :=
  match ofLowered? (lowered s) with
  | some p => .ok p
  | none => .error ("unknown ledger policy: " ++ lowered s)

end Policy

/-- Where a detector takes the current time from. -/
inductive TimeBase where
  /-- The detector's clock; the stamps of frames are ignored. -/
  | clock
  /-- The stamp of each frame; a check without a frame runs at the latest time seen. -/
  | frameArrival
  deriving DecidableEq, Repr

namespace TimeBase

instance : Inhabited TimeBase := ⟨.clock⟩

/-- The name in written configurations. -/
def name : TimeBase → String
  | .clock => "clock"
  | .frameArrival => "frame-arrival"

/-- The name in log lines. -/
def label : TimeBase → String
  | .clock => "Clock"
  | .frameArrival => "FrameArrival"

end TimeBase

/-- Why a filter refuses a configuration or a frame. -/
inductive FilterError where
  | invalidWindow
  | invalidCacheSize
  | missingField (name : String)
  | invalidWidth (bits : Nat)
  | frame (error : FrameError)
  deriving DecidableEq, Repr

def FilterError.message : FilterError → String
  | .invalidWindow => "Invalid window: window_ms must be > 0"
  | .invalidCacheSize => "Invalid cache size: max_cache_size must be > 0"
  | .missingField name => "Missing required configuration field: " ++ name
  | .invalidWidth bits =>
    "Invalid signature width: " ++ Numeral.text bits ++ " bits (expected 32, 64 or 128)"
  | .frame e => "Rejected frame: " ++ e.message

structure Config where
  /-- Equal frames less than this many milliseconds apart are one event. -/
  windowMs : UInt64
  /-- The most signatures remembered at once. -/
  maxCacheSize : UInt64
  width : Width := default
  policy : Policy := default
  timeBase : TimeBase := default
  deriving DecidableEq, Repr

namespace Config

/-- What a filter can run on: a window and a bound above zero. -/
def Valid (c : Config) : Prop :=
  0 < c.windowMs.toNat ∧ 0 < c.maxCacheSize.toNat

instance (c : Config) : Decidable c.Valid :=
  inferInstanceAs (Decidable (_ ∧ _))

def validate (c : Config) : Except FilterError Unit :=
  if c.windowMs = 0 then .error .invalidWindow
  else if c.maxCacheSize = 0 then .error .invalidCacheSize
  else .ok ()

theorem validate_eq_ok_iff {c : Config} : c.validate = .ok () ↔ c.Valid := by
  have hpos : ∀ x : UInt64, 0 < x.toNat ↔ ¬ x = 0 := fun x => by
    rw [← UInt64.toNat_inj, UInt64.toNat_zero]
    omega
  unfold validate Valid
  rw [hpos, hpos]
  by_cases hw : c.windowMs = 0
  · simp [hw]
  · by_cases hm : c.maxCacheSize = 0 <;> simp [hw, hm]

/-- A validated configuration with the default choices. -/
def create (windowMs maxCacheSize : UInt64) : Except FilterError Config :=
  let c : Config := { windowMs, maxCacheSize }
  match c.validate with
  | .ok () => .ok c
  | .error e => .error e

/-- Starting values for a bridged vehicle bus: fifty milliseconds cover the latency of a bridge, and
4096 entries the distinct ids of a busy bus in that time. -/
def recommended : Config where
  windowMs := 50
  maxCacheSize := 4096

theorem recommended_valid : recommended.Valid := by decide

def window (c : Config) : Duration :=
  .ofMilliseconds c.windowMs.toNat

end Config

/-! ## Building a configuration setting by setting -/

/-- A configuration in the making. -/
structure Draft where
  windowMs : Option UInt64 := none
  maxCacheSize : Option UInt64 := none
  width : Option Width := none
  policy : Option Policy := none
  timeBase : Option TimeBase := none
  deriving DecidableEq, Repr

/-- One setting of a draft. -/
inductive Setting where
  | windowMs (ms : UInt64)
  /-- A window given as a length of time; both forms set the same field. -/
  | window (d : Duration)
  | maxCacheSize (entries : UInt64)
  | width (w : Width)
  | policy (p : Policy)
  | timeBase (t : TimeBase)
  deriving DecidableEq, Repr

/-- Whole milliseconds of a length of time; a length beyond 64 bits becomes the longest window. -/
def saturatedMs (d : Duration) : UInt64 :=
  UInt64.ofNat (min d.milliseconds (UInt64.size - 1))

theorem toNat_saturatedMs (d : Duration) :
    (saturatedMs d).toNat = min d.milliseconds (UInt64.size - 1) := by
  unfold saturatedMs UInt64.size
  rw [UInt64.toNat_ofNat']
  omega

/-- Setting the window to a configuration's own window changes nothing. -/
theorem saturatedMs_window (c : Config) : saturatedMs c.window = c.windowMs := by
  have h : c.windowMs.toNat < UInt64.size := c.windowMs.toNat_lt
  rw [← UInt64.toNat_inj, toNat_saturatedMs]
  simp only [Config.window, Duration.milliseconds_ofMilliseconds]
  omega

namespace Draft

/-- A later setting of a field replaces an earlier one. -/
def set (d : Draft) : Setting → Draft
  | .windowMs ms => { d with windowMs := some ms }
  | .window len => { d with windowMs := some (saturatedMs len) }
  | .maxCacheSize n => { d with maxCacheSize := some n }
  | .width w => { d with width := some w }
  | .policy p => { d with policy := some p }
  | .timeBase t => { d with timeBase := some t }

/-- Window and bound have no default; the other choices do. -/
def build (d : Draft) : Except FilterError Config :=
  match d.windowMs, d.maxCacheSize with
  | none, _ => .error (.missingField "window_ms")
  | some _, none => .error (.missingField "max_cache_size")
  | some windowMs, some maxCacheSize =>
    let c : Config := {
      windowMs, maxCacheSize
      width := d.width.getD default
      policy := d.policy.getD default
      timeBase := d.timeBase.getD default }
    match c.validate with
    | .ok () => .ok c
    | .error e => .error e

end Draft

end EchoFilter
