import Std.Data.ExtTreeMap.Lemmas
import EchoFilter.Config
import EchoFilter.Ledger

/-!
The sliding window: which keys were seen recently enough to be repeats.

A window remembers each key twice.  `cache` holds the time it was last seen; `ledger` holds the
order and the times by which keys are forgotten, first by age and then, one at a time, by number.
Time never runs backwards here: a time before the mark counts as the mark.

The keys are arbitrary.  The detector uses signatures, and nothing in this module knows what they
are made of.
-/

namespace EchoFilter

/-- What bounds a window: its length, how many keys it may hold, and whether a repeat renews the
place of a key. -/
structure Limits where
  window : Time
  capacity : Nat
  policy : Policy
  deriving DecidableEq, Repr

/-- Counts over the lifetime of a window. -/
structure Tally where
  checked : Nat := 0
  suppressed : Nat := 0
  accepted : Nat := 0
  expired : Nat := 0
  evicted : Nat := 0
  deriving DecidableEq, Repr

/-- The remembered keys. -/
structure Window (K : Type) [Ord K] where
  /-- When each key was last seen. -/
  cache : Std.ExtTreeMap K Time
  /-- When each key was last placed, in that order. -/
  ledger : Ledger K
  /-- The latest time processed since the start or the last reset. -/
  mark : Option Time
  tally : Tally

/-- What one check found and did. -/
structure Verdict (K : Type) where
  key : K
  /-- The time the check was given. -/
  given : Time
  /-- The time it was processed at, never before the mark. -/
  now : Time
  duplicate : Bool
  /-- How many keys were forgotten by age. -/
  expired : Nat
  /-- The key forgotten by number, with its ledger time. -/
  evicted : Option (K × Time)
  deriving DecidableEq, Repr

/-- What one sweep did. -/
structure Sweep where
  given : Time
  now : Time
  expired : Nat
  deriving DecidableEq, Repr

namespace Window

variable {K : Type} [Ord K]

/-- The time a call at `t` is processed at. -/
def clamp (w : Window K) (t : Time) : Time :=
  match w.mark with
  | some m => max m t
  | none => t

theorem le_clamp (w : Window K) (t : Time) : t ≤ w.clamp t := by
  unfold clamp
  split
  · exact Nat.le_max_right _ _
  · exact Nat.le_refl _

variable [Std.TransOrd K]

def empty : Window K where
  cache := ∅
  ledger := .empty
  mark := none
  tally := {}

instance : Inhabited (Window K) := ⟨empty⟩

/-- The number of remembered keys. -/
def size (w : Window K) : Nat :=
  w.cache.size

/-- The counts with the current number of remembered keys. -/
def stats (w : Window K) : Tally × Nat :=
  (w.tally, w.size)

/-- Forgets all keys and the mark; the counts stay. -/
def reset (w : Window K) : Window K :=
  { empty with tally := w.tally }

def contains (w : Window K) (k : K) : Bool :=
  w.cache.contains k

def lastSeen? (w : Window K) (k : K) : Option Time :=
  w.cache[k]?

variable [Std.LawfulEqOrd K] [DecidableEq K]

/-- Moves the mark to `now` and forgets the keys at the head of the ledger whose time is more than a
window ago. -/
def expire (lim : Limits) (w : Window K) (now : Time) : Nat × Window K :=
  let (stale, ledger) := w.ledger.popAllBelow (now - lim.window)
  (stale.length,
    { cache := stale.foldl (fun cache e => cache.erase e.1) w.cache
      ledger
      mark := some now
      tally := { w.tally with expired := w.tally.expired + stale.length } })

/-- Whether a key was seen less than a window ago. -/
def isRepeat (lim : Limits) (w : Window K) (k : K) (now : Time) : Bool :=
  match w.cache[k]? with
  | some last => now - last < lim.window
  | none => false

/-- Notes a repeat. -/
def renew (lim : Limits) (w : Window K) (k : K) (now : Time) : Window K :=
  { w with
    cache := w.cache.insert k now
    ledger :=
      match lim.policy with
      | .recency => (w.ledger.touch k now).2
      | .firstInsertion => w.ledger
    tally := { w.tally with
      checked := w.tally.checked + 1
      suppressed := w.tally.suppressed + 1 } }

/-- Remembers an accepted key, new or not. -/
def remember (w : Window K) (k : K) (now : Time) : Window K :=
  { w with
    cache := w.cache.insert k now
    ledger := w.ledger.place k now
    tally := { w.tally with
      checked := w.tally.checked + 1
      accepted := w.tally.accepted + 1 } }

/-- Forgets the oldest key of the ledger if there are more keys than allowed. -/
def evict (lim : Limits) (w : Window K) : Option (K × Time) × Window K :=
  if w.size ≤ lim.capacity then (none, w)
  else
    match w.ledger.oldest? with
    | none => (none, w)
    | some e =>
      (some e,
        { w with
          cache := w.cache.erase e.1
          ledger := w.ledger.dropOldest
          tally := { w.tally with evicted := w.tally.evicted + 1 } })

/-- Checks one key: a repeat is renewed, anything else is accepted and may push out the oldest. -/
def check (lim : Limits) (w : Window K) (k : K) (t : Time) : Verdict K × Window K :=
  let now := w.clamp t
  let (expired, w) := w.expire lim now
  if w.isRepeat lim k now then
    ({ key := k, given := t, now, duplicate := true, expired, evicted := none },
      w.renew lim k now)
  else
    let (evicted, w) := (w.remember k now).evict lim
    ({ key := k, given := t, now, duplicate := false, expired, evicted }, w)

/-- Forgets by age alone. -/
def sweep (lim : Limits) (w : Window K) (t : Time) : Sweep × Window K :=
  let now := w.clamp t
  let (expired, w) := w.expire lim now
  ({ given := t, now, expired }, w)

end Window

end EchoFilter
