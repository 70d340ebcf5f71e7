import EchoFilter.Proofs.Alone

/-!
# Recorders — the counters of the process and the exported series agree

Two recorders were written apart, one into words of 64 bits and one into exported series with a
signed gauge and a histogram.  Given the same measures they show the same after each of them, which
is what `Series.Matches` says and every measure keeps.  What they show is what the measures come to,
modulo 2 ^ 64 (`Counters.Sums`).
-/

namespace EchoFilter

/-! ## What measures come to -/

namespace Measure

def tally : Measure → Tally
  | .check _ duplicate =>
    { checked := 1
      suppressed := if duplicate then 1 else 0
      accepted := if duplicate then 0 else 1 }
  | .expired n => { expired := n }
  | .evicted n => { evicted := n }
  | .rejected | .cacheSize _ => {}

def nanoseconds : Measure → Nat
  | .check elapsed _ => elapsed.nanoseconds
  | _ => 0

def size? : Measure → Option Nat
  | .cacheSize n => some n
  | _ => none

/-- All counts of the measures, without any bound on them. -/
def total (ms : List Measure) : Tally :=
  (ms.map tally).sum

/-- How long the checks took together, in nanoseconds. -/
def checkTime (ms : List Measure) : Nat :=
  (ms.map nanoseconds).sum

/-- The size that was reported last, or zero. -/
def lastSize (ms : List Measure) : Nat :=
  (ms.filterMap size?).getLast?.getD 0

theorem total_concat (ms : List Measure) (m : Measure) :
    total (ms ++ [m]) = total ms + m.tally := by
  simp [total]

theorem checkTime_concat (ms : List Measure) (m : Measure) :
    checkTime (ms ++ [m]) = checkTime ms + m.nanoseconds := by
  simp [checkTime]

theorem lastSize_concat (ms : List Measure) (m : Measure) :
    lastSize (ms ++ [m]) = m.size?.getD (lastSize ms) := by
  unfold lastSize
  rw [List.filterMap_append, List.filterMap_cons]
  cases m.size? <;> simp

end Measure

/-! ## The counters -/

namespace Counters

variable {c : Counters} {ms : List Measure}

/-- The counters show what the measures come to, in 64 bits. -/
structure Sums (c : Counters) (ms : List Measure) : Prop extends c.Mirrors (Measure.total ms) where
  rejected : c.rejected = UInt64.ofNat (ms.count .rejected)
  cacheSize : c.cacheSize = UInt64.ofNat (Measure.lastSize ms)
  checkTime : c.checkTime = UInt64.ofNat (Measure.checkTime ms)

theorem sums_zero : zero.Sums [] where
  toMirrors := ⟨rfl, rfl, rfl, rfl, rfl⟩
  rejected := rfl
  cacheSize := rfl
  checkTime := rfl

theorem Mirrors.record {t : Tally} (h : c.Mirrors t) (m : Measure) :
    (EchoFilter.record c m).Mirrors (t + m.tally) := by
  rw [Tally.add_def]
  cases m with
  | check elapsed duplicate =>
    cases duplicate <;> constructor <;>
      simp [EchoFilter.record, Measure.tally, h.checked, h.suppressed, h.accepted, h.expired,
        h.evicted]
  | rejected | cacheSize n => exact ⟨h.checked, h.suppressed, h.accepted, h.expired, h.evicted⟩
  | expired n | evicted n =>
    constructor <;>
      simp [EchoFilter.record, Measure.tally, h.checked, h.suppressed, h.accepted, h.expired,
        h.evicted]

theorem Sums.record (h : c.Sums ms) (m : Measure) : (EchoFilter.record c m).Sums (ms ++ [m]) where
  toMirrors := by
    rw [Measure.total_concat]
    exact h.toMirrors.record m
  rejected := by
    rw [List.count_append, UInt64.ofNat_add, ← h.rejected]
    cases m with
    | check elapsed duplicate => cases duplicate <;> exact (UInt64.add_zero _).symm
    | rejected => rfl
    | expired n | evicted n | cacheSize n => exact (UInt64.add_zero _).symm
  cacheSize := by
    rw [Measure.lastSize_concat]
    cases m with
    | check elapsed duplicate => cases duplicate <;> exact h.cacheSize
    | rejected | expired n | evicted n => exact h.cacheSize
    | cacheSize n => rfl
  checkTime := by
    rw [Measure.checkTime_concat, UInt64.ofNat_add, ← h.checkTime]
    cases m with
    | check elapsed duplicate => cases duplicate <;> rfl
    | rejected | expired n | evicted n | cacheSize n => exact (UInt64.add_zero _).symm

theorem sums_recordAll (ms : List Measure) : (recordAll zero ms).Sums ms := by
  induction ms using List.reverseRecOn with
  | nil => exact sums_zero
  | append_singleton ms m ih =>
    rw [recordAll_append]
    exact ih.record m

-- With no check, or so many that their number wrapped around to zero, nothing is divided.
theorem toNat_averageCheck (c : Counters) :
    c.averageCheck.toNat =
      if c.checked = 0 then 0 else c.checkTime.toNat / c.checked.toNat := by
  unfold averageCheck
  by_cases h : c.checked = 0
  · rw [if_pos h, if_pos h]
    rfl
  · rw [if_neg h, if_neg h, UInt64.toNat_div]

-- The number of checks wraps around to zero, and the next check counts as the first.
example :
    let c : Counters := { checked := 0xffffffffffffffff, checkTime := 7 }
    (record c (.check ⟨5⟩ true)).checked = 0 ∧ (record c (.check ⟨5⟩ true)).averageCheck = 0 ∧
      (recordAll c [.check ⟨5⟩ true, .check ⟨8⟩ false]).averageCheck = 20 := by
  decide

end Counters

/-! ## Both recorders -/

/-- A word read as a signed number is that number modulo 2 ^ 64. -/
theorem toInt_toInt64_emod (n : UInt64) : n.toInt64.toInt % 2 ^ 64 = n.toNat := by
  have hlt := n.toNat_lt
  rw [← Int64.toInt_toBitVec, UInt64.toBitVec_toInt64, BitVec.toInt_eq_toNat_cond]
  show (if 2 * n.toNat < 2 ^ 64 then (n.toNat : Int) else (n.toNat : Int) - 2 ^ 64) % 2 ^ 64 =
    n.toNat
  split <;> omega

/-- Series and counters that took the same measures, one after another. -/
structure Series.Matches (s : Series) (c : Counters) : Prop extends s.Shows c where
  /-- As many times were observed as frames were checked. -/
  samples : s.durations.count = c.checked
  balance : c.checked = c.suppressed + c.accepted
  /-- The gauge is signed: read modulo 2 ^ 64 it is the size. -/
  gauge : s.cacheEntries.toInt % 2 ^ 64 = c.cacheSize.toNat

namespace Series

theorem matches_zero : zero.Matches .zero where
  toShows := ⟨rfl, rfl, rfl, rfl, rfl, rfl, rfl⟩
  samples := rfl
  balance := rfl
  gauge := rfl

theorem Matches.record {s : Series} {c : Counters} (h : s.Matches c) (m : Measure) :
    (EchoFilter.record s m).Matches (EchoFilter.record c m) := by
  have hshows := h.toShows.record m
  have hgauge : (EchoFilter.record s m).cacheEntries.toInt % 2 ^ 64 =
      (EchoFilter.record c m).cacheSize.toNat := by
    rw [hshows.cacheEntries]
    exact toInt_toInt64_emod _
  cases m with
  | check elapsed duplicate =>
    have hsamples : s.durations.count + 1 = c.checked + 1 := congrArg (· + 1) h.samples
    cases duplicate with
    | true =>
      apply Matches.mk hshows hsamples _ hgauge
      show c.checked + 1 = c.suppressed + 1 + c.accepted
      rw [h.balance, UInt64.add_assoc, UInt64.add_comm c.accepted, ← UInt64.add_assoc]
    | false =>
      apply Matches.mk hshows hsamples _ hgauge
      show c.checked + 1 = c.suppressed + (c.accepted + 1)
      rw [h.balance, UInt64.add_assoc]
  | rejected | expired n | evicted n | cacheSize n => exact ⟨hshows, h.samples, h.balance, hgauge⟩

theorem Matches.recordAll {s : Series} {c : Counters} (h : s.Matches c) (ms : List Measure) :
    (EchoFilter.recordAll s ms).Matches (EchoFilter.recordAll c ms) := by
  induction ms generalizing s c with
  | nil => exact h
  | cons m rest ih => exact ih (h.record m)

end Series

/-- **The two recorders agree.**  From zero on, after any measures, the exported series show what
the counters of the process show: every count, the gauge by its two's complement, and as many
observed times as checks; checks are repeats and acceptances together.  Both come to what the
measures say, modulo 2 ^ 64, and the average check is the time of all checks, modulo 2 ^ 64, divided
by the counter of checks, or zero where that counter stands at zero. -/
theorem recorders_agree (ms : List Measure) :
    (recordAll Series.zero ms).Matches (recordAll Counters.zero ms) ∧
      (recordAll Counters.zero ms).Sums ms ∧
      (recordAll Counters.zero ms).averageCheck.toNat =
        if (recordAll Counters.zero ms).checked = 0 then 0
        else Measure.checkTime ms % 2 ^ 64 / (recordAll Counters.zero ms).checked.toNat := by
  have hsums := Counters.sums_recordAll ms
  refine ⟨Series.matches_zero.recordAll ms, hsums, ?_⟩
  rw [Counters.toNat_averageCheck, hsums.checkTime, UInt64.toNat_ofNat']

-- A time beyond 64 bits of nanoseconds, a count that wraps around, and a gauge that turns negative.
example :
    let ms : List Measure := [.check ⟨2 ^ 64 + 5⟩ true, .expired (2 ^ 64 - 1), .check ⟨8⟩ false,
      .rejected, .expired 3, .evicted 1, .cacheSize (2 ^ 64 - 2)]
    recordAll Counters.zero ms =
        { checked := 2, suppressed := 1, accepted := 1, rejected := 1, expired := 2, evicted := 1,
          cacheSize := 0xfffffffffffffffe, checkTime := 13 } ∧
      (recordAll Counters.zero ms).averageCheck = 6 ∧
      (recordAll Series.zero ms).cacheEntries = -2 ∧
      (recordAll Series.zero ms).durations.count = 2 := by
  decide +kernel

end EchoFilter
