import EchoFilter.Monitor
import EchoFilter.Proofs.Soundness

/-!
# Tallies — what is exported is what is kept

A detector counts inside each step what it does; its recorder is told afterwards, by other code and
by some measures only.  `Outcome.tally` says what one call adds.  The detector's own counts grow by
it (`Detector.tally_perform`), and so do the counters that take the measures of the call
(`Counters.Mirrors.record`), so the two never drift apart.
-/

namespace EchoFilter

instance : Add Tally where
  add t u :=
    { checked := t.checked + u.checked
      suppressed := t.suppressed + u.suppressed
      accepted := t.accepted + u.accepted
      expired := t.expired + u.expired
      evicted := t.evicted + u.evicted }

def Verdict.tally {K : Type} (v : Verdict K) : Tally where
  checked := 1
  suppressed := if v.duplicate then 1 else 0
  accepted := if v.duplicate then 0 else 1
  expired := v.expired
  evicted := if v.evicted.isSome then 1 else 0

/-- What a call adds to the lifetime counts. -/
def Outcome.tally : Outcome → Tally
  | .judged _ v => v.tally
  | .swept s => { expired := s.expired }
  | .reset _ | .refused _ | .clockMoved => {}

/-- Whether a call was answered with an error. -/
def Outcome.isRefused : Outcome → Bool
  | .refused _ => true
  | _ => false

/-! ## The detector's own counts -/

namespace Window

variable {K : Type} [Ord K] [Std.TransOrd K] [Std.LawfulEqOrd K] [DecidableEq K]

omit [Std.LawfulEqOrd K] [DecidableEq K] in
@[simp] theorem size_empty : (empty : Window K).size = 0 :=
  Std.ExtTreeMap.size_empty

theorem tally_sweep (lim : Limits) (w : Window K) (t : Time) :
    (w.sweep lim t).2.tally = w.tally + { expired := (w.sweep lim t).1.expired } := rfl

theorem tally_evict (lim : Limits) (w : Window K) :
    (w.evict lim).2.tally =
      w.tally + { evicted := if (w.evict lim).1.isSome then 1 else 0 } := by
  unfold evict
  split
  · rfl
  · cases w.ledger.oldest? <;> rfl

theorem tally_check (lim : Limits) (w : Window K) (k : K) (t : Time) :
    (w.check lim k t).2.tally = w.tally + (w.check lim k t).1.tally := by
  cases hrep : (w.sweep lim t).2.isRepeat lim k (w.clamp t) with
  | true => rw [check_of_repeat hrep]; rfl
  | false =>
    rw [check_of_new hrep]
    dsimp only
    rw [tally_evict]
    rfl

end Window

namespace Detector

theorem Answered.tally {lim : Limits} {w w' : Window Signature} {a : Option (Act Signature)}
    {o : Outcome} (h : Answered lim w a o w') : w'.tally = w.tally + o.tally := by
  cases h with
  | check id s t => exact Window.tally_check lim w s t
  | sweep t => exact Window.tally_sweep lim w t
  | reset => rfl
  | refused e => rfl
  | clockMoved => rfl

theorem tally_perform (d : Detector) (c : Call) :
    (d.perform c).2.window.tally = d.window.tally + (d.perform c).1.tally :=
  (d.answered_perform c).tally

end Detector

/-! ## The exported counters -/

namespace Counters

/-- The counters show a tally in 64 bits. -/
structure Mirrors (c : Counters) (t : Tally) : Prop where
  checked : c.checked = UInt64.ofNat t.checked
  suppressed : c.suppressed = UInt64.ofNat t.suppressed
  accepted : c.accepted = UInt64.ofNat t.accepted
  expired : c.expired = UInt64.ofNat t.expired
  evicted : c.evicted = UInt64.ofNat t.evicted

/-- The counters once the measures of a call are taken: its tally is added, an error counts as
rejected, and whatever touches the cache shows its new size. -/
def after (c : Counters) (n : Note) : Counters where
  checked := c.checked + UInt64.ofNat n.outcome.tally.checked
  suppressed := c.suppressed + UInt64.ofNat n.outcome.tally.suppressed
  accepted := c.accepted + UInt64.ofNat n.outcome.tally.accepted
  rejected := c.rejected + UInt64.ofNat (if n.outcome.isRefused then 1 else 0)
  expired := c.expired + UInt64.ofNat n.outcome.tally.expired
  evicted := c.evicted + UInt64.ofNat n.outcome.tally.evicted
  cacheSize :=
    match n.outcome with
    | .judged _ _ | .swept _ => UInt64.ofNat n.size
    | .reset _ => 0
    | .refused _ | .clockMoved => c.cacheSize
  checkTime :=
    match n.outcome with
    | .judged _ _ => c.checkTime + UInt64.ofNat n.elapsed.nanoseconds
    | _ => c.checkTime

theorem recordAll_expired (c : Counters) (n : Nat) :
    recordAll c (if 0 < n then [.expired n] else []) =
      { c with expired := c.expired + UInt64.ofNat n } := by
  split
  · rfl
  next hnone =>
    have hzero : n = 0 := by omega
    rw [hzero, show UInt64.ofNat 0 = 0 from rfl, UInt64.add_zero]
    rfl

theorem recordAll_evicted {K : Type} (c : Counters) (e : Option (K × Time)) :
    recordAll c (if e.isSome then [.evicted 1] else []) =
      { c with evicted := c.evicted + UInt64.ofNat (if e.isSome then 1 else 0) } := by
  split
  · rfl
  · rw [show UInt64.ofNat 0 = 0 from rfl, UInt64.add_zero]
    rfl

-- Nothing is lost by leaving out the measures that are zero.
theorem recordAll_measures (c : Counters) (n : Note) : recordAll c n.measures = c.after n := by
  obtain ⟨outcome, size, elapsed⟩ := n
  cases outcome with
  | judged id v =>
    unfold Note.measures
    dsimp only
    rw [recordAll_append, recordAll_append, recordAll_append, recordAll_expired, recordAll_evicted]
    cases hdup : v.duplicate <;>
      simp [record, after, Outcome.tally, Verdict.tally, Outcome.isRefused, hdup]
  | swept s => simp [Note.measures, record, after, Outcome.tally, Outcome.isRefused]
  | reset dropped => simp [Note.measures, record, after, Outcome.tally, Outcome.isRefused]
  | refused e => simp [Note.measures, record, after, Outcome.tally, Outcome.isRefused]
  | clockMoved => simp [Note.measures, after, Outcome.tally, Outcome.isRefused]

theorem Mirrors.after {c : Counters} {t : Tally} (h : c.Mirrors t) (n : Note) :
    (c.after n).Mirrors (t + n.outcome.tally) where
  checked := (congrArg (· + _) h.checked).trans (UInt64.ofNat_add _ _).symm
  suppressed := (congrArg (· + _) h.suppressed).trans (UInt64.ofNat_add _ _).symm
  accepted := (congrArg (· + _) h.accepted).trans (UInt64.ofNat_add _ _).symm
  expired := (congrArg (· + _) h.expired).trans (UInt64.ofNat_add _ _).symm
  evicted := (congrArg (· + _) h.evicted).trans (UInt64.ofNat_add _ _).symm

-- Where nothing is asked of the window, nothing is reported of its size.
theorem cacheSize_answered {lim : Limits} {w w' : Window Signature} {a : Option (Act Signature)}
    {o : Outcome} (h : Detector.Answered lim w a o w') {c : Counters}
    (hbefore : c.cacheSize.toNat = w.size) (hroom : (UInt64.ofNat w'.size).toNat = w'.size)
    (elapsed : Duration) : (c.after ⟨o, w'.size, elapsed⟩).cacheSize.toNat = w'.size := by
  cases h with
  | check id s t => exact hroom
  | sweep t => exact hroom
  | reset => exact Window.size_empty.symm
  | refused e => exact hbefore
  | clockMoved => exact hbefore

end Counters

/-! ## Calls on a shared detector -/

namespace Monitor

/-- Calls one after another, each reported before the next one starts and with the time it holds the
lock. -/
def run {ρ : Type} [Recorder ρ] (m : Monitor ρ) : List (Call × Duration) → List Outcome × Monitor ρ
  | [] => ([], m)
  | (c, elapsed) :: rest =>
    let (o, m) := m.call c elapsed
    let (os, m) := m.run rest
    (o :: os, m)

/-- The counters show the detector's own counts, the number of errors so far and the number of
remembered signatures. -/
structure InStep (m : Monitor Counters) (errors : Nat) : Prop where
  mirrors : m.recorder.Mirrors m.detector.window.tally
  rejected : m.recorder.rejected = UInt64.ofNat errors
  cacheSize : m.recorder.cacheSize.toNat = m.detector.size

variable {m : Monitor Counters} {errors : Nat}

theorem inStep_initial (config : Config) (hvalid : config.Valid) (clock : Clock) :
    InStep ⟨.initial config hvalid clock, .zero⟩ 0 where
  mirrors := ⟨rfl, rfl, rfl, rfl, rfl⟩
  rejected := rfl
  cacheSize := by
    show (0 : UInt64).toNat = (Window.empty : Window Signature).size
    rw [Window.size_empty]
    rfl

theorem recorder_call (m : Monitor Counters) (c : Call) (elapsed : Duration) :
    (m.call c elapsed).2.recorder = m.recorder.after (locked m.detector c elapsed).1 :=
  Counters.recordAll_measures _ _

-- The bound is a word, so the gauge has room for any size.
theorem toNat_ofNat_size {d : Detector} (h : d.Kept) : (UInt64.ofNat d.size).toNat = d.size := by
  have hsize : d.size ≤ d.config.maxCacheSize.toNat := h.coherent.size_le
  have hbound := d.config.maxCacheSize.toNat_lt
  rw [UInt64.toNat_ofNat']
  omega

theorem InStep.call (h : m.InStep errors) (hkept : m.detector.Kept) (c : Call)
    (elapsed : Duration) :
    (m.call c elapsed).2.InStep
      (errors + if (m.call c elapsed).1.isRefused then 1 else 0) where
  mirrors := by
    have htally := m.detector.tally_perform c
    rw [recorder_call]
    show Counters.Mirrors _ (m.detector.perform c).2.window.tally
    rw [htally]
    exact h.mirrors.after _
  rejected := by
    rw [recorder_call, UInt64.ofNat_add, ← h.rejected]
    rfl
  cacheSize := by
    rw [recorder_call]
    exact Counters.cacheSize_answered (m.detector.answered_perform c) h.cacheSize
      (toNat_ofNat_size (hkept.perform c)) elapsed

theorem InStep.run (h : m.InStep errors) (hkept : m.detector.Kept)
    (script : List (Call × Duration)) :
    (m.run script).2.InStep (errors + (m.run script).1.countP Outcome.isRefused) := by
  induction script generalizing m errors with
  | nil => exact h
  | cons first rest ih =>
    obtain ⟨c, elapsed⟩ := first
    have hrest := ih (h.call hkept c elapsed) (hkept.perform c)
    show ((m.call c elapsed).2.run rest).2.InStep (errors +
      ((m.call c elapsed).1 :: ((m.call c elapsed).2.run rest).1).countP Outcome.isRefused)
    rw [List.countP_cons, Nat.add_comm (List.countP _ _), ← Nat.add_assoc]
    exact hrest

theorem call_reset (m : Monitor Counters) (elapsed : Duration) :
    (m.call .reset elapsed).2.detector.window.tally = m.detector.window.tally ∧
      (m.call .reset elapsed).2.recorder = { m.recorder with cacheSize := 0 } :=
  ⟨rfl, rfl⟩

/-- **Exported counters and kept counts never drift.**  A valid configuration gives a detector, and
after any calls on it through a shared handle, failing ones included, the counters of its recorder
equal its own counts in 64 bits, the rejections are the calls that failed, and the gauge is the
number of remembered signatures; a reset then changes no count on either side and sets the gauge to
zero. -/
theorem never_drifts (config : Config) (clock : Clock) (hvalid : config.Valid) :
    ∃ d, Detector.create config clock = .ok d ∧ ∀ script : List (Call × Duration),
      (run ⟨d, Counters.zero⟩ script).2.InStep
        ((run ⟨d, Counters.zero⟩ script).1.countP Outcome.isRefused) ∧
      ∀ elapsed, ((run ⟨d, Counters.zero⟩ script).2.call .reset elapsed).2.detector.window.tally =
          (run ⟨d, Counters.zero⟩ script).2.detector.window.tally ∧
        ((run ⟨d, Counters.zero⟩ script).2.call .reset elapsed).2.recorder =
          { (run ⟨d, Counters.zero⟩ script).2.recorder with cacheSize := 0 } := by
  refine ⟨_, Detector.create_of_valid config clock hvalid, fun script => ⟨?_, ?_⟩⟩
  · have hrun := (inStep_initial config hvalid clock).run
      (Detector.kept_initial config hvalid clock) script
    rw [Nat.zero_add] at hrun
    exact hrun
  · exact call_reset _

/-- Room for one signature: an acceptance, a repeat, an error, an eviction, an expiry by sweep. -/
theorem never_drifts_one_entry :
    Config.Valid ⟨50, 1, .bits32, .recency, .clock⟩ ∧
      ∃ d, Detector.create ⟨50, 1, .bits32, .recency, .clock⟩ ⟨0⟩ = .ok d ∧
        ∃ m, m = (run ⟨d, Counters.zero⟩ [(.check 0x123 [1] (some 100), .zero),
            (.frame ⟨⟨0x123, by decide⟩, ⟨[1], by decide⟩, 7, "can0"⟩, .zero),
            (.check 0x20000000 [] none, .zero), (.check 0x124 [2] (some 110), .zero),
            (.sweep 200, .zero)]).2 ∧
          m.recorder =
            { checked := 3, suppressed := 1, accepted := 2, rejected := 1, expired := 1,
              evicted := 1 } ∧
          m.InStep 1 := by
  obtain ⟨d, hd, hrun⟩ := never_drifts ⟨50, 1, .bits32, .recency, .clock⟩ ⟨0⟩ (by decide)
  have hstep := (hrun [(.check 0x123 [1] (some 100), .zero),
    (.frame ⟨⟨0x123, by decide⟩, ⟨[1], by decide⟩, 7, "can0"⟩, .zero),
    (.check 0x20000000 [] none, .zero), (.check 0x124 [2] (some 110), .zero),
    (.sweep 200, .zero)]).1
  cases hd
  generalize herrors : List.countP _ _ = errors at hstep
  have hone : errors = 1 := by
    rw [← herrors]
    decide +kernel
  rw [hone] at hstep
  exact ⟨by decide, _, rfl, _, rfl, by decide +kernel, hstep⟩

end Monitor

end EchoFilter
