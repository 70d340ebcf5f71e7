import EchoFilter.Metrics.Exposition
import EchoFilter.Proofs.Quiescence
import EchoFilter.Proofs.Refusals
import EchoFilter.Proofs.Timelines

/-!
# Alone — a detector without a pipeline around it, and what a recorder shows of it

The frames that a detector run alone lets pass are those that an adapter hands to its sink
(`Detector.Alike.firsts_eq`), whatever the clock showed.  The exported series follow the counters of
the process (`Series.Shows`), and those follow the detector's own counts.
-/

namespace EchoFilter

/-! ## The exported series -/

namespace Series

/-- The series show what the counters count. -/
structure Shows (s : Series) (c : Counters) : Prop where
  checked : s.checked = c.checked
  suppressed : s.suppressed = c.suppressed
  accepted : s.accepted = c.accepted
  rejected : s.rejected = c.rejected
  expired : s.expired = c.expired
  evicted : s.evicted = c.evicted
  cacheEntries : s.cacheEntries = c.cacheSize.toInt64

/-- Counters that the series show. -/
def counted (s : Series) : Counters where
  checked := s.checked
  suppressed := s.suppressed
  accepted := s.accepted
  rejected := s.rejected
  expired := s.expired
  evicted := s.evicted
  cacheSize := s.cacheEntries.toUInt64

theorem shows_counted (s : Series) : s.Shows s.counted :=
  ⟨rfl, rfl, rfl, rfl, rfl, rfl, rfl⟩

theorem Shows.record {s : Series} {c : Counters} (h : s.Shows c) (m : Measure) :
    (EchoFilter.record s m).Shows (EchoFilter.record c m) := by
  obtain ⟨hchecked, hsuppressed, haccepted, hrejected, hexpired, hevicted, hsize⟩ := h
  cases m with
  | check elapsed duplicate =>
    have hone := congrArg (· + 1) hchecked
    cases duplicate with
    | true =>
      exact ⟨hone, congrArg (· + 1) hsuppressed, haccepted, hrejected, hexpired, hevicted, hsize⟩
    | false =>
      exact ⟨hone, hsuppressed, congrArg (· + 1) haccepted, hrejected, hexpired, hevicted, hsize⟩
  | rejected =>
    exact ⟨hchecked, hsuppressed, haccepted, congrArg (· + 1) hrejected, hexpired, hevicted, hsize⟩
  | expired n =>
    exact ⟨hchecked, hsuppressed, haccepted, hrejected, congrArg (· + UInt64.ofNat n) hexpired,
      hevicted, hsize⟩
  | evicted n =>
    exact ⟨hchecked, hsuppressed, haccepted, hrejected, hexpired,
      congrArg (· + UInt64.ofNat n) hevicted, hsize⟩
  | cacheSize n => exact ⟨hchecked, hsuppressed, haccepted, hrejected, hexpired, hevicted, rfl⟩

theorem Shows.recordAll {s : Series} {c : Counters} (h : s.Shows c) (ms : List Measure) :
    (EchoFilter.recordAll s ms).Shows (EchoFilter.recordAll c ms) := by
  induction ms generalizing s c with
  | nil => exact h
  | cons m rest ih => exact ih (h.record m)

theorem rejected_recordAll (s : Series) {ms : List Measure} (h : ∀ m ∈ ms, m ≠ .rejected) :
    (recordAll s ms).rejected = s.rejected := by
  induction ms generalizing s with
  | nil => rfl
  | cons m rest ih =>
    rw [recordAll_cons, ih _ fun m' hm' => h m' (List.mem_cons_of_mem _ hm')]
    cases m with
    | check elapsed duplicate => cases duplicate <;> rfl
    | rejected => exact absurd rfl (h _ List.mem_cons_self)
    | expired n | evicted n | cacheSize n => rfl

-- Only a check is observed in the histogram.
theorem count_recordAll (s : Series) (ms : List Measure) :
    (recordAll s ms).durations.count =
      s.durations.count + UInt64.ofNat (ms.filterMap Measure.answer?).length := by
  induction ms generalizing s with
  | nil => exact (UInt64.add_zero _).symm
  | cons m rest ih =>
    rw [recordAll_cons, ih]
    cases m with
    | check elapsed duplicate =>
      have hone :
          (record s (.check elapsed duplicate)).durations.count = s.durations.count + 1 := by
        cases duplicate <;> rfl
      have hanswer : (Measure.check elapsed duplicate).answer? = some duplicate := rfl
      rw [hone, List.filterMap_cons_some hanswer, List.length_cons, Nat.add_comm, UInt64.ofNat_add,
        UInt64.add_assoc]
      rfl
    | rejected | expired n | evicted n | cacheSize n => rfl

end Series

namespace Counters

/-- A tally that the counters show. -/
def tally (c : Counters) : Tally where
  checked := c.checked.toNat
  suppressed := c.suppressed.toNat
  accepted := c.accepted.toNat
  expired := c.expired.toNat
  evicted := c.evicted.toNat

theorem mirrors_tally (c : Counters) : c.Mirrors c.tally where
  checked := UInt64.ofNat_toNat.symm
  suppressed := UInt64.ofNat_toNat.symm
  accepted := UInt64.ofNat_toNat.symm
  expired := UInt64.ofNat_toNat.symm
  evicted := UInt64.ofNat_toNat.symm

/-- Rejections can be counted after everything else. -/
theorem recordAll_eq_spurn (c : Counters) (ms : List Measure) :
    recordAll c ms =
      (recordAll c (ms.filter fun m => m ≠ .rejected)).spurn (ms.count .rejected) := by
  have hone (c : Counters) : record c .rejected = c.spurn 1 := by
    have hrecord := c.record_rejected_spurn 0
    rw [spurn_zero] at hrecord
    exact hrecord
  induction ms generalizing c with
  | nil => exact c.spurn_zero.symm
  | cons m rest ih =>
    by_cases hm : m = .rejected
    · rw [hm, recordAll_cons, hone, recordAll_spurn, ih, ← hone, record_rejected_spurn,
        List.filter_cons_of_neg (by simp), List.count_cons_self]
    · rw [recordAll_cons, ih, List.filter_cons_of_pos (by simp [hm]), recordAll_cons,
        List.count_cons_of_ne hm]

end Counters

/-! ## A detector run alone -/

namespace Detector

/-- The frames that are no duplicates when the detector judges them all, in order. -/
def firsts (d : Detector) (frames : List Frame) : List Frame :=
  (frames.zip (d.run (frames.map .frame)).1).filterMap fun (f, o) =>
    if o.isDuplicate then none else some f

variable {d d' : Detector}

-- Where frames bring the time, the moments at which they are judged do not matter.
theorem Alike.run_frames (h : d.Alike d') (hbase : d.config.timeBase = .frameArrival)
    (moment : Nat → Moment) (n : Nat) (frames : List Frame) :
    (d'.run (frames.map .frame)).1 = (d.watch moment n frames).1.map Note.outcome ∧
      (d.watch moment n frames).2.Alike (d'.run (frames.map .frame)).2 := by
  induction frames generalizing d d' n with
  | nil => exact ⟨rfl, h⟩
  | cons f rest ih =>
    have hset : Alike { d with clock := (moment n).clock } d' :=
      ⟨h.config, h.window, fun hclock => by rw [hbase] at hclock; cases hclock⟩
    obtain ⟨hanswer, hnext⟩ := hset.perform (.same (.frame f))
    have hbase' : (d.judge f (moment n)).2.config.timeBase = .frameArrival := by
      rw [config_judge, hbase]
    obtain ⟨hanswers, hlast⟩ := ih hnext hbase' (n + 1)
    rw [List.map_cons, run_cons, hanswer, hanswers]
    exact ⟨rfl, hlast⟩

theorem passed_eq (frames : List Frame) {notes : List Note} (h : frames.length = notes.length) :
    passed frames notes = (frames.zip (notes.map Note.outcome)).filterMap fun (f, o) =>
      if o.isDuplicate then none else some f := by
  induction frames generalizing notes with
  | nil => rw [List.zip_nil_left, List.filterMap_nil, passed.eq_def]
  | cons f rest ih =>
    cases notes with
    | nil => cases h
    | cons n notes =>
      rw [passed, ih (Nat.succ.inj h), List.map_cons, List.zip_cons_cons, List.filterMap_cons]
      cases hdup : n.outcome.isDuplicate with
      | true => simp [Note.isDuplicate, hdup]
      | false => simp [Note.isDuplicate, hdup]

theorem Alike.firsts_eq (h : d.Alike d') (hbase : d.config.timeBase = .frameArrival)
    (moment : Nat → Moment) (frames : List Frame) :
    d'.firsts frames = passed frames (d.watch moment 0 frames).1 := by
  rw [firsts, (h.run_frames hbase moment 0 frames).1, passed_eq _ (length_watch ..).symm]

theorem tally_watch (moment : Nat → Moment) (n : Nat) (d : Detector) (frames : List Frame) :
    (d.watch moment n frames).2.window.tally =
      d.window.tally + Note.total (d.watch moment n frames).1 := by
  induction frames generalizing n d with
  | nil => rfl
  | cons f rest ih =>
    have hjudge := tally_perform { d with clock := (moment n).clock } (.frame f)
    rw [watch, ih, Note.total_cons, ← add_assoc]
    exact congrArg (· + _) hjudge

theorem size_watch (moment : Nat → Moment) (n : Nat) (d : Detector) (frames : List Frame) :
    (d.watch moment n frames).2.size = Note.lastSize (d.watch moment n frames).1 d.size := by
  induction frames generalizing n d with
  | nil => rfl
  | cons f rest ih =>
    have hjudge := size_perform { d with clock := (moment n).clock } (.frame f) (moment n).elapsed
    rw [watch, ih, Note.lastSize_cons]
    exact congrArg _ hjudge

-- Every note on a frame has a size, so the size before the first does not matter.
theorem lastSize_watch (moment : Nat → Moment) (d : Detector) {frames : List Frame}
    (h : frames ≠ []) (before : Nat) :
    Note.lastSize (d.watch moment 0 frames).1 before = (d.watch moment 0 frames).2.size := by
  rw [size_watch]
  cases frames with
  | nil => exact absurd rfl h
  | cons f rest => rw [watch, Note.lastSize_cons, Note.lastSize_cons]; rfl

end Detector

/-! ## Series beside a detector -/

/-- From `before` to `after` the series count what a window counts that was empty before the frames;
rejections are left out. -/
structure Window.Shown (w : Window Signature) (before after : Series) (frames : List Frame) :
    Prop where
  checked : after.checked = before.checked + UInt64.ofNat w.tally.checked
  suppressed : after.suppressed = before.suppressed + UInt64.ofNat w.tally.suppressed
  accepted : after.accepted = before.accepted + UInt64.ofNat w.tally.accepted
  expired : after.expired = before.expired + UInt64.ofNat w.tally.expired
  evicted : after.evicted = before.evicted + UInt64.ofNat w.tally.evicted
  cacheEntries : after.cacheEntries =
    if frames = [] then before.cacheEntries else (UInt64.ofNat w.size).toInt64
  timings : after.durations.count = before.durations.count + UInt64.ofNat frames.length

theorem Measured.shown {d : Detector} (hfresh : d.window = .empty) (moment : Nat → Moment)
    {frames : List Frame} {before after : Series}
    (h : Measured (d.watch moment 0 frames).1 before after) :
    (d.watch moment 0 frames).2.window.Shown before after frames := by
  have htally := d.tally_watch moment 0 frames
  have hsize (hframes : frames ≠ []) := d.lastSize_watch moment hframes
  have hlength := d.length_watch moment 0 frames
  generalize (d.watch moment 0 frames).1 = notes at *
  generalize (d.watch moment 0 frames).2 = last at *
  obtain ⟨measures, rfl, hfilter, hanswers⟩ := h
  have hzero : d.window.tally = 0 := by
    rw [hfresh]
    rfl
  rw [hzero, zero_add] at htally
  -- The counters of the process stand between the series and the detector.
  have hshows := before.shows_counted.recordAll measures
  rw [Counters.recordAll_eq_spurn, hfilter, Counters.recordAll_flatMap] at hshows
  have hmirrors := before.counted.mirrors_tally.foldl_after notes
  rw [← htally] at hmirrors
  have hgrown (n : UInt64) (k : Nat) : UInt64.ofNat (n.toNat + k) = n + UInt64.ofNat k := by
    rw [UInt64.ofNat_add, UInt64.ofNat_toNat]
  exact
    { checked := hshows.checked.trans (hmirrors.checked.trans (hgrown _ _))
      suppressed := hshows.suppressed.trans (hmirrors.suppressed.trans (hgrown _ _))
      accepted := hshows.accepted.trans (hmirrors.accepted.trans (hgrown _ _))
      expired := hshows.expired.trans (hmirrors.expired.trans (hgrown _ _))
      evicted := hshows.evicted.trans (hmirrors.evicted.trans (hgrown _ _))
      cacheEntries := by
        rw [hshows.cacheEntries]
        split
        next hnil =>
          rw [hnil, List.length_nil, List.length_eq_zero_iff] at hlength
          rw [hlength]
          rfl
        next hframes =>
          have hstart : before.counted.cacheSize = UInt64.ofNat before.counted.cacheSize.toNat :=
            UInt64.ofNat_toNat.symm
          have hgauge := Counters.cacheSize_foldl_after _ notes hstart
          rw [hsize hframes] at hgauge
          exact congrArg UInt64.toInt64 hgauge
      timings := by
        rw [Series.count_recordAll, hanswers, List.length_map, hlength] }

end EchoFilter
