import Mathlib.Algebra.BigOperators.Group.List.Basic
import EchoFilter.Proofs.Halves
import EchoFilter.Proofs.Tallies

/-!
# Quiescence — what late reports leave behind

The locked halves of calls have one order and their reports another.  `Traffic.noted` lists the
notes of a run in the first order and `Traffic.landed` in the second, and once nothing is due each
is a rearrangement of the other.  Counters are sums over notes, so to them the two orders are the
same.  The gauge is overwritten: it shows the size in the note that landed last, and the detector
has the size in the note that was locked last.
-/

namespace EchoFilter

/-! ## Sums of tallies -/

instance : Zero Tally where
  zero := {}

theorem Tally.add_def (t u : Tally) :
    t + u = ⟨t.checked + u.checked, t.suppressed + u.suppressed, t.accepted + u.accepted,
      t.expired + u.expired, t.evicted + u.evicted⟩ := rfl

theorem Tally.zero_def : (0 : Tally) = ⟨0, 0, 0, 0, 0⟩ := rfl

instance : AddCommMonoid Tally where
  add_assoc t u v := by simp only [Tally.add_def, Nat.add_assoc]
  zero_add t := by simp only [Tally.add_def, Tally.zero_def, Nat.zero_add]
  add_zero t := rfl
  add_comm t u := by simp only [Tally.add_def, Nat.add_comm]
  nsmul := nsmulRec

/-- What the calls of the notes add to the lifetime counts. -/
def Note.total (notes : List Note) : Tally :=
  (notes.map fun n => n.outcome.tally).sum

theorem Note.total_cons (n : Note) (notes : List Note) :
    total (n :: notes) = n.outcome.tally + total notes := by
  simp [total]

theorem Note.total_perm {notes notes' : List Note} (h : notes.Perm notes') :
    total notes = total notes' :=
  (h.map _).sum_eq

/-! ## Sizes -/

/-- The size that a report brings to the gauge, if it touches the gauge at all. -/
def Note.size? (n : Note) : Option Nat :=
  match n.outcome with
  | .judged _ _ | .swept _ => some n.size
  | .reset _ => some 0
  | .refused _ | .clockMoved => none

/-- The size in the last of the notes that have one, or else the size before them. -/
def Note.lastSize (notes : List Note) (before : Nat) : Nat :=
  (notes.filterMap size?).getLast?.getD before

theorem Note.lastSize_cons (n : Note) (notes : List Note) (before : Nat) :
    lastSize (n :: notes) before = lastSize notes (n.size?.getD before) := by
  unfold lastSize
  cases hsize : n.size? with
  | none => rw [List.filterMap_cons_none hsize, Option.getD_none]
  | some k =>
    rw [List.filterMap_cons_some hsize, List.getLast?_cons, Option.getD_some, Option.getD_some]

theorem Note.lastSize_le {notes : List Note} {before bound : Nat} (hbefore : before ≤ bound)
    (h : ∀ n ∈ notes, n.size ≤ bound) : lastSize notes before ≤ bound := by
  induction notes generalizing before with
  | nil => exact hbefore
  | cons n rest ih =>
    have hn := h n List.mem_cons_self
    have hfirst : n.size?.getD before ≤ bound := by
      unfold size?
      cases n.outcome with
      | judged _ _ | swept _ => exact hn
      | reset _ => exact Nat.zero_le _
      | refused _ | clockMoved => exact hbefore
    rw [lastSize_cons]
    exact ih hfirst fun m hm => h m (List.mem_cons_of_mem _ hm)

-- A note of a call that leaves the window alone has no size.
theorem Detector.size_perform (d : Detector) (c : Call) (elapsed : Duration) :
    (d.perform c).2.size = (Monitor.locked d c elapsed).1.size?.getD d.size := by
  have hanswered := d.answered_perform c
  unfold Monitor.locked Note.size? Detector.size
  dsimp only
  generalize d.act? c = a at hanswered
  generalize (d.perform c).1 = o, (d.perform c).2.window = w' at hanswered ⊢
  cases hanswered with
  | check id s t => rfl
  | sweep t => rfl
  | reset => exact Window.size_empty
  | refused e => rfl
  | clockMoved => rfl

/-! ## The counters -/

namespace Counters

theorem recordAll_flatMap (c : Counters) (notes : List Note) :
    recordAll c (notes.flatMap Note.measures) = notes.foldl after c := by
  induction notes generalizing c with
  | nil => rfl
  | cons n rest ih =>
    rw [List.flatMap_cons, recordAll_append, recordAll_measures, ih, List.foldl_cons]

theorem Mirrors.foldl_after {c : Counters} {t : Tally} (h : c.Mirrors t) (notes : List Note) :
    (notes.foldl Counters.after c).Mirrors (t + Note.total notes) := by
  induction notes generalizing c t with
  | nil => exact h
  | cons n rest ih =>
    have hrest := ih (h.after n)
    rw [add_assoc, ← Note.total_cons] at hrest
    exact hrest

theorem rejected_foldl_after (c : Counters) (notes : List Note) :
    (notes.foldl after c).rejected =
      c.rejected + UInt64.ofNat (notes.countP fun n => n.outcome.isRefused) := by
  induction notes generalizing c with
  | nil => exact (UInt64.add_zero _).symm
  | cons n rest ih =>
    rw [List.foldl_cons, ih, List.countP_cons, Nat.add_comm, UInt64.ofNat_add, ← UInt64.add_assoc]
    rfl

theorem cacheSize_after (c : Counters) (n : Note) {before : Nat}
    (h : c.cacheSize = UInt64.ofNat before) :
    (c.after n).cacheSize = UInt64.ofNat (n.size?.getD before) := by
  unfold after Note.size?
  cases n.outcome with
  | judged _ _ | swept _ | reset _ => rfl
  | refused _ | clockMoved => exact h

theorem cacheSize_foldl_after (c : Counters) (notes : List Note) {before : Nat}
    (h : c.cacheSize = UInt64.ofNat before) :
    (notes.foldl after c).cacheSize = UInt64.ofNat (Note.lastSize notes before) := by
  induction notes generalizing c before with
  | nil => exact h
  | cons n rest ih =>
    rw [List.foldl_cons, ih _ (cacheSize_after c n h), Note.lastSize_cons]

end Counters

/-! ## Two orders of a run -/

namespace Traffic

section Orders

variable {ρ : Type} [Recorder ρ]

/-- The notes of the calls, in the order of their locks. -/
def noted (s : Traffic ρ) : List Half → List Note
  | [] => []
  | .lock c elapsed :: rest =>
    (Monitor.locked s.monitor.detector c elapsed).1 :: (s.lock c elapsed).2.noted rest
  | .report i :: rest => (s.report i).noted rest

/-- The notes that reached the recorder, in the order of their reports. -/
def landed (s : Traffic ρ) : List Half → List Note
  | [] => []
  | .lock c elapsed :: rest => (s.lock c elapsed).2.landed rest
  | .report i :: rest => s.due[i]?.toList ++ (s.report i).landed rest

theorem answers_run (s : Traffic ρ) (halves : List Half) :
    (s.run halves).1 = (s.noted halves).map Note.outcome := by
  induction halves generalizing s with
  | nil => rfl
  | cons half rest ih =>
    cases half with
    | lock c elapsed => exact congrArg (_ :: ·) (ih (s.lock c elapsed).2)
    | report i => exact ih (s.report i)

theorem tally_run (s : Traffic ρ) (halves : List Half) :
    (s.run halves).2.monitor.detector.window.tally =
      s.monitor.detector.window.tally + Note.total (s.noted halves) := by
  induction halves generalizing s with
  | nil => rfl
  | cons half rest ih =>
    cases half with
    | lock c elapsed =>
      rw [noted, Note.total_cons, ← add_assoc]
      have hlock := s.monitor.detector.tally_perform c
      exact (ih (s.lock c elapsed).2).trans (congrArg (· + _) hlock)
    | report i =>
      have hrest := ih (s.report i)
      rw [detector_report] at hrest
      exact hrest

theorem size_run (s : Traffic ρ) (halves : List Half) :
    (s.run halves).2.monitor.detector.size =
      Note.lastSize (s.noted halves) s.monitor.detector.size := by
  induction halves generalizing s with
  | nil => rfl
  | cons half rest ih =>
    cases half with
    | lock c elapsed =>
      rw [noted, Note.lastSize_cons, ← Detector.size_perform]
      exact ih (s.lock c elapsed).2
    | report i =>
      have hrest := ih (s.report i)
      rw [detector_report] at hrest
      exact hrest

theorem report_of_none {s : Traffic ρ} {i : Nat} (h : s.due[i]? = none) : s.report i = s := by
  unfold report
  rw [h]

theorem report_of_some {s : Traffic ρ} {i : Nat} {n : Note} (h : s.due[i]? = some n) :
    s.report i = { monitor := s.monitor.report n, due := s.due.eraseIdx i } := by
  unfold report
  rw [h]

theorem recorder_run (s : Traffic ρ) (halves : List Half) :
    (s.run halves).2.monitor.recorder =
      recordAll s.monitor.recorder ((s.landed halves).flatMap Note.measures) := by
  induction halves generalizing s with
  | nil => rfl
  | cons half rest ih =>
    cases half with
    | lock c elapsed => exact ih (s.lock c elapsed).2
    | report i =>
      show ((s.report i).run rest).2.monitor.recorder = _
      rw [landed, List.flatMap_append, recordAll_append, ih]
      cases hi : s.due[i]? with
      | none => rw [report_of_none hi]; rfl
      | some n => rw [report_of_some hi, Option.toList_some, List.flatMap_singleton]; rfl

/-- Every note lands once, or is still due. -/
theorem landed_perm (s : Traffic ρ) (halves : List Half) :
    (s.landed halves ++ (s.run halves).2.due).Perm (s.due ++ s.noted halves) := by
  induction halves generalizing s with
  | nil => exact List.Perm.of_eq (List.append_nil _).symm
  | cons half rest ih =>
    cases half with
    | lock c elapsed =>
      have hrest := ih (s.lock c elapsed).2
      rw [show (s.lock c elapsed).2.due = s.due ++ [_] from rfl, List.append_assoc] at hrest
      exact hrest
    | report i =>
      have hrest := ih (s.report i)
      show (_ ++ ((s.report i).run rest).2.due).Perm (s.due ++ (s.report i).noted rest)
      rw [landed, List.append_assoc]
      cases hi : s.due[i]? with
      | none =>
        have hdue : (s.report i).due = s.due := by rw [report_of_none hi]
        rw [hdue] at hrest
        exact hrest
      | some n =>
        have hdue : (s.report i).due = s.due.eraseIdx i := by rw [report_of_some hi]
        rw [hdue] at hrest
        -- The note leaves its place among those due and comes to stand in front.
        obtain ⟨hlt, rfl⟩ := List.getElem?_eq_some_iff.1 hi
        have hmoved := List.getElem_cons_eraseIdx_perm hlt
        exact (hrest.cons _).trans (hmoved.append_right _)

theorem size_le_of_mem_noted {s : Traffic ρ} (h : s.monitor.detector.Kept) {halves : List Half}
    {n : Note} (hn : n ∈ s.noted halves) :
    n.size ≤ s.monitor.detector.config.maxCacheSize.toNat := by
  induction halves generalizing s with
  | nil => cases hn
  | cons half rest ih =>
    cases half with
    | lock c elapsed =>
      have hkept := h.perform c
      have hconfig := s.monitor.detector.config_perform c
      rcases List.mem_cons.1 hn with rfl | hn
      · rw [← hconfig]
        exact hkept.coherent.size_le
      · rw [← hconfig]
        exact ih hkept hn
    | report i =>
      have hsame := s.detector_report i
      have hrest := ih (s := s.report i) (by rw [hsame]; exact h) hn
      rw [hsame] at hrest
      exact hrest

end Orders

/-! ## No report in flight -/

/-- A detector that nothing was reported of yet, with counters at zero. -/
def opening (d : Detector) : Traffic Counters :=
  ⟨⟨d, .zero⟩, []⟩

/-- How a run from a fresh detector and fresh counters stands: what is counted is right, and the
gauge is right if the note with a size that landed last has the size of the one that was locked
last. -/
structure Settled (d : Detector) (halves : List Half) : Prop where
  mirrors : ((opening d).run halves).2.monitor.recorder.Mirrors
    ((opening d).run halves).2.monitor.detector.window.tally
  rejected : ((opening d).run halves).2.monitor.recorder.rejected =
    UInt64.ofNat (((opening d).run halves).1.countP Outcome.isRefused)
  rearranged : ((opening d).landed halves).Perm ((opening d).noted halves)
  gauge : ((opening d).run halves).2.monitor.recorder.cacheSize.toNat =
    Note.lastSize ((opening d).landed halves) 0
  size : ((opening d).run halves).2.monitor.detector.size =
    Note.lastSize ((opening d).noted halves) 0

theorem settled_of_due {d : Detector} (hkept : d.Kept) (hempty : d.window = .empty)
    {halves : List Half} (hdue : ((opening d).run halves).2.due = []) : Settled d halves := by
  have hperm : ((opening d).landed halves).Perm ((opening d).noted halves) := by
    have hall := (opening d).landed_perm halves
    rw [hdue, List.append_nil] at hall
    exact hall
  have hrecorder := (opening d).recorder_run halves
  rw [Counters.recordAll_flatMap] at hrecorder
  have hstart : (opening d).monitor.recorder.Mirrors (opening d).monitor.detector.window.tally := by
    rw [show (opening d).monitor.detector.window = _ from hempty]
    exact ⟨rfl, rfl, rfl, rfl, rfl⟩
  have hnothing : (opening d).monitor.detector.size = 0 := by
    show d.window.size = 0
    rw [hempty]
    exact Window.size_empty
  -- The gauge is a word, and no size in a note is beyond the bound, which is one too.
  have hlast : Note.lastSize ((opening d).landed halves) 0 ≤ d.config.maxCacheSize.toNat :=
    Note.lastSize_le (Nat.zero_le _) fun n hn =>
      size_le_of_mem_noted (s := opening d) hkept (hperm.subset hn)
  have hword := d.config.maxCacheSize.toNat_lt
  exact
    { mirrors := by
        rw [hrecorder, tally_run, ← Note.total_perm hperm]
        exact hstart.foldl_after _
      rejected := by
        rw [hrecorder, Counters.rejected_foldl_after, answers_run, List.countP_map,
          hperm.countP_eq]
        exact UInt64.zero_add _
      rearranged := hperm
      gauge := by
        have hzero : (opening d).monitor.recorder.cacheSize = UInt64.ofNat 0 := rfl
        rw [hrecorder, Counters.cacheSize_foldl_after _ _ hzero, UInt64.toNat_ofNat']
        omega
      size := by rw [size_run, hnothing] }

/-- **With no report in flight the counters are right, whatever order the reports came in.**  A
valid configuration gives a detector, and after any interleaving of the halves of calls on it that
leaves no report due, its recorder shows the lifetime counts and the number of failed calls; the
gauge shows the size that was reported last. -/
theorem settles_in_any_order (config : Config) (clock : Clock) (hvalid : config.Valid) :
    ∃ d, Detector.create config clock = .ok d ∧ ∀ halves : List Half,
      ((opening d).run halves).2.due = [] → Settled d halves :=
  ⟨_, Detector.create_of_valid config clock hvalid, fun _ hdue =>
    settled_of_due (Detector.kept_initial config hvalid clock) rfl hdue⟩

/-- Two acceptances and an error, reported backwards: all counts are right, and the gauge shows the
size after the first. -/
theorem settles_in_any_order_backwards :
    Config.Valid ⟨50, 4, .bits32, .recency, .clock⟩ ∧
      ∃ d, Detector.create ⟨50, 4, .bits32, .recency, .clock⟩ ⟨0⟩ = .ok d ∧
        ((opening d).run [.lock (.check 0x123 [1] (some 100)) .zero,
          .lock (.check 0x124 [2] (some 110)) .zero, .lock (.check 0x20000000 [] none) .zero,
          .report 2, .report 1, .report 0]).2.due = [] ∧
        Settled d [.lock (.check 0x123 [1] (some 100)) .zero,
          .lock (.check 0x124 [2] (some 110)) .zero, .lock (.check 0x20000000 [] none) .zero,
          .report 2, .report 1, .report 0] := by
  obtain ⟨d, hd, hrun⟩ := settles_in_any_order ⟨50, 4, .bits32, .recency, .clock⟩ ⟨0⟩ (by decide)
  have hdue : ((opening d).run [.lock (.check 0x123 [1] (some 100)) .zero,
      .lock (.check 0x124 [2] (some 110)) .zero, .lock (.check 0x20000000 [] none) .zero,
      .report 2, .report 1, .report 0]).2.due = [] := by
    cases hd
    decide +kernel
  exact ⟨by decide, d, hd, hdue, hrun _ hdue⟩

/-- A report that comes after the report of a later reset leaves the gauge at one with nothing
remembered. -/
theorem late_report_outlives_reset :
    Config.Valid ⟨50, 4, .bits64, .recency, .clock⟩ ∧
      ∃ d, Detector.create ⟨50, 4, .bits64, .recency, .clock⟩ ⟨0⟩ = .ok d ∧
        ∃ s, s = ((opening d).run [.lock (.check 0x123 [1] (some 0)) .zero, .lock .reset .zero,
            .report 1, .report 0]).2 ∧
          s.due = [] ∧ s.monitor.recorder.cacheSize = 1 ∧ s.monitor.detector.size = 0 := by
  refine ⟨by decide, _, Detector.create_of_valid _ ⟨0⟩ (by decide), _, rfl, ?_⟩
  decide +kernel

end Traffic

end EchoFilter
