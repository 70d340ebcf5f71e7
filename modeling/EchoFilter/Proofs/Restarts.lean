import EchoFilter.Proofs.Quiescence

/-!
# Restarts — a reset detector is a new one that still has its counts

A reset forgets the signatures and the mark and keeps the counts, and nothing a detector does looks
at its counts.  So `carrying`, which adds counts from before, commutes with every step of a window
and with every call, and a reset detector is the new detector of its configuration and clock,
carrying what it counted so far.
-/

namespace EchoFilter

/-- A call that was not moved to a later time. -/
def Outcome.IsOnTime : Outcome → Prop
  | .judged _ v => v.now = v.given
  | .swept s => s.now = s.given
  | .reset _ | .refused _ | .clockMoved => True

namespace Window

variable {K : Type} [Ord K]

/-- The same window, with counts from before. -/
def carrying (before : Tally) (w : Window K) : Window K :=
  { w with tally := before + w.tally }

variable [Std.TransOrd K]

omit [Std.TransOrd K] in
@[simp] theorem size_carrying (before : Tally) (w : Window K) :
    (w.carrying before).size = w.size := rfl

theorem carrying_empty (w : Window K) : empty.carrying w.tally = w.reset :=
  congrArg (fun tally => ({ empty with tally } : Window K)) (add_zero w.tally)

variable [Std.LawfulEqOrd K] [DecidableEq K]

theorem sweep_carrying (lim : Limits) (before : Tally) (w : Window K) (t : Time) :
    (w.carrying before).sweep lim t = ((w.sweep lim t).1, (w.sweep lim t).2.carrying before) := by
  have htally : before + w.tally + { expired := (w.sweep lim t).1.expired } =
      before + (w.sweep lim t).2.tally := by rw [tally_sweep, add_assoc]
  exact Prod.ext rfl (congrArg (fun tally => { (w.sweep lim t).2 with tally }) htally)

theorem renew_carrying (lim : Limits) (before : Tally) (w : Window K) (k : K) (now : Time) :
    (w.carrying before).renew lim k now = (w.renew lim k now).carrying before := rfl

theorem remember_carrying (before : Tally) (w : Window K) (k : K) (now : Time) :
    (w.carrying before).remember k now = (w.remember k now).carrying before := rfl

theorem evict_carrying (lim : Limits) (before : Tally) (w : Window K) :
    (w.carrying before).evict lim = ((w.evict lim).1, (w.evict lim).2.carrying before) := by
  unfold evict
  rw [size_carrying]
  split
  · rfl
  · have hledger : (w.carrying before).ledger = w.ledger := rfl
    rw [hledger]
    cases w.ledger.oldest? <;> rfl

theorem check_carrying (lim : Limits) (before : Tally) (w : Window K) (k : K) (t : Time) :
    (w.carrying before).check lim k t =
      ((w.check lim k t).1, (w.check lim k t).2.carrying before) := by
  have hswept := sweep_carrying lim before w t
  have hrepeat : ((w.carrying before).sweep lim t).2.isRepeat lim k ((w.carrying before).clamp t) =
      (w.sweep lim t).2.isRepeat lim k (w.clamp t) := by
    rw [hswept]
    rfl
  cases hrep : (w.sweep lim t).2.isRepeat lim k (w.clamp t) with
  | true =>
    rw [check_of_repeat hrep, check_of_repeat (hrepeat.trans hrep), hswept, renew_carrying]
    rfl
  | false =>
    rw [check_of_new hrep, check_of_new (hrepeat.trans hrep), hswept, remember_carrying,
      evict_carrying]
    rfl

end Window

namespace Detector

/-- The same detector, with counts from before. -/
def carrying (before : Tally) (d : Detector) : Detector :=
  { d with window := d.window.carrying before }

theorem decide_carrying (before : Tally) (d : Detector) (id : ArbitrationId) (payload : Payload)
    (now : Time) :
    (d.carrying before).decide id payload now =
      ((d.decide id payload now).1, (d.decide id payload now).2.carrying before) := by
  have hcheck := Window.check_carrying d.limits before d.window
    (.compute d.config.width id payload.bytes) now
  rw [Prod.ext_iff] at hcheck
  exact Prod.ext hcheck.1 (congrArg (fun window => { d with window }) hcheck.2)

-- A judgement is all that raw data, a frame and a given time come to.
theorem judged_carrying (before : Tally) (d : Detector) (id : ArbitrationId) (payload : Payload)
    (now : Time) :
    (Outcome.judged id ((d.carrying before).decide id payload now).1,
        ((d.carrying before).decide id payload now).2) =
      (.judged id (d.decide id payload now).1, (d.decide id payload now).2.carrying before) := by
  rw [decide_carrying]

theorem perform_carrying (before : Tally) (d : Detector) (c : Call) :
    (d.carrying before).perform c = ((d.perform c).1, (d.perform c).2.carrying before) := by
  cases c with
  | check id bytes at? =>
    simp only [perform, performBy]
    cases ArbitrationId.ofRaw id with
    | error e => rfl
    | ok id =>
      cases Payload.ofBytes bytes with
      | error e => rfl
      | ok payload => exact judged_carrying before d id payload _
  | frame f => exact judged_carrying before d f.id f.payload _
  | decide id payload now => exact judged_carrying before d id payload now
  | sweep now =>
    have hsweep := Window.sweep_carrying d.limits before d.window now
    rw [Prod.ext_iff] at hsweep
    exact Prod.ext (congrArg Outcome.swept hsweep.1)
      (congrArg (fun window => { d with window }) hsweep.2)
  | reset => rfl
  | setClock ms => rfl
  | advanceClock ms => rfl

theorem run_carrying (before : Tally) (d : Detector) (calls : List Call) :
    (d.carrying before).run calls = ((d.run calls).1, (d.run calls).2.carrying before) := by
  induction calls generalizing d with
  | nil => rfl
  | cons c rest ih => rw [run_cons, perform_carrying, ih, run_cons]

theorem perform_reset (d : Detector) :
    (d.perform .reset).2 = (initial d.config d.valid d.clock).carrying d.window.tally :=
  congrArg (fun window => { d with window }) d.window.carrying_empty.symm

theorem isOnTime_of_mark (d : Detector) (hmark : d.window.mark = none) (c : Call) :
    (d.perform c).1.IsOnTime := by
  have hclamp (t : Time) : d.window.clamp t = t := by
    unfold Window.clamp
    rw [hmark]
  have hanswered := d.answered_perform c
  generalize (d.perform c).1 = o, (d.perform c).2.window = w, d.act? c = a at hanswered ⊢
  cases hanswered with
  | check id s t =>
    show (d.window.check d.limits s t).1.now = (d.window.check d.limits s t).1.given
    rw [Window.check_now, Window.check_given, hclamp]
  | sweep t => exact hclamp t
  | reset => trivial
  | refused e => trivial
  | clockMoved => trivial

/-- **A reset restarts the session.**  Reset any detector, whatever it has been through, and make
any calls on it and on a new detector with its configuration and its clock: the answers are the
same, one by one, and so are the detectors at the end, signatures, ledger, mark and clock alike, but
for the counts, which are those of the new detector and those from before the reset together.  The
first call after the reset is taken at its own time, however early. -/
theorem reset_restarts (d : Detector) :
    ∃ fresh, create d.config d.clock = .ok fresh ∧
      (∀ calls, ((d.perform .reset).2.run calls).1 = (fresh.run calls).1 ∧
        ((d.perform .reset).2.run calls).2 =
          { (fresh.run calls).2 with
            window := { (fresh.run calls).2.window with
              tally := d.window.tally + (fresh.run calls).2.window.tally } }) ∧
      ∀ c, ((d.perform .reset).2.perform c).1.IsOnTime := by
  refine ⟨_, create_of_valid d.config d.clock d.valid, fun calls => ?_, fun c => ?_⟩
  · rw [perform_reset, run_carrying]
    exact ⟨rfl, rfl⟩
  · exact (d.perform .reset).2.isOnTime_of_mark rfl c

-- The mark stood at a million; after the reset 5 is 5, and the echo of before counts no more.
example :
    let d := ((initial ⟨50, 2, .bits64, .recency, .frameArrival⟩ (by decide) ⟨0⟩).run
      [.check 0x123 [1] (some 1000000), .check 0x123 [1] (some 1000010), .reset]).2
    (d.run [.check 0x123 [1] (some 5), .check 0x123 [1] (some 7)]).1.map Outcome.isDuplicate =
        [false, true] ∧
      (d.run [.check 0x123 [1] (some 5), .check 0x123 [1] (some 7)]).2.window.mark = some 7 ∧
      (d.run [.check 0x123 [1] (some 5), .check 0x123 [1] (some 7)]).2.window.tally =
        { checked := 4, suppressed := 2, accepted := 2 } := by
  decide +kernel

end Detector

end EchoFilter
