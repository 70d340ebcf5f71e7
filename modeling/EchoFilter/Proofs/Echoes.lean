import Mathlib.Data.Bool.Count
import Mathlib.Data.Finset.Max
import Mathlib.Data.Finset.SDiff
import Mathlib.Data.List.Forall2
import EchoFilter.Proofs.Halves
import EchoFilter.Proofs.OneWindow
import EchoFilter.Proofs.Soundness

/-!
# Echoes — copies inside one window are forwarded once, in any order

A frame that is bridged over several buses reaches the detector once for each listener, at times
that are close but in no particular order.  `forwards_once_in_any_order` takes observations whose
times span less than a window, with no more distinct contents than the bound, and feeds them in any
order, by any of the calls that give a time, to one detector or through handles that share it.  The
answers are then those of `repeats`, which knows neither times nor windows.
-/

namespace EchoFilter

/-! ## First occurrences -/

section Occurrences

variable {K : Type} [DecidableEq K]

/-- For each key of a list whether it occurred before, in the list or among `seen`. -/
def repeats (seen : Finset K) : List K → List Bool
  | [] => []
  | k :: ks => decide (k ∈ seen) :: repeats (insert k seen) ks

theorem getElem?_repeats (seen : Finset K) (ks : List K) (i : Nat) :
    (repeats seen ks)[i]? = ks[i]?.map fun k => decide (k ∈ seen ∨ k ∈ ks.take i) := by
  induction ks generalizing seen i with
  | nil => rfl
  | cons k ks ih =>
    cases i with
    | zero => simp [repeats]
    | succ i =>
      rw [repeats, List.getElem?_cons_succ, List.getElem?_cons_succ, ih, List.take_succ_cons]
      congr 1
      funext a
      rw [decide_eq_decide, Finset.mem_insert, List.mem_cons, or_assoc, or_left_comm]

theorem count_repeats (seen : Finset K) (ks : List K) :
    (repeats seen ks).count false = (ks.toFinset \ seen).card := by
  -- Each first occurrence takes its key out of what is still to come.
  induction ks generalizing seen with
  | nil => simp [repeats]
  | cons k ks ih =>
    rw [repeats, List.toFinset_cons]
    by_cases hk : k ∈ seen
    · rw [Finset.insert_sdiff_of_mem _ hk, decide_eq_true hk, List.count_cons_of_ne (by decide), ih,
        Finset.insert_eq_of_mem hk]
    · have hsplit : insert k ks.toFinset \ seen = insert k (ks.toFinset \ insert k seen) := by
        ext a
        by_cases hak : a = k
        · simp [hak, hk]
        · simp [hak]
      rw [decide_eq_false hk, List.count_cons_self, ih, hsplit,
        Finset.card_insert_of_notMem (by simp)]

example : repeats ∅ [3, 5, 3] = [false, false, true] := by decide

end Occurrences

/-! ## Observations -/

/-- Content that a listener saw, with the time it saw it at. -/
structure Observation where
  id : ArbitrationId
  payload : Payload
  time : Time
  deriving DecidableEq, Repr

namespace Observation

def signature (width : Width) (o : Observation) : Signature :=
  .compute width o.id o.payload.bytes

/-- The calls that hand an observation to a detector at its own time. -/
inductive FedBy (config : Config) (o : Observation) : Call → Prop where
  | check (id : UInt32) (bytes : List UInt8) (hid : ArbitrationId.ofRaw id = .ok o.id)
      (hpayload : Payload.ofBytes bytes = .ok o.payload) :
      FedBy config o (.check id bytes (some o.time))
  | decide : FedBy config o (.decide o.id o.payload o.time)
  | frame (f : Frame) (hbase : config.timeBase = .frameArrival) (hid : f.id = o.id)
      (hpayload : f.payload = o.payload) (htime : f.timestamp.toNat = o.time) :
      FedBy config o (.frame f)

theorem FedBy.perform {d : Detector} {o : Observation} {c : Call} (h : o.FedBy d.config c) :
    d.perform c =
      (.judged o.id (d.decide o.id o.payload o.time).1, (d.decide o.id o.payload o.time).2) := by
  cases h with
  | check id bytes hid hpayload =>
    simp only [Detector.perform, Detector.performBy, hid, hpayload, Option.getD_some]
    rfl
  | decide => rfl
  | frame f hbase hid hpayload htime =>
    have hframe : d.frameTime f = o.time := by
      unfold Detector.frameTime
      rw [hbase]
      exact htime
    simp only [Detector.perform, Detector.performBy, hid, hpayload, hframe]
    rfl

/-- The observation was judged, and nothing was forgotten for it. -/
def JudgedBy (width : Width) (o : Observation) (outcome : Outcome) : Prop :=
  ∃ v, outcome = .judged o.id v ∧ v.key = o.signature width ∧ v.expired = 0 ∧ v.evicted = none

end Observation

namespace Detector

/-- A detector that has seen nothing, or nothing since its reset. -/
def Fresh (d : Detector) : Prop :=
  (∃ config clock, create config clock = .ok d) ∨ ∃ e : Detector, d = (e.perform .reset).2

theorem Fresh.holds {d : Detector} (h : d.Fresh) (lo hi : Time) :
    d.window.Holds d.limits ∅ lo hi := by
  rcases h with ⟨config, clock, hcreate⟩ | ⟨e, rfl⟩
  · unfold create at hcreate
    split at hcreate
    · cases hcreate
      exact Window.holds_of_empty rfl Ledger.entries_empty rfl
    · cases hcreate
  · exact Window.holds_of_empty rfl Ledger.entries_empty rfl

theorem holds_decide {d : Detector} {seen : Finset Signature} {lo hi : Time}
    (h : d.window.Holds d.limits seen lo hi) (hspan : hi - lo < d.limits.window) {o : Observation}
    (ho : lo ≤ o.time ∧ o.time ≤ hi)
    (hcard : (insert (o.signature d.config.width) seen).card ≤ d.limits.capacity) :
    o.JudgedBy d.config.width (.judged o.id (d.decide o.id o.payload o.time).1) ∧
      (d.decide o.id o.payload o.time).1.duplicate =
        Decidable.decide (o.signature d.config.width ∈ seen) ∧
      (d.decide o.id o.payload o.time).2.window.Holds d.limits
        (insert (o.signature d.config.width) seen) lo hi := by
  obtain ⟨hduplicate, hexpired, hevicted, -⟩ := h.answer hspan ho.1 ho.2 hcard
  exact ⟨⟨_, rfl, Window.check_key _ _ _ _, hexpired, hevicted⟩, hduplicate,
    h.check hspan ho.1 ho.2 hcard⟩

-- The bound is on all signatures to come, so it holds again for the rest.
theorem holds_run {d : Detector} {seen : Finset Signature} {lo hi : Time}
    (h : d.window.Holds d.limits seen lo hi) (hspan : hi - lo < d.limits.window)
    {order : List Observation} {calls : List Call}
    (hfed : List.Forall₂ (Observation.FedBy d.config) order calls)
    (htimes : ∀ o ∈ order, lo ≤ o.time ∧ o.time ≤ hi)
    (hcard : (seen ∪ (order.map (Observation.signature d.config.width)).toFinset).card ≤
      d.limits.capacity) :
    List.Forall₂ (Observation.JudgedBy d.config.width) order (d.run calls).1 ∧
      (d.run calls).1.map Outcome.isDuplicate =
        repeats seen (order.map (Observation.signature d.config.width)) ∧
      ∀ s, (d.run calls).2.contains s = true ↔
        s ∈ seen ∪ (order.map (Observation.signature d.config.width)).toFinset := by
  induction order generalizing d seen calls with
  | nil =>
    cases hfed
    refine ⟨.nil, rfl, fun s => ?_⟩
    rw [List.map_nil, List.toFinset_nil, Finset.union_empty]
    exact h.contains_iff s
  | cons o order ih =>
    cases hfed with
    | cons ho hrest =>
      rw [List.map_cons, List.toFinset_cons, Finset.union_insert, ← Finset.insert_union] at hcard ⊢
      have hfirst := Nat.le_trans (Finset.card_le_card Finset.subset_union_left) hcard
      obtain ⟨hjudged, hduplicate, hholds⟩ :=
        holds_decide h hspan (htimes o List.mem_cons_self) hfirst
      obtain ⟨hjudgedAll, hrepeats, hcontains⟩ := ih (d := (d.decide o.id o.payload o.time).2)
        hholds hspan hrest (fun p hp => htimes p (List.mem_cons_of_mem o hp)) hcard
      rw [run_cons, ho.perform]
      -- The rest runs on the detector after the first, with one more signature seen.
      refine ⟨.cons hjudged hjudgedAll, ?_, hcontains⟩
      rw [List.map_cons, repeats, hrepeats]
      exact congrArg (· :: _) hduplicate

theorem exists_span {length : Time} (hpos : 0 < length) (observations : List Observation)
    (hnear : ∀ a ∈ observations, ∀ b ∈ observations, a.time - b.time < length) :
    ∃ lo hi : Time, hi - lo < length ∧ ∀ o ∈ observations, lo ≤ o.time ∧ o.time ≤ hi := by
  by_cases hnil : observations = []
  · exact ⟨0, 0, by simpa using hpos, by simp [hnil]⟩
  · -- The earliest and the latest are themselves observations, so they are near.
    have hne : observations.toFinset.Nonempty := List.toFinset_nonempty_iff _ |>.2 hnil
    obtain ⟨first, hfirst, hlo⟩ := observations.toFinset.exists_min_image Observation.time hne
    obtain ⟨last, hlast, hhi⟩ := observations.toFinset.exists_max_image Observation.time hne
    rw [List.mem_toFinset] at hfirst hlast
    refine ⟨first.time, last.time, hnear last hlast first hfirst, fun o ho => ?_⟩
    rw [← List.mem_toFinset] at ho
    exact ⟨hlo o ho, hhi o ho⟩

/-- What comes of observations that are fed in the given order: each is judged, the first of each
content is accepted and every later one suppressed, nothing is forgotten, and what is remembered, as
well as how many were accepted and suppressed, does not depend on the order. -/
structure ForwardsOnce (width : Width) (observations order : List Observation)
    (outcomes : List Outcome) (d : Detector) : Prop where
  judged : List.Forall₂ (Observation.JudgedBy width) order outcomes
  duplicate_iff : ∀ i o outcome, order[i]? = some o → outcomes[i]? = some outcome →
    (outcome.isDuplicate = true ↔ ∃ p ∈ order.take i, p.signature width = o.signature width)
  accepted : (outcomes.map Outcome.isDuplicate).count false =
    (observations.map (Observation.signature width)).toFinset.card
  suppressed : (outcomes.map Outcome.isDuplicate).count true =
    observations.length - (observations.map (Observation.signature width)).toFinset.card
  contains_iff : ∀ s, d.contains s = true ↔ ∃ o ∈ observations, o.signature width = s

theorem forwardsOnce_run {d : Detector} (hfresh : d.Fresh) {observations order : List Observation}
    (hperm : order.Perm observations)
    (hnear : ∀ a ∈ observations, ∀ b ∈ observations, a.time - b.time < d.config.windowMs.toNat)
    (hdistinct : (observations.map (Observation.signature d.config.width)).toFinset.card ≤
      d.config.maxCacheSize.toNat)
    {calls : List Call} (hfed : List.Forall₂ (Observation.FedBy d.config) order calls) :
    ForwardsOnce d.config.width observations order (d.run calls).1 (d.run calls).2 := by
  obtain ⟨lo, hi, hspan, htimes⟩ := exists_span d.valid.1 observations hnear
  have hsignatures : (order.map (Observation.signature d.config.width)).toFinset =
      (observations.map (Observation.signature d.config.width)).toFinset :=
    List.toFinset_eq_of_perm _ _ (hperm.map _)
  have hcard : (∅ ∪ (order.map (Observation.signature d.config.width)).toFinset).card ≤
      d.limits.capacity := by
    rw [Finset.empty_union, hsignatures]
    exact hdistinct
  obtain ⟨hjudged, hrepeats, hcontains⟩ := holds_run (hfresh.holds lo hi) hspan hfed
    (fun o ho => htimes o (hperm.mem_iff.1 ho)) hcard
  -- The answers count the distinct signatures, and those do not change with the order.
  have haccepted : ((d.run calls).1.map Outcome.isDuplicate).count false =
      (observations.map (Observation.signature d.config.width)).toFinset.card := by
    rw [hrepeats, count_repeats, Finset.sdiff_empty, hsignatures]
  refine ⟨hjudged, fun i o outcome ho houtcome => ?_, haccepted, ?_, fun s => ?_⟩
  · have hanswer := congrArg (·[i]?) hrepeats
    simp only [List.getElem?_map, getElem?_repeats, ho, houtcome, Option.map_some,
      Option.some.injEq] at hanswer
    rw [hanswer, decide_eq_true_eq, ← List.map_take, List.mem_map]
    simp
  · have htotal := List.count_true_add_count_false ((d.run calls).1.map Outcome.isDuplicate)
    rw [haccepted, List.length_map, ← hjudged.length_eq, hperm.length_eq] at htotal
    omega
  · rw [hcontains, Finset.empty_union, hsignatures, List.mem_toFinset, List.mem_map]

/-- **Copies are forwarded once, in any order.**  On a fresh detector, called directly or by sharers
whose reports fall anywhere between the calls. -/
theorem forwards_once_in_any_order {d : Detector} (hfresh : d.Fresh)
    {observations order : List Observation} (hperm : order.Perm observations)
    (hnear : ∀ a ∈ observations, ∀ b ∈ observations, a.time - b.time < d.config.windowMs.toNat)
    (hdistinct : (observations.map (Observation.signature d.config.width)).toFinset.card ≤
      d.config.maxCacheSize.toNat)
    {calls : List Call} (hfed : List.Forall₂ (Observation.FedBy d.config) order calls) :
    ForwardsOnce d.config.width observations order (d.run calls).1 (d.run calls).2 ∧
      ∀ (ρ : Type) [Recorder ρ] (shared : Traffic ρ) (halves : List Half),
        shared.monitor.detector = d → halves.filterMap Half.call? = calls →
        ForwardsOnce d.config.width observations order (shared.run halves).1
          (shared.run halves).2.monitor.detector := by
  have honce := forwardsOnce_run hfresh hperm hnear hdistinct hfed
  refine ⟨honce, fun ρ _ shared halves hshared hcalls => ?_⟩
  have hrun := shared.run_eq halves
  rw [hshared, hcalls] at hrun
  have houtcomes : (shared.run halves).1 = (d.run calls).1 := congrArg Prod.fst hrun
  have hdetector : (shared.run halves).2.monitor.detector = (d.run calls).2 :=
    congrArg Prod.snd hrun
  rw [houtcomes, hdetector]
  exact honce

/-- Two copies, the later one first, on a detector that has room for one signature. -/
theorem forwards_once_two_copies :
    ∃ d : Detector, d.Fresh ∧ d.config = ⟨50, 1, .bits32, .recency, .frameArrival⟩ ∧
      ForwardsOnce .bits32
        [⟨⟨0x123, by decide⟩, ⟨[1, 2], by decide⟩, 100⟩,
          ⟨⟨0x123, by decide⟩, ⟨[1, 2], by decide⟩, 130⟩]
        [⟨⟨0x123, by decide⟩, ⟨[1, 2], by decide⟩, 130⟩,
          ⟨⟨0x123, by decide⟩, ⟨[1, 2], by decide⟩, 100⟩]
        (d.run [.frame ⟨⟨0x123, by decide⟩, ⟨[1, 2], by decide⟩, 130, "can1"⟩,
          .check 0x123 [1, 2] (some 100)]).1
        (d.run [.frame ⟨⟨0x123, by decide⟩, ⟨[1, 2], by decide⟩, 130, "can1"⟩,
          .check 0x123 [1, 2] (some 100)]).2 := by
  have hfresh : (initial ⟨50, 1, .bits32, .recency, .frameArrival⟩ (by decide) ⟨0⟩).Fresh :=
    Or.inl ⟨_, _, create_of_valid _ _ _⟩
  refine ⟨_, hfresh, rfl, (forwards_once_in_any_order hfresh (List.Perm.swap _ _ _) ?_ ?_ ?_).1⟩
  · decide
  · -- Both copies have one signature, whatever its value.
    show _ ≤ 1
    simp [Observation.signature]
  · exact .cons (.frame _ rfl rfl rfl rfl) (.cons (.check _ _ rfl rfl) .nil)

end Detector

end EchoFilter
