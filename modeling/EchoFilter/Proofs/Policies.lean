import Mathlib.Data.List.Forall2
import EchoFilter.Proofs.Isolation

/-!
# Policies — recency outlasts first insertion

Under recency an entry is as old as its last sighting, by first insertion as old as its acceptance,
which was no later.  So in two windows asked the same, age takes from the first only what it takes
from the second.  They accept at different moments and keep different ledgers all the same; what is
carried from step to step is only that whatever the second window remembers, the first one remembers
with the same last sighting (`Window.Covers`).  Number is what could break this, so nothing may be
evicted from the first window.
-/

namespace EchoFilter

namespace Window

variable {K : Type} [Ord K] [Std.TransOrd K]

/-- Whatever the second window remembers, the first one remembers with the same last sighting. -/
structure Covers (w w' : Window K) : Prop where
  mark : w'.mark = w.mark
  lastSeen? : ∀ k last, w'.lastSeen? k = some last → w.lastSeen? k = some last

variable {lim lim' : Limits} {w w' : Window K} {k : K} {last t : Time}

theorem Covers.clamp (h : w.Covers w') (t : Time) : w'.clamp t = w.clamp t := by
  unfold Window.clamp
  rw [h.mark]

variable [Std.LawfulEqOrd K]

/-! ## The entry of a remembered key -/

omit [Std.LawfulEqOrd K] in
theorem Aligned.exists_entry (h : w.Aligned lim) (hk : w.lastSeen? k = some last) :
    ∃ placed mark, (k, placed) ∈ w.ledger.entries ∧ w.mark = some mark ∧ placed ≤ last ∧
      mark - lim.window ≤ placed ∧ (lim.policy = .recency → placed = last) := by
  obtain ⟨⟨k, placed⟩, he, rfl⟩ := List.mem_map.1 (h.mem_of_lastSeen? hk)
  obtain ⟨seen, mark, hseen, hmark, hplaced, -, hfresh, hpol⟩ := h.dated _ he
  rw [hk, Option.some.injEq] at hseen
  subst hseen
  exact ⟨placed, mark, he, hmark, hplaced, hfresh, hpol⟩

variable [DecidableEq K]

-- What was seen less than a window ago, or just a window ago, is not too old under recency.
theorem Aligned.lastSeen?_sweep_of_recent (h : w.Aligned lim) (hpol : lim.policy = .recency)
    (hk : w.lastSeen? k = some last) (hrecent : w.clamp t - lim.window ≤ last) :
    (w.sweep lim t).2.lastSeen? k = some last := by
  obtain ⟨placed, -, he, -, -, -, hplaced⟩ := h.exists_entry hk
  have htime : w.ledger.timeOf? k = some last := by
    rw [Ledger.timeOf?_eq_some_iff, ← hplaced hpol]
    exact he
  rw [h.lastSeen?_sweep_eq, h.placed?_sweep, htime, Option.filter_some,
    if_pos (decide_eq_true hrecent), if_pos Option.isSome_some, hk]

/-! ## The same act on both windows -/

theorem Covers.sweep (h : w.Covers w') (hpol : lim.policy = .recency)
    (hwindow : lim'.window = lim.window) (hw : w.Aligned lim) (hw' : w'.Aligned lim') (t : Time) :
    (w.sweep lim t).2.Covers (w'.sweep lim' t).2 where
  mark := by rw [mark_sweep, mark_sweep, h.clamp]
  lastSeen? k last hk := by
    -- The entry on the second side has stayed, and it was placed no later than the key was seen.
    obtain ⟨placed, mark, -, hmark, hplaced, hfresh, -⟩ := (hw'.sweep t).exists_entry hk
    rw [mark_sweep, Option.some.injEq, h.clamp] at hmark
    rw [← hmark, hwindow] at hfresh
    have hold := h.lastSeen? k last ((sweep_forgets lim' w' t).lastSeen?_of_some hk)
    exact hw.lastSeen?_sweep_of_recent hpol hold (Nat.le_trans hfresh hplaced)

omit [Std.LawfulEqOrd K] [DecidableEq K] in
theorem Covers.isRepeat (h : w.Covers w') (hwindow : lim'.window = lim.window) {now : Time}
    (hrep : w'.isRepeat lim' k now = true) : w.isRepeat lim k now = true := by
  obtain ⟨last, hlast, hinside⟩ := isRepeat_eq_true_iff.1 hrep
  rw [hwindow] at hinside
  exact isRepeat_eq_true_iff.2 ⟨last, h.lastSeen? k last hlast, hinside⟩

theorem lastSeen?_check_of_not_evicted (h : (w.check lim k t).1.evicted = none) (a : K) :
    (w.check lim k t).2.lastSeen? a =
      if a = k then some (w.clamp t) else (w.sweep lim t).2.lastSeen? a := by
  rw [check_of_not_evicted h]
  split
  · exact lastSeen?_renew lim _ k a _
  · exact (remember_puts _ k _).lastSeen? a

/-- **One check.**  What the second window calls a repeat the first one calls a repeat too, and
unless a key is evicted from the first window, it goes on remembering what the second one does. -/
theorem Covers.check (h : w.Covers w') (hpol : lim.policy = .recency)
    (hwindow : lim'.window = lim.window) (hw : w.Aligned lim) (hw' : w'.Aligned lim')
    (hkept : (w.check lim k t).1.evicted = none) :
    ((w'.check lim' k t).1.duplicate = true → (w.check lim k t).1.duplicate = true) ∧
      (w.check lim k t).2.Covers (w'.check lim' k t).2 := by
  have hswept := h.sweep hpol hwindow hw hw' t
  refine ⟨fun hdup => ?_, ?_, fun a last ha => ?_⟩
  · rw [check_duplicate, h.clamp] at hdup
    rw [check_duplicate]
    exact hswept.isRepeat hwindow hdup
  · rw [mark_check, mark_check, h.clamp]
  · have hput := lastSeen?_check_swept ha
    rw [lastSeen?_check_of_not_evicted hkept]
    rw [h.clamp] at hput
    by_cases hak : a = k
    · rw [if_pos hak] at hput ⊢
      exact hput
    · rw [if_neg hak] at hput ⊢
      exact hswept.lastSeen? a last hput

omit [Std.LawfulEqOrd K] [DecidableEq K] in
theorem covers_reset (w w' : Window K) : w.reset.Covers w'.reset where
  mark := rfl
  lastSeen? k last hk := by
    rw [lastSeen?_reset] at hk
    cases hk

omit [Std.LawfulEqOrd K] [DecidableEq K] in
theorem Covers.contains (h : w.Covers w') (hk : w'.contains k = true) :
    w.contains k = true ∧ w.lastSeen? k = w'.lastSeen? k := by
  rw [contains_eq_isSome, Option.isSome_iff_exists] at hk
  obtain ⟨last, hlast⟩ := hk
  have hseen := h.lastSeen? k last hlast
  rw [contains_eq_isSome, hseen, hlast]
  exact ⟨rfl, rfl⟩

end Window

/-! ## Calls -/

theorem Call.act?_policy (config : Config) (policy : Policy) (clock : Clock) (latest : Option Time)
    (c : Call) : c.act? { config with policy } clock latest = c.act? config clock latest := by
  cases c <;> rfl

namespace Detector

/-- Two detectors with one clock, the first under recency and the second, otherwise configured the
same, by first insertion; and whatever the second remembers, the first one remembers with the same
last sighting. -/
structure Covers (d d' : Detector) : Prop where
  recency : d.config.policy = .recency
  config : d'.config = { d.config with policy := .firstInsertion }
  clock : d'.clock = d.clock
  window : d.window.Covers d'.window

variable {d d' : Detector}

theorem Covers.act? (h : d.Covers d') (c : Call) : d'.act? c = d.act? c := by
  unfold Detector.act?
  rw [h.config, h.clock, h.window.mark, Call.act?_policy]

theorem Covers.window_eq (h : d.Covers d') : d'.limits.window = d.limits.window := by
  unfold limits
  rw [h.config]

theorem covers_initial (config : Config) (hvalid : config.Valid) (clock : Clock) :
    (initial { config with policy := .recency } hvalid clock).Covers
      (initial { config with policy := .firstInsertion } hvalid clock) where
  recency := rfl
  config := rfl
  clock := rfl
  window := Window.covers_reset .empty .empty

theorem Covers.perform (h : d.Covers d') (hk : d.Kept) (hk' : d'.Kept) {c : Call}
    (hkept : (d.perform c).1.evicted? = none) :
    ((d'.perform c).1.isDuplicate = true → (d.perform c).1.isDuplicate = true) ∧
      (d.perform c).2.Covers (d'.perform c).2 := by
  have hwindow : ((d'.perform c).1.isDuplicate = true → (d.perform c).1.isDuplicate = true) ∧
      (d.perform c).2.window.Covers (d'.perform c).2.window := by
    have hanswered := d.answered_perform c
    have hanswered' := d'.answered_perform c
    rw [h.act?] at hanswered'
    generalize (d.perform c).1 = o, (d.perform c).2.window = v, (d'.perform c).1 = o',
      (d'.perform c).2.window = v', d.act? c = a at hanswered hanswered' hkept ⊢
    cases hanswered with
    | check id s t =>
      cases hanswered'
      exact h.window.check h.recency h.window_eq hk.coherent.toAligned hk'.coherent.toAligned hkept
    | sweep t =>
      cases hanswered'
      exact ⟨id, h.window.sweep h.recency h.window_eq hk.coherent.toAligned
        hk'.coherent.toAligned t⟩
    | reset =>
      cases hanswered'
      exact ⟨id, Window.covers_reset _ _⟩
    | refused e => cases hanswered' <;> exact ⟨nofun, h.window⟩
    | clockMoved => cases hanswered' <;> exact ⟨nofun, h.window⟩
  refine ⟨hwindow.1, ?_, ?_, ?_, hwindow.2⟩
  · rw [config_perform]
    exact h.recency
  · rw [config_perform, config_perform]
    exact h.config
  · rw [clock_perform, clock_perform, h.clock]

theorem Covers.run (h : d.Covers d') (hk : d.Kept) (hk' : d'.Kept) {calls : List Call}
    (hkept : ∀ o ∈ (d.run calls).1, o.evicted? = none) :
    List.Forall₂ (fun o o' : Outcome => o'.isDuplicate = true → o.isDuplicate = true)
        (d.run calls).1 (d'.run calls).1 ∧
      ∀ n, (d.run (calls.take n)).2.Covers (d'.run (calls.take n)).2 := by
  induction calls generalizing d d' with
  | nil =>
    refine ⟨.nil, fun n => ?_⟩
    rw [List.take_nil]
    exact h
  | cons c rest ih =>
    rw [run_cons] at hkept
    obtain ⟨hdup, hnext⟩ := h.perform hk hk' (hkept _ List.mem_cons_self)
    obtain ⟨hrest, hlast⟩ := ih hnext (hk.perform c) (hk'.perform c)
      fun o ho => hkept o (List.mem_cons_of_mem _ ho)
    refine ⟨.cons hdup hrest, fun n => ?_⟩
    cases n with
    | zero => exact h
    | succ n => exact hlast n

/-- **Recency outlasts first insertion.**  A valid configuration gives a detector under either
policy, and if calls on both evict nothing under recency, then at every point of the run whatever is
remembered by first insertion is remembered under recency with the same last sighting, and every
check that is suppressed by first insertion is suppressed under recency. -/
theorem recency_outlasts_first_insertion (config : Config) (clock : Clock) (hvalid : config.Valid) :
    ∃ d d', create { config with policy := .recency } clock = .ok d ∧
      create { config with policy := .firstInsertion } clock = .ok d' ∧
      ∀ calls : List Call, (∀ o ∈ (d.run calls).1, o.evicted? = none) →
        (∀ n s, (d'.run (calls.take n)).2.contains s = true →
          (d.run (calls.take n)).2.contains s = true ∧
            (d.run (calls.take n)).2.lastSeen? s = (d'.run (calls.take n)).2.lastSeen? s) ∧
        List.Forall₂ (fun o o' : Outcome => o'.isDuplicate = true → o.isDuplicate = true)
          (d.run calls).1 (d'.run calls).1 := by
  refine ⟨_, _, create_of_valid { config with policy := .recency } clock hvalid,
    create_of_valid { config with policy := .firstInsertion } clock hvalid, fun calls hkept => ?_⟩
  have hk := kept_initial { config with policy := .recency } hvalid clock
  have hk' := kept_initial { config with policy := .firstInsertion } hvalid clock
  obtain ⟨hdup, hcovers⟩ := (covers_initial config hvalid clock).run hk hk' hkept
  exact ⟨fun n s hs => (hcovers n).window.contains hs, hdup⟩

/-- A signature seen at 0, 30, 60 and 80: by first insertion it is accepted again at 60.  Another
one is accepted again under both policies, just a window after it was last seen. -/
theorem recency_outlasts_first_insertion_hot_signature :
    Config.Valid ⟨50, 2, .bits64, .recency, .clock⟩ ∧
      ∃ d d', create ⟨50, 2, .bits64, .recency, .clock⟩ ⟨0⟩ = .ok d ∧
        create ⟨50, 2, .bits64, .firstInsertion, .clock⟩ ⟨0⟩ = .ok d' ∧
        ∃ calls, calls = [.check 0x123 [1] (some 0), .check 0x124 [2] (some 10),
            .check 0x123 [1] (some 30), .check 0x123 [1] (some 60), .check 0x124 [2] (some 20),
            .check 0x123 [1] (some 80), .sweep 131, .reset, .check 0x124 [2] (some 5)] ∧
          (∀ o ∈ (d.run calls).1, o.evicted? = none) ∧
          (d.run calls).1.map Outcome.isDuplicate =
            [false, false, true, true, false, true, false, false, false] ∧
          (d'.run calls).1.map Outcome.isDuplicate =
            [false, false, true, false, false, true, false, false, false] ∧
          (∀ n s, (d'.run (calls.take n)).2.contains s = true →
            (d.run (calls.take n)).2.contains s = true ∧
              (d.run (calls.take n)).2.lastSeen? s = (d'.run (calls.take n)).2.lastSeen? s) ∧
          List.Forall₂ (fun o o' : Outcome => o'.isDuplicate = true → o.isDuplicate = true)
            (d.run calls).1 (d'.run calls).1 := by
  obtain ⟨d, d', hd, hd', hrun⟩ := recency_outlasts_first_insertion
    ⟨50, 2, .bits64, .recency, .clock⟩ ⟨0⟩ (by decide)
  have hcovers := hrun [.check 0x123 [1] (some 0), .check 0x124 [2] (some 10),
    .check 0x123 [1] (some 30), .check 0x123 [1] (some 60), .check 0x124 [2] (some 20),
    .check 0x123 [1] (some 80), .sweep 131, .reset, .check 0x124 [2] (some 5)]
  cases hd
  cases hd'
  have hkept := hcovers (by decide +kernel)
  exact ⟨by decide, _, _, rfl, rfl, _, rfl, by decide +kernel, by decide +kernel, by decide +kernel,
    hkept⟩

-- With room for two and an eviction the order of the ledgers decides: recency drops the second
-- signature, first insertion the first one, although that was seen again.
example :
    let calls : List Call := [.check 0x123 [1] (some 0), .check 0x124 [2] (some 1),
      .check 0x123 [1] (some 2), .check 0x125 [] (some 3), .check 0x124 [2] (some 4)]
    (((initial ⟨50, 2, .bits64, .recency, .clock⟩ (by decide) ⟨0⟩).run calls).1.map
      Outcome.isDuplicate).getLast? = some false ∧
    (((initial ⟨50, 2, .bits64, .firstInsertion, .clock⟩ (by decide) ⟨0⟩).run calls).1.map
      Outcome.isDuplicate).getLast? = some true := by
  decide +kernel

end Detector

end EchoFilter
