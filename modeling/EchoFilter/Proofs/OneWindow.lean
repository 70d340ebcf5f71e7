import Mathlib.Data.Finset.Card
import EchoFilter.Proofs.Coherence

/-!
# One window — checks whose times span less than a window

When no two times of a window are a window apart, nothing in it can be stale and every key it holds
is a repeat; when the distinct keys are no more than the bound, nothing is evicted.  `Holds` is the
invariant, and it does not mention the order of the checks: the window holds exactly the keys seen
so far, with all its times inside the span.
-/

namespace EchoFilter

namespace Window

variable {K : Type} [Ord K] [Std.TransOrd K]

/-- The window holds exactly the keys of `seen`, and all its times are from `lo` to `hi`. -/
structure Holds (lim : Limits) (w : Window K) (seen : Finset K) (lo hi : Time) : Prop where
  coherent : w.Coherent lim
  contains_iff : ∀ k, w.contains k = true ↔ k ∈ seen
  placed : ∀ e ∈ w.ledger.entries, lo ≤ e.2
  mark : ∀ m, w.mark = some m → m ≤ hi

variable {lim : Limits} {w : Window K} {seen : Finset K} {lo hi : Time}

theorem holds_of_empty (hc : w.cache = ∅) (hl : w.ledger.entries = []) (hm : w.mark = none) :
    w.Holds lim ∅ lo hi where
  coherent := coherent_of_empty lim hc hl
  contains_iff k := by simp [contains, hc]
  placed e he := by rw [hl] at he; cases he
  mark m hmark := by rw [hm] at hmark; cases hmark

theorem Holds.staleAt (h : w.Holds lim seen lo hi) (hspan : hi - lo < lim.window) {now : Time}
    (hnow : now ≤ hi) : w.staleAt lim now = [] := by
  -- Every time is within the span, so the cutoff is before all of them.
  have hhead : ∀ e ∈ w.ledger.entries, ¬ e.2 < now - lim.window := by
    intro e he
    have hplaced := h.placed e he
    lia
  unfold Window.staleAt
  cases hl : w.ledger.entries with
  | nil => rfl
  | cons e r =>
    rw [hl] at hhead
    exact List.takeWhile_cons_of_neg (by simpa using hhead e List.mem_cons_self)

theorem Holds.clamp (h : w.Holds lim seen lo hi) {t : Time} (hlo : lo ≤ t) (hhi : t ≤ hi) :
    lo ≤ w.clamp t ∧ w.clamp t ≤ hi := by
  refine ⟨Nat.le_trans hlo (w.le_clamp t), ?_⟩
  unfold Window.clamp
  cases hm : w.mark with
  | none => exact hhi
  | some m => exact Nat.max_le.2 ⟨h.mark m hm, hhi⟩

variable [DecidableEq K]

theorem Holds.isRepeat (h : w.Holds lim seen lo hi) (hspan : hi - lo < lim.window) (k : K)
    {now : Time} (hnow : now ≤ hi) : w.isRepeat lim k now = decide (k ∈ seen) := by
  rw [Bool.eq_iff_iff, decide_eq_true_eq, isRepeat_eq_true_iff]
  constructor
  · rintro ⟨last, hlast, -⟩
    rw [← h.contains_iff, contains_eq_isSome, hlast, Option.isSome_some]
  · -- A key was last seen no earlier than it was placed, and no place is before the span.
    intro hk
    have hin := (h.coherent.contains_iff k).1 ((h.contains_iff k).2 hk)
    obtain ⟨e, he, rfl⟩ := List.mem_map.1 hin
    obtain ⟨last, mark, hlast, -, hplaced, -⟩ := h.coherent.dated e he
    have hlo := h.placed e he
    exact ⟨last, hlast, by lia⟩

theorem contains_iff_insert {w' : Window K} {k : K} {now : Time}
    (hseen : ∀ a, w.contains a = true ↔ a ∈ seen)
    (hput : ∀ a, w'.lastSeen? a = if a = k then some now else w.lastSeen? a) (a : K) :
    w'.contains a = true ↔ a ∈ insert k seen := by
  rw [contains_eq_isSome, hput, Finset.mem_insert]
  by_cases hak : a = k
  · simp [hak]
  · rw [if_neg hak, ← contains_eq_isSome, hseen]
    simp [hak]

variable [Std.LawfulEqOrd K]

theorem Aligned.size_eq_card (h : w.Aligned lim)
    (hseen : ∀ k, w.contains k = true ↔ k ∈ seen) : w.size = seen.card := by
  have hnodup : w.ledger.keys.Nodup := w.ledger.nodup
  have hkeys : w.ledger.keys.toFinset = seen := by
    ext k
    rw [List.mem_toFinset, ← h.contains_iff, hseen]
  rw [h.size_eq, ← hkeys, List.toFinset_card_of_nodup hnodup, Ledger.keys, List.length_map]

theorem Holds.sweep (h : w.Holds lim seen lo hi) (hspan : hi - lo < lim.window) {t : Time}
    (hlo : lo ≤ t) (hhi : t ≤ hi) :
    (w.sweep lim t).2.Holds lim seen lo hi ∧ (w.sweep lim t).1.expired = 0 := by
  have hclamp := h.clamp hlo hhi
  have hstale := h.staleAt hspan hclamp.2
  have hforgets := sweep_forgets lim w t
  rw [hstale] at hforgets
  refine ⟨⟨h.coherent.sweep t, fun k => ?_, fun e he => ?_, fun m hm => ?_⟩, ?_⟩
  · rw [contains_eq_isSome, hforgets.lastSeen? k List.not_mem_nil, ← contains_eq_isSome]
    exact h.contains_iff k
  · exact h.placed e (by rw [hforgets.entries]; exact he)
  · rw [mark_sweep, Option.some.injEq] at hm
    rw [← hm]
    exact hclamp.2
  · rw [expired_sweep, hstale, List.length_nil]

theorem Holds.answer (h : w.Holds lim seen lo hi) (hspan : hi - lo < lim.window) {t : Time}
    (hlo : lo ≤ t) (hhi : t ≤ hi) {k : K} (hcard : (insert k seen).card ≤ lim.capacity) :
    (w.check lim k t).1.duplicate = decide (k ∈ seen) ∧ (w.check lim k t).1.expired = 0 ∧
      (w.check lim k t).1.evicted = none ∧
      ∀ a, (w.check lim k t).2.contains a = true ↔ a ∈ insert k seen := by
  obtain ⟨hswept, hexpired⟩ := h.sweep hspan hlo hhi
  have hanswer := hswept.isRepeat hspan k (h.clamp hlo hhi).2
  cases hrep : (w.sweep lim t).2.isRepeat lim k (w.clamp t) with
  | true =>
    rw [check_of_repeat hrep]
    exact ⟨hrep.symm.trans hanswer, hexpired, rfl,
      contains_iff_insert hswept.contains_iff (lastSeen?_renew lim _ k · _)⟩
  | false =>
    have hput := remember_puts (w.sweep lim t).2 k (w.clamp t)
    have hcontains := contains_iff_insert hswept.contains_iff hput.lastSeen?
    -- As many keys as were seen, so the bound is kept without an eviction.
    have hsize : ((w.sweep lim t).2.remember k (w.clamp t)).size ≤ lim.capacity := by
      rw [(hswept.coherent.toAligned.remember (mark_sweep _ _ _) k).size_eq_card hcontains]
      exact hcard
    rw [check_of_new hrep, evict_of_le hsize]
    exact ⟨hrep.symm.trans hanswer, hexpired, rfl, hcontains⟩

theorem Holds.check (h : w.Holds lim seen lo hi) (hspan : hi - lo < lim.window) {t : Time}
    (hlo : lo ≤ t) (hhi : t ≤ hi) {k : K} (hcard : (insert k seen).card ≤ lim.capacity) :
    (w.check lim k t).2.Holds lim (insert k seen) lo hi where
  coherent := h.coherent.check k t
  contains_iff := (h.answer hspan hlo hhi hcard).2.2.2
  placed e he := by
    rcases mem_entries_of_check he with hold | rfl
    · exact h.placed e hold
    · exact (h.clamp hlo hhi).1
  mark m hm := by
    rw [mark_check, Option.some.injEq] at hm
    rw [← hm]
    exact (h.clamp hlo hhi).2

end Window

end EchoFilter
