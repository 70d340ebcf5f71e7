import EchoFilter.Proofs.Sessions
import EchoFilter.Proofs.Soundness

/-!
# Spacing — the same content reaches the sink at most once per window

A key that was let through is remembered from then on, and it is let through again only after it was
forgotten or was last seen a whole window ago.  A key can be forgotten by age or by number.  By age
it takes a window, under either policy, because no entry is placed before the key was let through;
and forgetting by number is in the verdict of the check that does it.  `Window.Guards` carries this
through the checks in between, and `delivers_once_per_window` says it of sessions.
-/

namespace EchoFilter

namespace Window

variable {K : Type} [Ord K]

theorem eq_of_mem_entries {w : Window K} {e e' : K × Time} (he : e ∈ w.ledger.entries)
    (he' : e' ∈ w.ledger.entries) (hkey : e.1 = e'.1) : e = e' :=
  List.inj_on_of_nodup_map w.ledger.nodup he he' hkey

variable [Std.TransOrd K]

/-- `k` was let through at `since`, and either a window has passed or `k` is remembered, last seen
and placed no earlier. -/
def Guards (lim : Limits) (w : Window K) (k : K) (since : Time) : Prop :=
  ∃ mark, w.mark = some mark ∧ since ≤ mark ∧
    (lim.window ≤ mark - since ∨
      ∃ last placed, w.lastSeen? k = some last ∧ (k, placed) ∈ w.ledger.entries ∧ since ≤ last ∧
        since ≤ placed)

variable [Std.LawfulEqOrd K] [DecidableEq K]
variable {lim : Limits} {w : Window K} {k : K} {since : Time}

theorem Guards.sweep (h : w.Guards lim k since) (t : Time) :
    (w.sweep lim t).2.Guards lim k since := by
  obtain ⟨mark, hmark, hsince, hheld⟩ := h
  have hclamp := le_clamp_of_mark (t := t) hmark
  refine ⟨w.clamp t, mark_sweep lim w t, by lia, ?_⟩
  rcases hheld with hpassed | ⟨last, placed, hlast, hentry, hseen, hplaced⟩
  · left
    lia
  · have hf := sweep_forgets lim w t
    by_cases hgone : k ∈ (w.staleAt lim (w.clamp t)).map Prod.fst
    · -- What expires was placed more than a window ago, and not before `since`.
      obtain ⟨e, he, hkey⟩ := List.mem_map.1 hgone
      have hin : e ∈ w.ledger.entries := by
        rw [hf.entries]
        exact List.mem_append_left _ he
      have hsame := eq_of_mem_entries hin hentry hkey
      have hstale : e.2 < w.clamp t - lim.window := by
        unfold staleAt at he
        simpa using List.mem_takeWhile_imp he
      rw [hsame] at hstale
      left
      lia
    · refine Or.inr ⟨last, placed, ?_, ?_, hseen, hplaced⟩
      · rw [hf.lastSeen? k hgone, hlast]
      · rw [hf.entries, List.mem_append] at hentry
        exact hentry.resolve_left fun hin => hgone (List.mem_map_of_mem hin)

omit [Std.LawfulEqOrd K] in
theorem Guards.of_puts (h : w.Guards lim k since) {w' : Window K} {a : K} {now : Time}
    (hnow : w.mark = some now) (hp : Puts w w' a now) : w'.Guards lim k since := by
  obtain ⟨mark, hmark, hsince, hheld⟩ := h
  refine ⟨mark, hp.mark.trans hmark, hsince, ?_⟩
  rw [hnow, Option.some.injEq] at hmark
  by_cases hka : k = a
  · refine Or.inr ⟨now, now, ?_, ?_, by lia, by lia⟩
    · rw [hp.lastSeen?, if_pos hka]
    · rw [hp.entries, hka]
      exact List.mem_append_right _ (List.mem_singleton_self _)
  · apply hheld.imp_right
    rintro ⟨last, placed, hlast, hentry, hseen, hplaced⟩
    refine ⟨last, placed, ?_, ?_, hseen, hplaced⟩
    · rw [hp.lastSeen?, if_neg hka, hlast]
    · rw [hp.entries]
      exact List.mem_append_left _ (List.mem_filter.2 ⟨hentry, by simpa using hka⟩)

theorem Guards.renew (h : w.Guards lim k since) (haligned : w.Aligned lim) {a : K} {now : Time}
    (hnow : w.mark = some now) (hrep : w.isRepeat lim a now = true) :
    (w.renew lim a now).Guards lim k since := by
  cases hpol : lim.policy with
  | recency => exact h.of_puts hnow (renew_puts hpol (haligned.ledger_contains hrep) now)
  | firstInsertion =>
    -- The place stays, and a sighting is never before `since`.
    obtain ⟨mark, hmark, hsince, hheld⟩ := h
    refine ⟨mark, hmark, hsince, ?_⟩
    rw [hnow, Option.some.injEq] at hmark
    apply hheld.imp_right
    rintro ⟨last, placed, hlast, hentry, hseen, hplaced⟩
    rw [lastSeen?_renew, ledger_renew hpol]
    by_cases hka : k = a
    · exact ⟨now, placed, if_pos hka, hentry, by lia, hplaced⟩
    · exact ⟨last, placed, (if_neg hka).trans hlast, hentry, hseen, hplaced⟩

theorem Guards.evict (h : w.Guards lim k since) (haligned : w.Aligned lim)
    (hkept : ∀ e, (w.evict lim).1 = some e → e.1 ≠ k) : (w.evict lim).2.Guards lim k since := by
  by_cases hsize : w.size ≤ lim.capacity
  · rw [evict_of_le hsize]
    exact h
  · obtain ⟨e, r, hl⟩ := haligned.exists_oldest (Nat.lt_of_not_le hsize)
    obtain ⟨hevicted, hf⟩ := evict_of_lt (Nat.lt_of_not_le hsize) hl
    have hne := hkept e hevicted
    obtain ⟨mark, hmark, hsince, hheld⟩ := h
    refine ⟨mark, (mark_evict lim w).trans hmark, hsince, ?_⟩
    apply hheld.imp_right
    rintro ⟨last, placed, hlast, hentry, hseen, hplaced⟩
    refine ⟨last, placed, ?_, ?_, hseen, hplaced⟩
    · rw [hf.lastSeen? k (by simpa using hne.symm), hlast]
    · rw [hf.entries, List.mem_append, List.mem_singleton] at hentry
      refine hentry.resolve_left fun heq => hne ?_
      rw [← heq]

/-- A check guards on, unless it forgets the key by number. -/
theorem Guards.check (h : w.Guards lim k since) (hc : w.Coherent lim) (a : K) (t : Time)
    (hkept : ∀ e, (w.check lim a t).1.evicted = some e → e.1 ≠ k) :
    (w.check lim a t).2.Guards lim k since := by
  have hswept := h.sweep t
  have haligned := hc.toAligned.sweep t
  have hmark := mark_sweep lim w t
  cases hrep : (w.sweep lim t).2.isRepeat lim a (w.clamp t) with
  | true =>
    rw [check_of_repeat hrep]
    exact hswept.renew haligned hmark hrep
  | false =>
    rw [check_of_new hrep] at hkept ⊢
    exact (hswept.of_puts hmark (remember_puts _ a _)).evict (haligned.remember hmark a) hkept

theorem guards_of_accepted (hcap : 0 < lim.capacity) (hc : w.Coherent lim) {t : Time}
    (hnew : (w.check lim k t).1.duplicate = false) :
    (w.check lim k t).2.Guards lim k (w.clamp t) := by
  have hlast := lastSeen?_check hcap hc k t
  obtain ⟨⟨a, placed⟩, hentry, hkey⟩ :=
    List.mem_map.1 ((hc.check k t).toAligned.mem_of_lastSeen? hlast)
  rw [show a = k from hkey] at hentry
  refine ⟨w.clamp t, mark_check lim w k t, Nat.le_refl _,
    Or.inr ⟨w.clamp t, placed, hlast, hentry, Nat.le_refl _, ?_⟩⟩
  -- The only entry of an accepted key is the one it was just given.
  rw [check_duplicate] at hnew
  rw [check_of_new hnew] at hentry
  have hput := entries_evict_subset _ _ hentry
  rw [(remember_puts _ _ _).entries, List.mem_append, List.mem_filter, List.mem_singleton] at hput
  rcases hput with ⟨-, hne⟩ | heq
  · exact absurd rfl (of_decide_eq_true hne)
  · exact Nat.le_of_eq (congrArg Prod.snd heq).symm

-- What is let through again is let through a window later.
theorem Guards.window_le (h : w.Guards lim k since) {t : Time}
    (hnew : (w.check lim k t).1.duplicate = false) : lim.window ≤ w.clamp t - since := by
  obtain ⟨mark, hmark, -, hheld⟩ := h.sweep t
  rw [mark_sweep, Option.some.injEq] at hmark
  rw [← hmark] at hheld
  rcases hheld with hpassed | ⟨last, placed, hlast, -, hseen, -⟩
  · exact hpassed
  · rw [check_duplicate] at hnew
    have hfar : ¬ w.clamp t - last < lim.window := fun hinside => by
      rw [isRepeat_eq_true_iff.2 ⟨last, hlast, hinside⟩] at hnew
      cases hnew
    lia

end Window

/-! ## Frames judged one after another -/

/-- The key that was forgotten by number. -/
def Note.evicted? (n : Note) : Option Signature :=
  match n.outcome with
  | .judged _ v => v.evicted.map Prod.fst
  | _ => none

namespace Detector

/-- The times that frames bring: their stamps, or the clock at their moments. -/
def arrivals (config : Config) (moment : Nat → Moment) (frames : List Frame) : List Time :=
  frames.mapIdx fun i f => Call.arrivalTime config (moment i).clock f

/-- The time that the frame at a position is processed at: the latest that came up to there. -/
def processedAt (config : Config) (moment : Nat → Moment) (frames : List Frame) (i : Nat) : Time :=
  (arrivals config moment (frames.take (i + 1))).foldl max 0

theorem Kept.judge {d : Detector} (h : d.Kept) (f : Frame) (moment : Moment) :
    (d.judge f moment).2.Kept :=
  Kept.perform (d := { d with clock := moment.clock }) ⟨h.coherent, h.width⟩ (.frame f)

theorem Kept.watch {d : Detector} (h : d.Kept) (moment : Nat → Moment) (n : Nat)
    (frames : List Frame) : (d.watch moment n frames).2.Kept := by
  induction frames generalizing n d with
  | nil => exact h
  | cons f rest ih => exact ih (h.judge f (moment n)) (n + 1)

theorem config_watch (d : Detector) (moment : Nat → Moment) (n : Nat) (frames : List Frame) :
    (d.watch moment n frames).2.config = d.config := by
  induction frames generalizing n d with
  | nil => rfl
  | cons f rest ih => exact (ih _ _).trans (d.config_judge f (moment n))

theorem limits_watch (d : Detector) (moment : Nat → Moment) (n : Nat) (frames : List Frame) :
    (d.watch moment n frames).2.limits = d.limits :=
  limits_congr (config_watch d moment n frames)

-- A note is made before the frames behind it are seen.
theorem getElem?_watch (moment : Nat → Moment) (n : Nat) (d : Detector) (frames : List Frame)
    (i : Nat) :
    (d.watch moment n frames).1[i]? = frames[i]?.map fun f =>
      ((d.watch moment n (frames.take i)).2.judge f (moment (n + i))).1 := by
  induction frames generalizing n d i with
  | nil => rfl
  | cons g rest ih =>
    cases i with
    | zero => rfl
    | succ i =>
      have hrest := ih (n + 1) (d.judge g (moment n)).2 i
      rw [Nat.add_assoc, Nat.add_comm 1] at hrest
      exact hrest

theorem mark_watch (moment : Nat → Moment) {d : Detector} (hfresh : d.window.mark = none)
    (frames : List Frame) :
    (d.watch moment 0 frames).2.window.mark.getD 0 =
      (arrivals d.config moment frames).foldl max 0 := by
  induction frames using List.reverseRecOn with
  | nil =>
    show d.window.mark.getD 0 = 0
    rw [hfresh]
    rfl
  | append_singleton frames f ih =>
    -- Each check leaves the mark at the time it was processed at.
    have hmark := Window.mark_check (d.watch moment 0 frames).2.limits
      (d.watch moment 0 frames).2.window (.ofFrame (d.watch moment 0 frames).2.config.width f)
      (Call.arrivalTime (d.watch moment 0 frames).2.config (moment frames.length).clock f)
    rw [watch_concat, judge_window, hmark, arrivals, List.mapIdx_concat, List.foldl_concat,
      Option.getD_some, Window.clamp_eq_max, ih, config_watch]
    rfl

theorem clamp_watch (moment : Nat → Moment) {d : Detector} (hfresh : d.window.mark = none)
    {frames : List Frame} {i : Nat} {f : Frame} (hf : frames[i]? = some f) :
    (d.watch moment 0 (frames.take i)).2.window.clamp
        (Call.arrivalTime d.config (moment i).clock f) =
      processedAt d.config moment frames i := by
  obtain ⟨hi, -⟩ := List.getElem?_eq_some_iff.1 hf
  rw [Window.clamp_eq_max, mark_watch moment hfresh, processedAt, List.take_add_one, hf,
    Option.toList_some, arrivals, arrivals, List.mapIdx_concat, List.foldl_concat,
    List.length_take_of_le (Nat.le_of_lt hi)]

/-! ## Between two deliveries -/

theorem guards_watch {d : Detector} (h : d.Kept) {lim : Limits} (hlim : d.limits = lim)
    {s : Signature} {since : Time} (hguards : d.window.Guards lim s since)
    (moment : Nat → Moment) (n : Nat) {frames : List Frame}
    (hkept : ∀ note ∈ (d.watch moment n frames).1, note.evicted? ≠ some s) :
    (d.watch moment n frames).2.window.Guards lim s since := by
  induction frames generalizing n d with
  | nil => exact hguards
  | cons f rest ih =>
    have hfirst : (d.judge f (moment n)).1.evicted? ≠ some s := hkept _ List.mem_cons_self
    refine ih (h.judge f (moment n)) ?_ ?_ (n + 1)
      fun note hnote => hkept note (List.mem_cons_of_mem _ hnote)
    · rw [limits, config_judge]
      exact hlim
    · subst hlim
      rw [judge_window]
      refine hguards.check h.coherent _ _ fun e he heq => hfirst ?_
      unfold Note.evicted?
      rw [judge_outcome]
      dsimp only
      rw [he, ← heq]
      rfl

/-- Two positions lie a window apart, or between them a signature was forgotten by number. -/
def Apart (d : Detector) (moment : Nat → Moment) (frames : List Frame) (s : Signature)
    (i j : Nat) : Prop :=
  d.config.windowMs.toNat ≤
      processedAt d.config moment frames j - processedAt d.config moment frames i ∨
    ∃ (k : Nat) (note : Note), i < k ∧ k < j ∧ (d.watch moment 0 frames).1[k]? = some note ∧
      note.evicted? = some s

theorem watch_take_succ (moment : Nat → Moment) (d : Detector) {frames : List Frame} {i : Nat}
    {f : Frame} (hf : frames[i]? = some f) :
    (d.watch moment 0 (frames.take (i + 1))).2 =
      ((d.watch moment 0 (frames.take i)).2.judge f (moment i)).2 := by
  obtain ⟨hi, -⟩ := List.getElem?_eq_some_iff.1 hf
  rw [List.take_add_one, hf, Option.toList_some, watch_concat,
    List.length_take_of_le (Nat.le_of_lt hi)]

theorem watch_take (moment : Nat → Moment) (d : Detector) {frames : List Frame} {i j : Nat}
    (hij : i ≤ j) (hj : j ≤ frames.length) :
    d.watch moment 0 (frames.take j) =
      ((d.watch moment 0 (frames.take i)).1 ++
          ((d.watch moment 0 (frames.take i)).2.watch moment i ((frames.take j).drop i)).1,
        ((d.watch moment 0 (frames.take i)).2.watch moment i ((frames.take j).drop i)).2) := by
  have hsplit := List.take_append_drop i (frames.take j)
  rw [List.take_take, Nat.min_eq_left hij] at hsplit
  conv_lhs => rw [← hsplit, watch_append]
  rw [Nat.zero_add, List.length_take_of_le (Nat.le_trans hij hj)]

theorem getElem?_watch_of_take (moment : Nat → Moment) (d : Detector) {frames : List Frame}
    {n i : Nat} {note : Note} (h : (d.watch moment 0 (frames.take n)).1[i]? = some note) :
    (d.watch moment 0 frames).1[i]? = some note := by
  obtain ⟨hi, -⟩ := List.getElem?_eq_some_iff.1 h
  have hwhole := d.watch_append moment 0 (frames.take n) (frames.drop n)
  rw [List.take_append_drop] at hwhole
  rw [hwhole, List.getElem?_append_left hi]
  exact h

theorem exists_position (moment : Nat → Moment) (d : Detector) {frames : List Frame} {i j : Nat}
    (hij : i ≤ j) (hj : j ≤ frames.length) {note : Note}
    (h : note ∈ ((d.watch moment 0 (frames.take i)).2.watch moment i
      ((frames.take j).drop i)).1) :
    ∃ k, i ≤ k ∧ k < j ∧ (d.watch moment 0 frames).1[k]? = some note := by
  obtain ⟨p, hp, hnote⟩ := List.getElem_of_mem h
  have hlength : (d.watch moment 0 (frames.take i)).1.length = i := by
    rw [length_watch, List.length_take_of_le (Nat.le_trans hij hj)]
  have hbetween := hp
  rw [length_watch, List.length_drop, List.length_take_of_le hj] at hbetween
  refine ⟨i + p, by omega, by omega, getElem?_watch_of_take moment d (n := j) ?_⟩
  rw [watch_take moment d hij hj, List.getElem?_append_right (by omega), hlength,
    Nat.add_sub_cancel_left, ← hnote]
  exact List.getElem?_eq_getElem hp

theorem apart_of_passed {d : Detector} (h : d.Kept) (hfresh : d.window.mark = none)
    (moment : Nat → Moment) {frames : List Frame} {i j : Nat} (hij : i < j) {f g : Frame}
    (hf : frames[i]? = some f) (hg : frames[j]? = some g) (hsame : f.sameContent g = true)
    {m n : Note} (hm : (d.watch moment 0 frames).1[i]? = some m) (hmnew : m.isDuplicate = false)
    (hn : (d.watch moment 0 frames).1[j]? = some n) (hnnew : n.isDuplicate = false) :
    d.Apart moment frames (.ofFrame d.config.width f) i j := by
  unfold Apart
  by_cases hevicted : ∃ (k : Nat) (note : Note), i < k ∧ k < j ∧
      (d.watch moment 0 frames).1[k]? = some note ∧
      note.evicted? = some (.ofFrame d.config.width f)
  · exact Or.inr hevicted
  · left
    obtain ⟨hj, -⟩ := List.getElem?_eq_some_iff.1 hg
    have hsignature : Signature.ofFrame d.config.width g = .ofFrame d.config.width f := by
      obtain ⟨hid, hpayload⟩ := of_decide_eq_true hsame
      rw [Signature.ofFrame, Signature.ofFrame, hid, hpayload]
    rw [getElem?_watch, hf, Option.map_some, Option.some.injEq, Nat.zero_add] at hm
    rw [getElem?_watch, hg, Option.map_some, Option.some.injEq, Nat.zero_add] at hn
    rw [← hm, isDuplicate_judge, config_watch, limits_watch] at hmnew
    rw [← hn, isDuplicate_judge, config_watch, limits_watch, hsignature] at hnnew
    have hcoherent := (h.watch moment 0 (frames.take i)).coherent
    rw [limits_watch] at hcoherent
    -- From its own position on, `f` guards its signature.
    have hguards : (d.watch moment 0 (frames.take (i + 1))).2.window.Guards d.limits
        (.ofFrame d.config.width f) (processedAt d.config moment frames i) := by
      rw [watch_take_succ moment d hf, judge_window, config_watch, limits_watch,
        ← clamp_watch moment hfresh hf]
      exact Window.guards_of_accepted d.capacity_pos hcoherent hmnew
    have hstill : (d.watch moment 0 (frames.take j)).2.window.Guards d.limits
        (.ofFrame d.config.width f) (processedAt d.config moment frames i) := by
      rw [watch_take moment d hij (Nat.le_of_lt hj)]
      refine guards_watch (h.watch moment 0 _) (d.limits_watch moment 0 _) hguards moment (i + 1)
        fun note hnote heq => ?_
      obtain ⟨k, hik, hkj, hk⟩ := exists_position moment d hij (Nat.le_of_lt hj) hnote
      exact hevicted ⟨k, note, hik, hkj, hk, heq⟩
    rw [← clamp_watch moment hfresh hg]
    exact hstill.window_le hnnew

end Detector

/-! ## Deliveries of a session -/

namespace Session

variable {σ ρ : Type} [Recorder ρ]

/-- The frames that a detector let pass, each with its position in the queue. -/
def passages (moment : Nat → Moment) (d : Detector) (s : Session σ ρ) : List (Frame × Nat) :=
  passed s.frames.zipIdx (d.watch moment 0 s.frames).1

omit [Recorder ρ] in
theorem getElem?_of_mem_passages {moment : Nat → Moment} {d : Detector} {s : Session σ ρ}
    {x : Frame × Nat} (h : x ∈ s.passages moment d) :
    s.frames[x.2]? = some x.1 ∧
      ∃ note, (d.watch moment 0 s.frames).1[x.2]? = some note ∧ note.isDuplicate = false := by
  obtain ⟨i, note, hx, hnote, hnew⟩ := getElem?_of_mem_passed h
  rw [List.getElem?_zipIdx, Nat.zero_add] at hx
  obtain ⟨f, hf, rfl⟩ := Option.map_eq_some_iff.1 hx
  exact ⟨hf, note, hnote, hnew⟩

omit [Recorder ρ] in
theorem passages_prefix (moment : Nat → Moment) (d : Detector) (s : Session σ ρ) (n : Nat) :
    passed (s.frames.take n).zipIdx (d.watch moment 0 (s.frames.take n)).1 <+:
      s.passages moment d := by
  have hframes := List.take_append_drop n s.frames
  have hwatch := d.watch_append moment 0 (s.frames.take n) (s.frames.drop n)
  have hzip : (s.frames.take n ++ s.frames.drop n).zipIdx = _ := List.zipIdx_append
  rw [hframes] at hwatch hzip
  rw [passages, hwatch, hzip, passed_append (by
    rw [List.length_zipIdx, Detector.length_watch])]
  exact List.prefix_append _ _

theorem Stands.exists_handed {moment : Nat → Moment} {monitor : Monitor ρ} {s : Session σ ρ}
    (h : s.Stands moment monitor) :
    ∃ handed, s.ingest.sink.answered.map Prod.fst = handed.map Prod.fst ∧
      handed <+: s.passages moment monitor.detector := by
  obtain ⟨report, kept, n, hbooks⟩ := h.books
  have hpassed := passed_map Prod.fst (s.frames.take n).zipIdx
    (monitor.detector.watch moment 0 (s.frames.take n)).1
  have hhanded := hbooks.handed
  -- The frames handed are those of the first passages, so these are the passages handed.
  rw [List.zipIdx_map_fst] at hpassed
  rw [hpassed] at hhanded
  refine ⟨_, ?_, (List.take_prefix s.ingest.sink.answered.length _).trans
    (s.passages_prefix moment monitor.detector n)⟩
  -- A frame that is still kept comes after all that were handed.
  rw [List.map_take, ← hhanded]
  exact (List.take_left' (List.length_map _)).symm

/-- What was handed to the sink is what the detector let pass, from the first on, and two deliveries
of the same content lie apart. -/
structure Spaced (moment : Nat → Moment) (d : Detector) (s : Session σ ρ)
    (handed : List (Frame × Nat)) : Prop where
  answered : s.ingest.sink.answered.map Prod.fst = handed.map Prod.fst
  passed : handed <+: s.passages moment d
  apart : ∀ x ∈ handed, ∀ y ∈ handed, x.2 < y.2 → x.1.sameContent y.1 = true →
    d.Apart moment s.frames (.ofFrame d.config.width x.1) x.2 y.2

/-- **The same content reaches the sink at most once per window.**  A valid configuration gives a
detector, and in any session with it two deliveries of the same content lie a window apart in the
time they were processed at, or a check between them told that it forgot their signature by
number. -/
theorem delivers_once_per_window (config : Config) (clock : Clock) (hvalid : config.Valid) :
    ∃ d, Detector.create config clock = .ok d ∧ ∀ (σ ρ : Type) [Sink σ] [Recorder ρ] (sink : σ)
      (recorder : ρ) (capacity : Nat) (moment : Nat → Moment) (turns : List (Turn σ)),
      ∃ handed, Spaced moment d
        ((start { detector := d, recorder } sink capacity).play moment turns) handed := by
  refine ⟨_, Detector.create_of_valid config clock hvalid,
    fun σ ρ _ _ sink recorder capacity moment turns => ?_⟩
  have hkept := Detector.kept_initial config hvalid clock
  have hstands := (stands_start moment
    { detector := .initial config hvalid clock, recorder } sink capacity).play turns
  obtain ⟨handed, hanswered, hpassed⟩ := hstands.exists_handed
  refine ⟨handed, hanswered, hpassed, fun x hx y hy hxy hsame => ?_⟩
  obtain ⟨hxframe, m, hm, hmnew⟩ := getElem?_of_mem_passages (hpassed.subset hx)
  obtain ⟨hyframe, n, hn, hnnew⟩ := getElem?_of_mem_passages (hpassed.subset hy)
  exact Detector.apart_of_passed hkept rfl moment hxy hxframe hyframe hsame hm hmnew hn hnnew

/-- With room for one signature a frame between two copies is enough for all three to be
delivered. -/
theorem delivers_once_per_window_one_entry :
    Config.Valid ⟨50, 1, .bits64, .firstInsertion, .frameArrival⟩ ∧
      ∃ d handed,
        Detector.create ⟨50, 1, .bits64, .firstInsertion, .frameArrival⟩ ⟨0⟩ = .ok d ∧
        handed.length = 3 ∧
        Spaced (fun _ => { clock := ⟨0⟩ }) d
          ((start { detector := d, recorder := () } (⟨[]⟩ : Scripted) 8).play
            (fun _ => { clock := ⟨0⟩ })
            [.attach "can0", .send 0 0x123 [1] 100, .send 0 0x124 [2] 110, .send 0 0x123 [1] 120,
              .send 0 0x123 [1] 130, .poll]) handed := by
  obtain ⟨d, hd, hspaced⟩ := delivers_once_per_window
    ⟨50, 1, .bits64, .firstInsertion, .frameArrival⟩ ⟨0⟩ (by decide)
  obtain ⟨handed, hhanded⟩ := hspaced Scripted Unit ⟨[]⟩ () 8 (fun _ => { clock := ⟨0⟩ })
    [.attach "can0", .send 0 0x123 [1] 100, .send 0 0x124 [2] 110, .send 0 0x123 [1] 120,
      .send 0 0x123 [1] 130, .poll]
  refine ⟨by decide, d, handed, hd, ?_, hhanded⟩
  have hlength := congrArg List.length hhanded.answered
  rw [List.length_map, List.length_map] at hlength
  rw [← hlength]
  cases hd
  decide +kernel

end Session

end EchoFilter
