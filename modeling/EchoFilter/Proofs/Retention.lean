import EchoFilter.Proofs.Coherence
import EchoFilter.Proofs.History

/-!
# Retention — the window is a function of its history

`Follows` ties a window to a history: the ledger, newest first, is what the last placements leave
after a cut by number and a cut by time.  Which checks count as placements is the only thing the two
policies differ in, so one step lemma serves both.  `contains_iff_of_follows` and
`duplicate_iff_of_follows` read the answers off the history.
-/

namespace EchoFilter

open History

/-- Which answers put the key of a check at the tail of the ledger. -/
def Policy.places : Policy → Bool → Bool
  | .recency => anyAnswer
  | .firstInsertion => accepting

theorem Policy.places_false (p : Policy) : p.places false = true := by
  cases p <;> rfl

namespace Window

variable {K : Type} [Ord K] [Std.TransOrd K] [Std.LawfulEqOrd K] [DecidableEq K]

/-- The entries that the policy, the bound and the length of a window leave of a history, newest
first. -/
def kept (lim : Limits) (past : List (Happening K)) : List (K × Time) :=
  ((placements lim.policy.places past).take lim.capacity).filter fun e =>
    (latest? past).getD 0 - lim.window ≤ e.2

/-- The window has the mark, the ledger and the last sightings that its history says. -/
structure Follows (lim : Limits) (w : Window K) (past : List (Happening K)) : Prop where
  mark : w.mark = latest? past
  entries : w.ledger.entries.reverse = kept lim past
  lastSeen? : ∀ k last, w.lastSeen? k = some last → lastCheck? k past = some last

omit [Std.TransOrd K] [Std.LawfulEqOrd K] [DecidableEq K] in
theorem clamp_of_mark_eq {L : Type} {w : Window K} {past : List (Happening L)}
    (h : w.mark = latest? past) (t : Time) : w.clamp t = processed past t := by
  unfold Window.clamp processed
  rw [h]
  cases latest? past with
  | none => exact (Nat.zero_max t).symm
  | some m => rfl

omit [Std.LawfulEqOrd K] in
theorem Follows.clamp {lim : Limits} {w : Window K} {past : List (Happening K)}
    (h : w.Follows lim past) (t : Time) : w.clamp t = processed past t :=
  clamp_of_mark_eq h.mark t

/-! ## One step -/

-- The ledger loses what the stronger cut by time takes; the cut by number comes out the same.
theorem Follows.sweep {lim : Limits} {w : Window K} {past : List (Happening K)}
    (hw : w.Aligned lim) (h : w.Follows lim past) (t : Time) :
    (w.sweep lim t).2.Follows lim (.swept t :: past) where
  mark := congrArg some (h.clamp t)
  entries := by
    rw [entries_sweep, DatedKeys.dropWhile_eq_filter hw.ascending, ← List.filter_reverse, h.entries,
      kept, List.filter_filter, h.clamp]
    apply List.filter_congr
    intro e _
    -- The new cut is the stronger one: time does not run backwards.
    have hle : (latest? past).getD 0 ≤ processed past t := Nat.le_max_left _ _
    show (decide (processed past t - lim.window ≤ e.2) &&
      decide ((latest? past).getD 0 - lim.window ≤ e.2)) =
        decide (processed past t - lim.window ≤ e.2)
    rw [Bool.and_eq_left_iff_imp, decide_eq_true_eq, decide_eq_true_eq]
    lia
  lastSeen? k last hk := h.lastSeen? k last ((sweep_forgets lim w t).lastSeen?_of_some hk)

theorem entries_evict_reverse {lim : Limits} {w w' : Window K} {k : K} {now : Time}
    (hw' : w'.Aligned lim) (hsize : w'.size ≤ lim.capacity + 1) (hp : Puts w w' k now) :
    (w'.evict lim).2.ledger.entries.reverse =
      ((k, now) :: w.ledger.entries.reverse.filter fun e => e.1 ≠ k).take lim.capacity := by
  have hreverse : w'.ledger.entries.reverse =
      (k, now) :: w.ledger.entries.reverse.filter fun e => e.1 ≠ k := by
    rw [hp.entries, List.reverse_append, List.reverse_singleton, List.singleton_append,
      List.filter_reverse]
  rw [← hreverse]
  -- Within the bound the cut takes nothing; one over it, it takes the last, which is the oldest.
  by_cases hle : w'.size ≤ lim.capacity
  · rw [evict_of_le hle, List.take_of_length_le]
    rw [List.length_reverse, ← hw'.size_eq]
    exact hle
  · obtain ⟨e, r, hl⟩ := hw'.exists_oldest (Nat.lt_of_not_le hle)
    obtain ⟨-, hf⟩ := evict_of_lt (Nat.lt_of_not_le hle) hl
    have hr : (w'.evict lim).2.ledger.entries = r := by
      have hentries := hf.entries
      rw [hl, List.singleton_append, List.cons.injEq] at hentries
      exact hentries.2.symm
    have hlength : r.reverse.length = lim.capacity := by
      rw [hw'.size_eq, hl, List.length_cons] at hle hsize
      rw [List.length_reverse]
      omega
    rw [hr, hl, List.reverse_cons, List.take_left' hlength]

omit [Ord K] [Std.TransOrd K] [Std.LawfulEqOrd K] in
theorem kept_checked {lim : Limits} (hcap : 0 < lim.capacity) {past : List (Happening K)} {k : K}
    {t : Time} {duplicate : Bool} (hpl : lim.policy.places duplicate = true) :
    kept lim (.checked k t duplicate :: past) =
      ((k, processed past t) :: (kept lim (.swept t :: past)).filter fun e => e.1 ≠ k).take
        lim.capacity := by
  obtain ⟨n, hn⟩ := Nat.exists_eq_add_of_lt hcap
  rw [Nat.zero_add] at hn
  have hfront : placements lim.policy.places (.checked k t duplicate :: past) =
      (k, processed past t) :: (placements lim.policy.places past).filter fun e => e.1 ≠ k :=
    if_pos hpl
  unfold kept
  rw [hfront, hn]
  exact (DatedKeys.take_recent_cons (nodup_placements past) (descending_placements past)
    (Nat.sub_le _ _) n).symm

omit [Ord K] [Std.TransOrd K] [Std.LawfulEqOrd K] in
theorem kept_not_placed {lim : Limits} {past : List (Happening K)} {k : K} {t : Time}
    {duplicate : Bool} (hpl : lim.policy.places duplicate = false) :
    kept lim (.checked k t duplicate :: past) = kept lim (.swept t :: past) := by
  have hsame : placements lim.policy.places (.checked k t duplicate :: past) =
      placements lim.policy.places past := if_neg (by rw [hpl]; exact Bool.false_ne_true)
  unfold kept
  rw [hsame]
  rfl

/-- **One check.**  A window that follows its history follows it through a check and its answer: the
answer decides whether the check is a placement. -/
theorem Follows.check {lim : Limits} (hcap : 0 < lim.capacity) {w : Window K}
    {past : List (Happening K)} (hw : w.Coherent lim) (h : w.Follows lim past) (k : K) (t : Time) :
    (w.check lim k t).2.Follows lim (.checked k t (w.check lim k t).1.duplicate :: past) where
  mark := by
    rw [mark_check, h.clamp]
    rfl
  lastSeen? a last ha := by
    apply lastCheck?_checked
    rw [← h.clamp]
    rcases lastSeen?_of_check ha with hk | ⟨hne, hlast⟩
    · exact Or.inl hk
    · exact Or.inr ⟨hne, h.lastSeen? a last hlast⟩
  entries := by
    have hswept := h.sweep hw.toAligned t
    have hcoherent := hw.sweep t
    have hmark := mark_sweep lim w t
    cases hrep : (w.sweep lim t).2.isRepeat lim k (w.clamp t) with
    | true =>
      have hrenewed := hcoherent.renew hmark hrep
      rw [check_of_repeat hrep]
      -- Only recency places a repeat; by first insertion the history is the one of a sweep.
      cases hpol : lim.policy with
      | recency =>
        -- Nothing is over the bound, so the cut of an eviction changes nothing.
        have hcut := entries_evict_reverse hrenewed.toAligned (Nat.le_succ_of_le hrenewed.size_le)
          (renew_puts hpol (hcoherent.toAligned.ledger_contains hrep) (w.clamp t))
        rw [evict_of_le hrenewed.size_le, hswept.entries, h.clamp] at hcut
        rw [kept_checked hcap (by rw [hpol]; rfl), ← hcut, h.clamp]
      | firstInsertion =>
        rw [kept_not_placed (by rw [hpol]; rfl), ledger_renew hpol]
        exact hswept.entries
    | false =>
      have hcut := entries_evict_reverse (hcoherent.toAligned.remember hmark k)
        (hcoherent.size_remember_le k _) (remember_puts _ k (w.clamp t))
      rw [hswept.entries, h.clamp] at hcut
      rw [check_of_new hrep, kept_checked hcap lim.policy.places_false, ← hcut, h.clamp]

omit [Std.LawfulEqOrd K] in
theorem follows_of_empty (lim : Limits) {w : Window K} (hc : w.cache = ∅)
    (hl : w.ledger.entries = []) (hm : w.mark = none) {past : List (Happening K)}
    (hlatest : latest? past = none) (hplaced : ∀ selected, placements selected past = []) :
    w.Follows lim past where
  mark := by rw [hm, hlatest]
  entries := by rw [hl, kept, hplaced, List.take_nil, List.filter_nil, List.reverse_nil]
  lastSeen? k last hk := by
    unfold Window.lastSeen? at hk
    rw [hc, Std.ExtTreeMap.getElem?_empty] at hk
    cases hk

/-! ## Reading the answers off the history -/

omit [Std.LawfulEqOrd K] in
theorem contains_iff_of_follows {lim : Limits} {w : Window K} {past : List (Happening K)}
    (hw : w.Aligned lim) (h : w.Follows lim past) (k : K) :
    w.contains k = true ↔ ∃ placed, last? lim.policy.places k past = some placed ∧
      (latest? past).getD 0 - placed ≤ lim.window ∧
      (since lim.policy.places k past).card < lim.capacity := by
  rw [hw.contains_iff, Ledger.keys, List.mem_map]
  have hmem : ∀ placed, (k, placed) ∈ w.ledger.entries ↔
      (last? lim.policy.places k past = some placed ∧
        (since lim.policy.places k past).card < lim.capacity) ∧
      (latest? past).getD 0 - lim.window ≤ placed := by
    intro placed
    rw [← List.mem_reverse, h.entries, kept, List.mem_filter, mem_take_placements,
      decide_eq_true_eq]
  constructor
  · rintro ⟨⟨_, placed⟩, he, rfl⟩
    obtain ⟨⟨hlast, hcard⟩, hfresh⟩ := (hmem placed).1 he
    exact ⟨placed, hlast, by lia, hcard⟩
  · rintro ⟨placed, hlast, hfresh, hcard⟩
    exact ⟨(k, placed), (hmem placed).2 ⟨⟨hlast, hcard⟩, by lia⟩, rfl⟩

omit [Std.LawfulEqOrd K] in
theorem lastSeen?_of_follows {lim : Limits} {w : Window K} {past : List (Happening K)}
    (h : w.Follows lim past) {k : K} (hk : w.contains k = true) :
    w.lastSeen? k = lastCheck? k past := by
  rw [contains_eq_isSome, Option.isSome_iff_exists] at hk
  obtain ⟨last, hlast⟩ := hk
  rw [hlast, h.lastSeen? k last hlast]

theorem duplicate_iff_of_follows {lim : Limits} {w : Window K} {past : List (Happening K)}
    (hw : w.Aligned lim) (h : w.Follows lim past) (k : K) (t : Time) :
    (w.check lim k t).1.duplicate = true ↔ ∃ placed seen,
      last? lim.policy.places k past = some placed ∧ lastCheck? k past = some seen ∧
      processed past t - placed ≤ lim.window ∧ processed past t - seen < lim.window ∧
      (since lim.policy.places k past).card < lim.capacity := by
  -- A check answers from what its sweep leaves, and that follows the history with the sweep.
  have hswept := h.sweep hw t
  have hcontains := contains_iff_of_follows (hw.sweep t) hswept k
  rw [check_duplicate, isRepeat_eq_true_iff, h.clamp]
  constructor
  · rintro ⟨seen, hseen, hinside⟩
    obtain ⟨placed, hlast, hfresh, hcard⟩ := hcontains.1 (by
      rw [contains_eq_isSome, hseen, Option.isSome_some])
    exact ⟨placed, seen, hlast, hswept.lastSeen? k seen hseen, hfresh, hinside, hcard⟩
  · rintro ⟨placed, seen, hlast, hseen, hfresh, hinside, hcard⟩
    have hin := hcontains.2 ⟨placed, hlast, hfresh, hcard⟩
    exact ⟨seen, (lastSeen?_of_follows hswept hin).trans hseen, hinside⟩

end Window

end EchoFilter
