import EchoFilter.Proofs.DatedKeys
import EchoFilter.Proofs.WindowSteps

/-!
# Coherence — cache and ledger stay in step

A window keeps every key twice, and its two halves are written apart.  `Aligned` says what they owe
each other: the same keys, ledger times in order, and for each entry the chain from ledger time over
last sighting to the mark, inside one window.  Expiry looks at the head of the ledger only, and it
is the order of the ledger that makes this enough.

`act_coherent` is the step, over all acts.
-/

namespace EchoFilter

namespace Window

variable {K : Type} [Ord K] [Std.TransOrd K]

/-- The chain of times of a ledger entry: placed, last seen, mark, all inside one window. -/
def Dated (lim : Limits) (w : Window K) (e : K × Time) : Prop :=
  ∃ last mark, w.lastSeen? e.1 = some last ∧ w.mark = some mark ∧ e.2 ≤ last ∧ last ≤ mark ∧
    mark - lim.window ≤ e.2 ∧ (lim.policy = .recency → e.2 = last)

/-- Cache and ledger agree; the number of keys is left open. -/
structure Aligned (lim : Limits) (w : Window K) : Prop where
  contains_iff : ∀ k, w.contains k = true ↔ k ∈ w.ledger.keys
  ascending : w.ledger.entries.Pairwise fun a b => a.2 ≤ b.2
  dated : ∀ e ∈ w.ledger.entries, w.Dated lim e

/-- Cache and ledger agree, and hold no more keys than allowed. -/
structure Coherent (lim : Limits) (w : Window K) : Prop extends Aligned lim w where
  size_le : w.size ≤ lim.capacity

theorem coherent_of_empty (lim : Limits) {w : Window K} (hc : w.cache = ∅)
    (hl : w.ledger.entries = []) : w.Coherent lim where
  contains_iff k := by
    have hk : w.contains k = false := by
      unfold contains
      rw [hc, Std.ExtTreeMap.contains_empty]
    simp [hk, Ledger.keys, hl]
  ascending := by rw [hl]; exact List.Pairwise.nil
  dated e he := by rw [hl] at he; cases he
  size_le := by
    unfold size
    rw [hc, Std.ExtTreeMap.size_empty]
    exact Nat.zero_le _

omit [Std.TransOrd K] in
theorem le_clamp_of_mark {w : Window K} {t m : Time} (h : w.mark = some m) : m ≤ w.clamp t := by
  unfold clamp
  rw [h]
  exact Nat.le_max_left _ _

theorem Aligned.mem_of_lastSeen? {lim : Limits} {w : Window K} (h : w.Aligned lim) {k : K}
    {last : Time} (hk : w.lastSeen? k = some last) : k ∈ w.ledger.keys := by
  apply (h.contains_iff k).1
  rw [contains_eq_isSome, hk, Option.isSome_some]

theorem Aligned.ledger_contains {lim : Limits} {w : Window K} (h : w.Aligned lim) {k : K}
    {now : Time} (hrep : w.isRepeat lim k now = true) : w.ledger.contains k = true := by
  obtain ⟨last, hlast, -⟩ := isRepeat_eq_true_iff.1 hrep
  rw [Ledger.contains_eq_true_iff]
  exact h.mem_of_lastSeen? hlast

variable [DecidableEq K]

/-! ## One lemma for each kind of step -/

-- The dates are left to the caller: eviction keeps the mark, a sweep moves it.
theorem Aligned.of_forgets {lim : Limits} {w w' : Window K} {gone : List (K × Time)}
    (h : w.Aligned lim) (hf : Forgets w w' gone)
    (hdated : ∀ e ∈ w'.ledger.entries, w'.lastSeen? e.1 = w.lastSeen? e.1 → w'.Dated lim e) :
    w'.Aligned lim := by
  -- Keys are distinct, so no key that stays behind is forgotten in the cache.
  have hnodup := w.ledger.nodup
  rw [hf.entries, List.map_append, List.nodup_append] at hnodup
  obtain ⟨-, -, hdisjoint⟩ := hnodup
  have hkept : ∀ e ∈ w'.ledger.entries, e.1 ∉ gone.map Prod.fst := by
    intro e he hgone
    exact hdisjoint _ hgone _ (List.mem_map_of_mem he) rfl
  refine ⟨fun k => ?_, ?_, fun e he => hdated e he (hf.lastSeen? _ (hkept e he))⟩
  · have hk := h.contains_iff k
    rw [contains_eq_isSome] at hk ⊢
    rw [Ledger.keys, hf.entries, List.map_append, List.mem_append] at hk
    by_cases hgone : k ∈ gone.map Prod.fst
    · have hnot : k ∉ w'.ledger.keys := fun hin => hdisjoint _ hgone _ hin rfl
      simp [hf.lastSeen?_gone k hgone, hnot]
    · rw [hf.lastSeen? k hgone, hk]
      simp only [hgone, false_or]
      exact Iff.rfl
  · have hsorted := h.ascending
    rw [hf.entries, List.pairwise_append] at hsorted
    exact hsorted.2.1

theorem Aligned.of_puts {lim : Limits} {w w' : Window K} {k : K} {now : Time}
    (h : w.Aligned lim) (hmark : w.mark = some now) (hp : Puts w w' k now) : w'.Aligned lim := by
  -- No time is after the mark, so the ledger stays in order.
  have hle : ∀ e ∈ w.ledger.entries, e.2 ≤ now := by
    intro e he
    obtain ⟨last, mark, -, hm, hplaced, hlast, -⟩ := h.dated e he
    rw [hmark, Option.some.injEq] at hm
    lia
  refine ⟨fun a => ?_, ?_, fun e he => ?_⟩
  · have ha := h.contains_iff a
    rw [contains_eq_isSome] at ha ⊢
    simp only [Ledger.keys, List.mem_map] at ha
    rw [hp.lastSeen?, Ledger.keys, hp.entries, List.map_append, List.mem_append, List.mem_map]
    by_cases hak : a = k
    · simp [hak]
    · rw [if_neg hak, ha]
      constructor
      · rintro ⟨e, he, rfl⟩
        exact Or.inl ⟨e, List.mem_filter.2 ⟨he, by simpa using hak⟩, rfl⟩
      · rintro (⟨e, he, rfl⟩ | ha)
        · exact ⟨e, (List.mem_filter.1 he).1, rfl⟩
        · exact absurd (List.mem_singleton.1 ha) hak
  · rw [hp.entries, List.pairwise_append]
    refine ⟨h.ascending.filter _, List.pairwise_singleton _ _, ?_⟩
    intro a ha b hb
    rw [List.mem_singleton.1 hb]
    exact hle a (List.mem_filter.1 ha).1
  · rw [hp.entries, List.mem_append, List.mem_filter, List.mem_singleton] at he
    unfold Dated
    rw [hp.lastSeen?, hp.mark]
    rcases he with ⟨he, hne⟩ | rfl
    · rw [if_neg (by simpa using hne)]
      exact h.dated e he
    · exact ⟨now, now, if_pos rfl, hmark, Nat.le_refl _, Nat.le_refl _, Nat.sub_le _ _,
        fun _ => rfl⟩

-- A sighting without a new place: under recency the dates would come apart.
theorem Aligned.of_sighting {lim : Limits} {w w' : Window K} {k : K} {now : Time}
    (h : w.Aligned lim) (hpol : lim.policy = .firstInsertion) (hmark : w.mark = some now)
    (hk : k ∈ w.ledger.keys) (hledger : w'.ledger = w.ledger) (hmark' : w'.mark = w.mark)
    (hlast : ∀ a, w'.lastSeen? a = if a = k then some now else w.lastSeen? a) :
    w'.Aligned lim := by
  refine ⟨fun a => ?_, hledger ▸ h.ascending, fun e he => ?_⟩
  · have ha := h.contains_iff a
    rw [contains_eq_isSome] at ha ⊢
    rw [hlast, hledger]
    by_cases hak : a = k
    · simp [hak, hk]
    · rw [if_neg hak, ha]
  · rw [hledger] at he
    obtain ⟨last, mark, hseen, hm, hplaced, hle, hfresh, -⟩ := h.dated e he
    have hnow : mark = now := by
      rw [hmark, Option.some.injEq] at hm
      exact hm.symm
    have hpol' : lim.policy = .recency → e.2 = now := by
      rw [hpol]
      exact fun habsurd => nomatch habsurd
    unfold Dated
    rw [hlast, hmark']
    by_cases hek : e.1 = k
    · exact ⟨now, mark, if_pos hek, hm, by lia, by lia, hfresh, hpol'⟩
    · refine ⟨last, mark, by rw [if_neg hek, hseen], hm, hplaced, hle, hfresh, fun hr => ?_⟩
      rw [hpol] at hr
      cases hr

/-! ## The steps of a check -/

variable [Std.LawfulEqOrd K]

omit [DecidableEq K] in
theorem Aligned.size_eq {lim : Limits} {w : Window K} (h : w.Aligned lim) :
    w.size = w.ledger.entries.length := by
  -- Two lists of distinct keys with the same members.
  have hnodup : w.cache.keys.Nodup := Std.ExtTreeMap.nodup_keys
  have hperm : w.cache.keys.Perm w.ledger.keys := by
    apply (List.perm_ext_iff_of_nodup hnodup w.ledger.nodup).2
    intro k
    rw [Std.ExtTreeMap.mem_keys, ← Std.ExtTreeMap.contains_iff_mem]
    exact h.contains_iff k
  unfold size
  rw [← Std.ExtTreeMap.length_keys, hperm.length_eq, Ledger.keys, List.length_map]

theorem Aligned.sweep {lim : Limits} {w : Window K} (h : w.Aligned lim) (t : Time) :
    (w.sweep lim t).2.Aligned lim := by
  refine h.of_forgets (sweep_forgets lim w t) fun e he hsame => ?_
  rw [entries_sweep, DatedKeys.dropWhile_eq_filter h.ascending, List.mem_filter,
    decide_eq_true_eq] at he
  obtain ⟨hin, hfresh⟩ := he
  obtain ⟨last, mark, hseen, hm, hplaced, hle, -, hpol⟩ := h.dated e hin
  -- The new mark is not before the old one.
  have hclamp := le_clamp_of_mark (t := t) hm
  exact ⟨last, w.clamp t, by rw [hsame, hseen], mark_sweep lim w t, hplaced, by lia, hfresh, hpol⟩

theorem size_renew {lim : Limits} {w : Window K} {k : K} {now : Time}
    (hrep : w.isRepeat lim k now = true) : (w.renew lim k now).size = w.size := by
  obtain ⟨last, hlast, -⟩ := isRepeat_eq_true_iff.1 hrep
  have hk : w.cache.contains k = true := by
    rw [Std.ExtTreeMap.contains_eq_isSome_getElem?]
    exact Option.isSome_of_eq_some hlast
  show (w.cache.insert k now).size = w.cache.size
  rw [Std.ExtTreeMap.size_insert, if_pos hk]

theorem Aligned.remember {lim : Limits} {w : Window K} (h : w.Aligned lim) {now : Time}
    (hmark : w.mark = some now) (k : K) : (w.remember k now).Aligned lim :=
  h.of_puts hmark (remember_puts w k now)

theorem Aligned.renew {lim : Limits} {w : Window K} (h : w.Aligned lim) {k : K} {now : Time}
    (hmark : w.mark = some now) (hrep : w.isRepeat lim k now = true) :
    (w.renew lim k now).Aligned lim := by
  have hk := h.ledger_contains hrep
  cases hpol : lim.policy with
  | recency => exact h.of_puts hmark (renew_puts hpol hk now)
  | firstInsertion =>
    exact h.of_sighting hpol hmark (Ledger.contains_eq_true_iff.1 hk) (ledger_renew hpol w k now)
      (mark_renew lim w k now) (lastSeen?_renew lim w k · now)

omit [DecidableEq K] in
theorem Aligned.exists_oldest {lim : Limits} {w : Window K} (h : w.Aligned lim)
    (hlt : lim.capacity < w.size) : ∃ e r, w.ledger.entries = e :: r := by
  rw [h.size_eq] at hlt
  exact List.exists_cons_of_length_pos (by omega)

theorem Aligned.evict {lim : Limits} {w : Window K} (h : w.Aligned lim)
    (hle : w.size ≤ lim.capacity + 1) : (w.evict lim).2.Coherent lim := by
  by_cases hsize : w.size ≤ lim.capacity
  · rw [evict_of_le hsize]
    exact ⟨h, hsize⟩
  · obtain ⟨e, r, hl⟩ := h.exists_oldest (Nat.lt_of_not_le hsize)
    obtain ⟨-, hf⟩ := evict_of_lt (Nat.lt_of_not_le hsize) hl
    have haligned : (w.evict lim).2.Aligned lim := by
      refine h.of_forgets hf fun a ha hsame => ?_
      have hin : a ∈ w.ledger.entries := by
        rw [hf.entries]
        exact List.mem_append_right _ ha
      obtain ⟨last, mark, hseen, hm, hrest⟩ := h.dated a hin
      exact ⟨last, mark, by rw [hsame, hseen], by rw [mark_evict, hm], hrest⟩
    refine ⟨haligned, ?_⟩
    have hlength := congrArg List.length hf.entries
    rw [List.length_append, List.length_singleton, ← h.size_eq, ← haligned.size_eq] at hlength
    omega

theorem Aligned.lastSeen?_evict_last {lim : Limits} (hcap : 0 < lim.capacity) {w : Window K}
    (h : w.Aligned lim) {r : List (K × Time)} {k : K} {t : Time}
    (hl : w.ledger.entries = r ++ [(k, t)]) : (w.evict lim).2.lastSeen? k = w.lastSeen? k := by
  by_cases hsize : w.size ≤ lim.capacity
  · rw [evict_of_le hsize]
  · -- The head goes, and with room for one entry the head is not the last.
    cases r with
    | nil =>
      rw [h.size_eq, hl, List.nil_append, List.length_singleton] at hsize
      exact absurd hcap hsize
    | cons e r =>
      obtain ⟨-, hf⟩ := evict_of_lt (Nat.lt_of_not_le hsize) hl
      have hnodup := w.ledger.nodup
      rw [hl, List.cons_append, List.map_cons, List.nodup_cons] at hnodup
      have hne : k ≠ e.1 := by
        rintro rfl
        exact hnodup.1 (by simp)
      exact hf.lastSeen? k (by simpa using hne)

/-! ## Acts -/

theorem Coherent.sweep {lim : Limits} {w : Window K} (h : w.Coherent lim) (t : Time) :
    (w.sweep lim t).2.Coherent lim where
  toAligned := h.toAligned.sweep t
  size_le := by
    have hsize := h.size_le
    rw [h.size_eq] at hsize
    rw [(h.toAligned.sweep t).size_eq, entries_sweep]
    exact Nat.le_trans (List.dropWhile_sublist _).length_le hsize

theorem Coherent.renew {lim : Limits} {w : Window K} (h : w.Coherent lim) {k : K} {now : Time}
    (hmark : w.mark = some now) (hrep : w.isRepeat lim k now = true) :
    (w.renew lim k now).Coherent lim where
  toAligned := h.toAligned.renew hmark hrep
  size_le := by
    rw [size_renew hrep]
    exact h.size_le

theorem Coherent.size_remember_le {lim : Limits} {w : Window K} (h : w.Coherent lim) (k : K)
    (now : Time) : (w.remember k now).size ≤ lim.capacity + 1 := by
  have hinsert : (w.cache.insert k now).size ≤ w.cache.size + 1 := Std.ExtTreeMap.size_insert_le
  exact Nat.le_trans hinsert (Nat.succ_le_succ h.size_le)

theorem Coherent.check {lim : Limits} {w : Window K} (h : w.Coherent lim) (k : K) (t : Time) :
    (w.check lim k t).2.Coherent lim := by
  have hswept := h.sweep t
  have hmark := mark_sweep lim w t
  cases hrep : (w.sweep lim t).2.isRepeat lim k (w.clamp t) with
  | true =>
    rw [check_of_repeat hrep]
    exact hswept.renew hmark hrep
  | false =>
    rw [check_of_new hrep]
    exact (hswept.toAligned.remember hmark k).evict (hswept.size_remember_le k _)

theorem act_coherent {lim : Limits} {w : Window K} (h : w.Coherent lim) (a : Act K) :
    (w.act lim a).Coherent lim := by
  cases a with
  | check k t => exact h.check k t
  | sweep t => exact h.sweep t
  | reset => exact coherent_of_empty lim rfl Ledger.entries_empty

theorem lastSeen?_check {lim : Limits} (hcap : 0 < lim.capacity) {w : Window K}
    (h : w.Coherent lim) (k : K) (t : Time) :
    (w.check lim k t).2.lastSeen? k = some (w.clamp t) := by
  cases hrep : (w.sweep lim t).2.isRepeat lim k (w.clamp t) with
  | true => rw [check_of_repeat hrep, lastSeen?_renew, if_pos rfl]
  | false =>
    rw [check_of_new hrep]
    have hput := remember_puts (w.sweep lim t).2 k (w.clamp t)
    have haligned := (h.toAligned.sweep t).remember (mark_sweep lim w t) k
    rw [haligned.lastSeen?_evict_last hcap hput.entries, hput.lastSeen?, if_pos rfl]

end Window

end EchoFilter
