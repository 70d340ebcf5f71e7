import EchoFilter.Proofs.Acts

/-!
# Window steps — what each step does to cache and ledger

A window is seen through `lastSeen?`, the ledger's entries and the mark.  Each step either forgets a
run of entries from the head of the ledger together with their cached times (`Forgets`), or puts a
key at the tail with the time of the check (`Puts`), or only notes a new sighting.  The lemmas here
say which, once for each step, so that no later proof opens a step again.
-/

namespace EchoFilter

namespace Window

variable {K : Type} [Ord K]

theorem clamp_eq_max (w : Window K) (t : Time) : w.clamp t = max (w.mark.getD 0) t := by
  unfold clamp
  cases w.mark with
  | none => exact (Nat.zero_max t).symm
  | some m => rfl

variable [Std.TransOrd K]

theorem contains_eq_isSome (w : Window K) (k : K) : w.contains k = (w.lastSeen? k).isSome :=
  Std.ExtTreeMap.contains_eq_isSome_getElem?

@[simp] theorem lastSeen?_empty (k : K) : (empty : Window K).lastSeen? k = none :=
  Std.ExtTreeMap.getElem?_empty

@[simp] theorem lastSeen?_reset (w : Window K) (k : K) : w.reset.lastSeen? k = none :=
  Std.ExtTreeMap.getElem?_empty

theorem isRepeat_eq_true_iff {lim : Limits} {w : Window K} {k : K} {now : Time} :
    w.isRepeat lim k now = true ↔ ∃ last, w.lastSeen? k = some last ∧ now - last < lim.window := by
  unfold isRepeat lastSeen?
  cases w.cache[k]? with
  | none => simp
  | some last => simp

/-- `gone` is taken from the head of the ledger, and its keys from the cache. -/
structure Forgets (w w' : Window K) (gone : List (K × Time)) : Prop where
  entries : w.ledger.entries = gone ++ w'.ledger.entries
  lastSeen? : ∀ a, a ∉ gone.map Prod.fst → w'.lastSeen? a = w.lastSeen? a
  lastSeen?_gone : ∀ a, a ∈ gone.map Prod.fst → w'.lastSeen? a = none

theorem Forgets.lastSeen?_of_some {w w' : Window K} {gone : List (K × Time)}
    (hf : Forgets w w' gone) {a : K} {last : Time} (ha : w'.lastSeen? a = some last) :
    w.lastSeen? a = some last := by
  by_cases hgone : a ∈ gone.map Prod.fst
  · rw [hf.lastSeen?_gone a hgone] at ha
    cases ha
  · rw [← hf.lastSeen? a hgone, ha]

variable [Std.LawfulEqOrd K] [DecidableEq K]

/-- `k` goes to the tail of the ledger, last seen and placed at `now`. -/
structure Puts (w w' : Window K) (k : K) (now : Time) : Prop where
  entries : w'.ledger.entries = (w.ledger.entries.filter fun e => e.1 ≠ k) ++ [(k, now)]
  lastSeen? : ∀ a, w'.lastSeen? a = if a = k then some now else w.lastSeen? a
  mark : w'.mark = w.mark

/-! ## Cached times -/

theorem getElem?_insert_cache (m : Std.ExtTreeMap K Time) (k a : K) (t : Time) :
    (m.insert k t)[a]? = if a = k then some t else m[a]? := by
  have hcmp : compare k a = .eq ↔ a = k := Std.LawfulEqCmp.compare_eq_iff_eq.trans eq_comm
  rw [Std.ExtTreeMap.getElem?_insert]
  simp only [hcmp]

theorem getElem?_erase_cache (m : Std.ExtTreeMap K Time) (k a : K) :
    (m.erase k)[a]? = if a = k then none else m[a]? := by
  have hcmp : compare k a = .eq ↔ a = k := Std.LawfulEqCmp.compare_eq_iff_eq.trans eq_comm
  rw [Std.ExtTreeMap.getElem?_erase]
  simp only [hcmp]

theorem getElem?_foldl_erase (es : List (K × Time)) (m : Std.ExtTreeMap K Time) (a : K) :
    (es.foldl (fun m e => m.erase e.1) m)[a]? =
      if a ∈ es.map Prod.fst then none else m[a]? := by
  induction es generalizing m with
  | nil => simp
  | cons e r ih =>
    rw [List.foldl_cons, ih, getElem?_erase_cache]
    by_cases hr : a ∈ r.map Prod.fst
    · simp [hr]
    · by_cases he : a = e.1 <;> simp [hr, he]

/-! ## Expiry -/

/-- The entries that expiry at `now` takes from a ledger. -/
def staleAt (lim : Limits) (w : Window K) (now : Time) : List (K × Time) :=
  w.ledger.entries.takeWhile fun e => e.2 < now - lim.window

@[simp] theorem mark_sweep (lim : Limits) (w : Window K) (t : Time) :
    (w.sweep lim t).2.mark = some (w.clamp t) := rfl

theorem expired_sweep (lim : Limits) (w : Window K) (t : Time) :
    (w.sweep lim t).1.expired = (w.staleAt lim (w.clamp t)).length := by
  unfold staleAt
  rw [← Ledger.popAllBelow_fst]
  rfl

theorem entries_sweep (lim : Limits) (w : Window K) (t : Time) :
    (w.sweep lim t).2.ledger.entries =
      w.ledger.entries.dropWhile fun e => e.2 < w.clamp t - lim.window :=
  w.ledger.entries_popAllBelow (w.clamp t - lim.window)

theorem lastSeen?_sweep (lim : Limits) (w : Window K) (t : Time) (a : K) :
    (w.sweep lim t).2.lastSeen? a =
      if a ∈ (w.staleAt lim (w.clamp t)).map Prod.fst then none else w.lastSeen? a := by
  unfold staleAt
  rw [← Ledger.popAllBelow_fst]
  exact getElem?_foldl_erase _ _ _

theorem sweep_forgets (lim : Limits) (w : Window K) (t : Time) :
    Forgets w (w.sweep lim t).2 (w.staleAt lim (w.clamp t)) where
  entries := by
    rw [entries_sweep]
    exact (List.takeWhile_append_dropWhile ..).symm
  lastSeen? a ha := by rw [lastSeen?_sweep, if_neg ha]
  lastSeen?_gone a ha := by rw [lastSeen?_sweep, if_pos ha]

/-! ## Repeats and acceptances -/

theorem lastSeen?_renew (lim : Limits) (w : Window K) (k a : K) (now : Time) :
    (w.renew lim k now).lastSeen? a = if a = k then some now else w.lastSeen? a :=
  getElem?_insert_cache _ _ _ _

@[simp] theorem mark_renew (lim : Limits) (w : Window K) (k : K) (now : Time) :
    (w.renew lim k now).mark = w.mark := rfl

-- Under recency a repeat is put at the tail, provided it is in the ledger at all.
theorem renew_puts {lim : Limits} (hpol : lim.policy = .recency) {w : Window K} {k : K}
    (hk : w.ledger.contains k = true) (now : Time) : Puts w (w.renew lim k now) k now where
  entries := by
    have hledger : (w.renew lim k now).ledger = w.ledger.place k now := by
      simp only [renew, hpol, Ledger.touch_snd, hk, if_true]
    rw [hledger, Ledger.entries_place]
  lastSeen? a := lastSeen?_renew lim w k a now
  mark := rfl

-- By first insertion a repeat keeps its place.
theorem ledger_renew {lim : Limits} (hpol : lim.policy = .firstInsertion) (w : Window K) (k : K)
    (now : Time) : (w.renew lim k now).ledger = w.ledger := by
  simp only [renew, hpol]

theorem remember_puts (w : Window K) (k : K) (now : Time) :
    Puts w (w.remember k now) k now where
  entries := Ledger.entries_place _ _ _
  lastSeen? _ := getElem?_insert_cache _ _ _ _
  mark := rfl

/-! ## Eviction -/

@[simp] theorem mark_evict (lim : Limits) (w : Window K) : (w.evict lim).2.mark = w.mark := by
  unfold evict
  split
  · rfl
  · split <;> rfl

theorem evict_of_le {lim : Limits} {w : Window K} (h : w.size ≤ lim.capacity) :
    w.evict lim = (none, w) := by
  unfold evict
  rw [if_pos h]

theorem evict_of_lt {lim : Limits} {w : Window K} {e : K × Time} {r : List (K × Time)}
    (h : lim.capacity < w.size) (hl : w.ledger.entries = e :: r) :
    (w.evict lim).1 = some e ∧ Forgets w (w.evict lim).2 [e] := by
  have hold : w.ledger.oldest? = some e := by rw [Ledger.oldest?_eq, hl, List.head?_cons]
  unfold evict
  rw [if_neg (Nat.not_le_of_lt h)]
  simp only [hold]
  refine ⟨trivial, ?_, ?_, ?_⟩
  · rw [Ledger.entries_dropOldest, hl, List.tail_cons, List.singleton_append]
  · intro a ha
    have hae : a ≠ e.1 := by simpa using ha
    show (w.cache.erase e.1)[a]? = w.cache[a]?
    rw [getElem?_erase_cache, if_neg hae]
  · intro a ha
    have hae : a = e.1 := by simpa using ha
    show (w.cache.erase e.1)[a]? = none
    rw [getElem?_erase_cache, if_pos hae]

theorem entries_evict_subset (lim : Limits) (w : Window K) :
    (w.evict lim).2.ledger.entries ⊆ w.ledger.entries := by
  unfold evict
  split
  · exact List.Subset.refl _
  · split
    · exact List.Subset.refl _
    · rw [Ledger.entries_dropOldest]
      exact List.Sublist.subset (List.tail_sublist _)

theorem lastSeen?_of_evict {lim : Limits} {w : Window K} {a : K} {last : Time}
    (ha : (w.evict lim).2.lastSeen? a = some last) : w.lastSeen? a = some last := by
  by_cases hsize : w.size ≤ lim.capacity
  · rwa [evict_of_le hsize] at ha
  · cases hl : w.ledger.entries with
    | nil =>
      have hold : w.ledger.oldest? = none := by rw [Ledger.oldest?_eq, hl, List.head?_nil]
      unfold evict at ha
      rw [if_neg hsize] at ha
      simp only [hold] at ha
      exact ha
    | cons e r => exact (evict_of_lt (Nat.lt_of_not_le hsize) hl).2.lastSeen?_of_some ha

/-! ## Checks

A check sweeps first; the rest of it looks at what the sweep left.
-/

theorem check_of_repeat {lim : Limits} {w : Window K} {k : K} {t : Time}
    (h : (w.sweep lim t).2.isRepeat lim k (w.clamp t) = true) :
    w.check lim k t =
      ({ key := k, given := t, now := w.clamp t, duplicate := true,
         expired := (w.sweep lim t).1.expired, evicted := none },
        (w.sweep lim t).2.renew lim k (w.clamp t)) := by
  change (w.expire lim (w.clamp t)).2.isRepeat lim k (w.clamp t) = true at h
  unfold check
  simp only [h, if_true]
  rfl

theorem check_of_new {lim : Limits} {w : Window K} {k : K} {t : Time}
    (h : (w.sweep lim t).2.isRepeat lim k (w.clamp t) = false) :
    w.check lim k t =
      ({ key := k, given := t, now := w.clamp t, duplicate := false,
         expired := (w.sweep lim t).1.expired,
         evicted := (((w.sweep lim t).2.remember k (w.clamp t)).evict lim).1 },
        (((w.sweep lim t).2.remember k (w.clamp t)).evict lim).2) := by
  change (w.expire lim (w.clamp t)).2.isRepeat lim k (w.clamp t) = false at h
  unfold check
  simp only [h, Bool.false_eq_true, if_false]
  rfl

@[simp] theorem check_key (lim : Limits) (w : Window K) (k : K) (t : Time) :
    (w.check lim k t).1.key = k := by
  unfold check
  dsimp only
  split <;> rfl

@[simp] theorem check_given (lim : Limits) (w : Window K) (k : K) (t : Time) :
    (w.check lim k t).1.given = t := by
  unfold check
  dsimp only
  split <;> rfl

@[simp] theorem check_now (lim : Limits) (w : Window K) (k : K) (t : Time) :
    (w.check lim k t).1.now = w.clamp t := by
  unfold check
  dsimp only
  split <;> rfl

theorem check_duplicate (lim : Limits) (w : Window K) (k : K) (t : Time) :
    (w.check lim k t).1.duplicate = (w.sweep lim t).2.isRepeat lim k (w.clamp t) := by
  cases h : (w.sweep lim t).2.isRepeat lim k (w.clamp t) with
  | true => rw [check_of_repeat h]
  | false => rw [check_of_new h]

@[simp] theorem mark_check (lim : Limits) (w : Window K) (k : K) (t : Time) :
    (w.check lim k t).2.mark = some (w.clamp t) := by
  cases h : (w.sweep lim t).2.isRepeat lim k (w.clamp t) with
  | true => rw [check_of_repeat h, mark_renew, mark_sweep]
  | false => rw [check_of_new h, mark_evict, (remember_puts _ _ _).mark, mark_sweep]

-- Both ways of writing put the same time for the key; what they do to the ledger does not show
-- here.
theorem lastSeen?_check_swept {lim : Limits} {w : Window K} {k a : K} {t last : Time}
    (ha : (w.check lim k t).2.lastSeen? a = some last) :
    (if a = k then some (w.clamp t) else (w.sweep lim t).2.lastSeen? a) = some last := by
  cases h : (w.sweep lim t).2.isRepeat lim k (w.clamp t) with
  | true =>
    rw [check_of_repeat h, lastSeen?_renew] at ha
    exact ha
  | false =>
    rw [check_of_new h] at ha
    rw [← (remember_puts _ k (w.clamp t)).lastSeen?]
    exact lastSeen?_of_evict ha

-- A check sees its own key at its own time, and no other key anew.
theorem lastSeen?_of_check {lim : Limits} {w : Window K} {k a : K} {t last : Time}
    (ha : (w.check lim k t).2.lastSeen? a = some last) :
    (a = k ∧ last = w.clamp t) ∨ (a ≠ k ∧ w.lastSeen? a = some last) := by
  have hput := lastSeen?_check_swept ha
  by_cases hak : a = k
  · rw [if_pos hak, Option.some.injEq] at hput
    exact Or.inl ⟨hak, hput.symm⟩
  · rw [if_neg hak] at hput
    exact Or.inr ⟨hak, (sweep_forgets lim w t).lastSeen?_of_some hput⟩

theorem mem_entries_of_check {lim : Limits} {w : Window K} {k : K} {t : Time} {e : K × Time}
    (he : e ∈ (w.check lim k t).2.ledger.entries) :
    e ∈ w.ledger.entries ∨ e = (k, w.clamp t) := by
  have hswept : ∀ a ∈ (w.sweep lim t).2.ledger.entries, a ∈ w.ledger.entries := by
    intro a ha
    rw [(sweep_forgets lim w t).entries]
    exact List.mem_append_right _ ha
  have hplaced : ∀ a ∈ ((w.sweep lim t).2.ledger.place k (w.clamp t)).entries,
      a ∈ w.ledger.entries ∨ a = (k, w.clamp t) := by
    intro a ha
    rw [Ledger.entries_place, List.mem_append, List.mem_filter, List.mem_singleton] at ha
    exact ha.imp_left fun h => hswept a h.1
  cases h : (w.sweep lim t).2.isRepeat lim k (w.clamp t) with
  | true =>
    rw [check_of_repeat h] at he
    cases hpol : lim.policy with
    | recency =>
      simp only [renew, hpol, Ledger.touch_snd] at he
      split at he
      · exact hplaced e he
      · exact Or.inl (hswept e he)
    | firstInsertion =>
      rw [ledger_renew hpol] at he
      exact Or.inl (hswept e he)
  | false =>
    rw [check_of_new h] at he
    exact hplaced e (entries_evict_subset _ _ he)

theorem contains_act {lim : Limits} {w : Window K} {a : Act K} {k : K}
    (hk : (w.act lim a).contains k = true) :
    (∃ t, a = .check k t) ∨ w.contains k = true := by
  rw [contains_eq_isSome, Option.isSome_iff_exists] at hk ⊢
  obtain ⟨last, hlast⟩ := hk
  cases a with
  | check k' t =>
    rcases lastSeen?_of_check hlast with ⟨rfl, -⟩ | ⟨-, hin⟩
    · exact Or.inl ⟨t, rfl⟩
    · exact Or.inr ⟨last, hin⟩
  | sweep t => exact Or.inr ⟨last, (sweep_forgets lim w t).lastSeen?_of_some hlast⟩
  | reset => exact absurd hlast (by simp [act])

end Window

end EchoFilter
