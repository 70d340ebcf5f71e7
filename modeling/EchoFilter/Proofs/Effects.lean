import EchoFilter.Proofs.Isolation
import EchoFilter.Proofs.OneWindow
import EchoFilter.Proofs.Tallies

/-!
# Effects — what one step does, exactly

At any time the remembered keys fall into those that are `outdated`, placed more than a window
before, and those that are `current`.  A sweep forgets the first and touches nothing else
(`Window.Swept`).  A check does the same, then renews its key or puts it at the tail, and a key that
is new to a full window pushes out the oldest of the current ones (`Window.Checked`).

The steps pop heads of a ledger; that they take exactly the outdated keys, and from the cache as
well, holds of coherent windows only.  `Detector.acts_exactly` says it of every detector that can be
reached.
-/

namespace EchoFilter

namespace Window

variable {K : Type} [Ord K] [Std.TransOrd K] [Std.LawfulEqOrd K] [DecidableEq K]

/-- The remembered keys. -/
def keys (w : Window K) : Finset K :=
  w.cache.keys.toFinset

/-- The remembered keys that were placed more than a window before `now`. -/
def outdated (lim : Limits) (w : Window K) (now : Time) : Finset K :=
  w.keys.filter fun k => (w.ledger.timeOf? k).any fun placed => placed < now - lim.window

/-- The remembered keys that are not too old at `now`. -/
def current (lim : Limits) (w : Window K) (now : Time) : Finset K :=
  w.keys \ w.outdated lim now

variable {lim : Limits} {w w' : Window K} {k : K} {now : Time}

theorem mem_keys : k ∈ w.keys ↔ w.contains k = true := by
  rw [keys, List.mem_toFinset, Std.ExtTreeMap.mem_keys, ← Std.ExtTreeMap.contains_iff_mem]
  exact Iff.rfl

theorem mem_keys_iff : k ∈ w.keys ↔ ∃ last, w.lastSeen? k = some last := by
  rw [mem_keys, contains_eq_isSome, Option.isSome_iff_exists]

theorem Aligned.size_eq_card_keys (h : w.Aligned lim) : w.size = w.keys.card :=
  h.size_eq_card fun _ => mem_keys.symm

theorem Aligned.mem_keys_of_entry (h : w.Aligned lim) {e : K × Time} (he : e ∈ w.ledger.entries) :
    e.1 ∈ w.keys :=
  mem_keys.2 ((h.contains_iff e.1).2 (List.mem_map_of_mem he))

theorem Aligned.filter_keys (h : w.Aligned lim) :
    (w.ledger.entries.filter fun e => e.1 ∈ w.keys) = w.ledger.entries := by
  rw [List.filter_eq_self]
  intro e he
  rw [decide_eq_true_eq]
  exact h.mem_keys_of_entry he

/-! ## Sweeps -/

-- What a run of heads leaves behind is what the cache still has.
theorem Aligned.entries_of_forgets {gone : List (K × Time)} (h' : w'.Aligned lim)
    (hf : Forgets w w' gone) :
    w'.ledger.entries = w.ledger.entries.filter fun e => e.1 ∈ w'.keys := by
  have hgone : gone.filter (fun e => e.1 ∈ w'.keys) = [] := by
    rw [List.filter_eq_nil_iff]
    intro e he
    rw [decide_eq_true_eq, mem_keys, contains_eq_isSome,
      hf.lastSeen?_gone e.1 (List.mem_map_of_mem he), Option.isSome_none]
    exact Bool.false_ne_true
  rw [hf.entries, List.filter_append, hgone, List.nil_append, eq_comm, List.filter_eq_self]
  intro e he
  rw [decide_eq_true_eq]
  exact h'.mem_keys_of_entry he

theorem Aligned.keys_sweep (h : w.Aligned lim) (t : Time) :
    (w.sweep lim t).2.keys = w.current lim (w.clamp t) := by
  ext k
  -- The ledger decides: a key stays if its own entry is inside the window.
  have hswept := (h.sweep t).isSome_placed? k
  have hplaced := h.isSome_placed? k
  rw [h.placed?_sweep, ← contains_eq_isSome] at hswept
  rw [← contains_eq_isSome] at hplaced
  rw [current, outdated, Finset.mem_sdiff, Finset.mem_filter, mem_keys, mem_keys, ← hswept,
    ← hplaced]
  cases w.ledger.timeOf? k with
  | none => simp
  | some placed => simp

theorem Aligned.sweep_balance (h : w.Aligned lim) (t : Time) :
    (w.sweep lim t).2.size + (w.sweep lim t).1.expired = w.size := by
  have hlength := congrArg List.length (sweep_forgets lim w t).entries
  rw [List.length_append, ← h.size_eq, ← (h.sweep t).size_eq, ← expired_sweep] at hlength
  omega

theorem Aligned.expired_sweep_eq_card (h : w.Aligned lim) (t : Time) :
    (w.sweep lim t).1.expired = (w.outdated lim (w.clamp t)).card := by
  have hbalance := h.sweep_balance t
  rw [h.size_eq_card_keys, (h.sweep t).size_eq_card_keys, h.keys_sweep] at hbalance
  have hsplit :
      (w.current lim (w.clamp t)).card + (w.outdated lim (w.clamp t)).card = w.keys.card :=
    Finset.card_sdiff_add_card_eq_card (Finset.filter_subset _ _)
  omega

/-- What a sweep processed at `now` does and reports. -/
structure Swept (lim : Limits) (w : Window K) (now : Time) (s : Sweep) (w' : Window K) : Prop where
  processed : s.now = now
  expired : s.expired = (w.outdated lim now).card
  keys : w'.keys = w.current lim now
  lastSeen? : ∀ a ∈ w'.keys, w'.lastSeen? a = w.lastSeen? a
  entries : w'.ledger.entries = w.ledger.entries.filter fun e => e.1 ∈ w'.keys
  mark : w'.mark = some now
  tally : w'.tally = w.tally + { expired := (w.outdated lim now).card }

theorem Aligned.swept (h : w.Aligned lim) (t : Time) :
    w.Swept lim (w.clamp t) (w.sweep lim t).1 (w.sweep lim t).2 where
  processed := rfl
  expired := h.expired_sweep_eq_card t
  keys := h.keys_sweep t
  lastSeen? a ha := by
    obtain ⟨last, hlast⟩ := mem_keys_iff.1 ha
    rw [hlast, (sweep_forgets lim w t).lastSeen?_of_some hlast]
  entries := (h.sweep t).entries_of_forgets (sweep_forgets lim w t)
  mark := mark_sweep lim w t
  tally := by rw [tally_sweep, h.expired_sweep_eq_card]

/-! ## What a check does after its sweep -/

omit [Std.LawfulEqOrd K] in
-- The other keys keep their entries, in front of the new one.
theorem Puts.filter_entries (hp : Puts w w' k now) {s : Finset K} (hk : k ∈ s) :
    w'.ledger.entries.filter (fun e => e.1 ∈ s) =
      (w.ledger.entries.filter fun e => e.1 ∈ s.erase k) ++ [(k, now)] := by
  rw [hp.entries, List.filter_append, List.filter_cons_of_pos (by simpa using hk), List.filter_nil,
    List.filter_filter]
  congr 1
  apply List.filter_congr
  intro e _
  rw [Bool.eq_iff_iff]
  simp only [Bool.and_eq_true, decide_eq_true_eq, Finset.mem_erase]
  exact And.comm

/-- The three ways a check of `k` goes on from the window `w` that its sweep has left: whether it is
a repeat, which entry it pushes out, and the window after it. -/
inductive Settles (lim : Limits) (w : Window K) (k : K) (now : Time) :
    Bool → Option (K × Time) → Window K → Prop
  | repeated (hk : k ∈ w.keys) : Settles lim w k now true none (w.renew lim k now)
  | accepted (hroom : k ∈ w.keys ∨ w.keys.card < lim.capacity) :
    Settles lim w k now false none (w.remember k now)
  | pushed {e : K × Time} {r : List (K × Time)} {w' : Window K} (hk : k ∉ w.keys)
    (hfull : w.keys.card = lim.capacity) (hl : w.ledger.entries = e :: r)
    (hf : Forgets (w.remember k now) w' [e]) : Settles lim w k now false (some e) w'

theorem keys_of_sighting (hlast : ∀ a, w'.lastSeen? a = if a = k then some now else w.lastSeen? a) :
    w'.keys = insert k w.keys := by
  ext a
  rw [mem_keys]
  exact contains_iff_insert (fun _ => mem_keys.symm) hlast a

theorem keys_of_forgets {gone : List (K × Time)} (hf : Forgets w w' gone) :
    w'.keys = w.keys \ (gone.map Prod.fst).toFinset := by
  ext a
  rw [Finset.mem_sdiff, List.mem_toFinset, mem_keys_iff, mem_keys_iff]
  by_cases ha : a ∈ gone.map Prod.fst
  · simp [hf.lastSeen?_gone a ha, ha]
  · simp [hf.lastSeen? a ha, ha]

theorem Coherent.settles_remember (hcap : 0 < lim.capacity) (h : w.Coherent lim)
    (hmark : w.mark = some now) (k : K) :
    Settles lim w k now false ((w.remember k now).evict lim).1
      ((w.remember k now).evict lim).2 := by
  have hput := remember_puts w k now
  have hsize : (w.remember k now).size = (insert k w.keys).card := by
    rw [(h.toAligned.remember hmark k).size_eq_card_keys, keys_of_sighting hput.lastSeen?]
  have hle := h.size_le
  rw [h.size_eq_card_keys] at hle
  by_cases hk : k ∈ w.keys
  · rw [Finset.insert_eq_of_mem hk] at hsize
    rw [evict_of_le (hsize ▸ hle)]
    exact .accepted (Or.inl hk)
  · rw [Finset.card_insert_of_notMem hk] at hsize
    by_cases hroom : w.keys.card < lim.capacity
    · rw [evict_of_le (hsize ▸ hroom)]
      exact .accepted (Or.inr hroom)
    · -- The new key goes behind the others, so the head is one of those.
      have hfull : w.keys.card = lim.capacity := by omega
      obtain ⟨e, r, hl⟩ : ∃ e r, w.ledger.entries = e :: r := by
        apply List.exists_cons_of_length_pos
        rw [← h.size_eq, h.size_eq_card_keys]
        omega
      have hothers : (w.ledger.entries.filter fun a => a.1 ≠ k) = w.ledger.entries := by
        rw [List.filter_eq_self]
        intro a ha
        have hne : a.1 ≠ k := fun heq => hk (heq ▸ h.mem_keys_of_entry ha)
        simpa using hne
      have hl' : (w.remember k now).ledger.entries = e :: (r ++ [(k, now)]) := by
        rw [hput.entries, hothers, hl, List.cons_append]
      have hover : lim.capacity < (w.remember k now).size := by omega
      obtain ⟨hevicted, hf⟩ := evict_of_lt hover hl'
      rw [hevicted]
      exact .pushed hk hfull hl hf

theorem Coherent.settles (hcap : 0 < lim.capacity) (h : w.Coherent lim) (k : K) (t : Time) :
    Settles lim (w.sweep lim t).2 k (w.clamp t) (w.check lim k t).1.duplicate
      (w.check lim k t).1.evicted (w.check lim k t).2 := by
  cases hrep : (w.sweep lim t).2.isRepeat lim k (w.clamp t) with
  | true =>
    obtain ⟨last, hlast, -⟩ := isRepeat_eq_true_iff.1 hrep
    rw [check_of_repeat hrep]
    exact .repeated (mem_keys_iff.2 ⟨last, hlast⟩)
  | false =>
    rw [check_of_new hrep]
    exact (h.sweep t).settles_remember hcap (mark_sweep lim w t) k

section Settles

variable {duplicate : Bool} {gone : Option (K × Time)}

theorem Settles.evicted_iff (h : Settles lim w k now duplicate gone w') :
    gone.isSome = true ↔ duplicate = false ∧ k ∉ w.keys ∧ w.keys.card = lim.capacity := by
  cases h with
  | repeated hk => simp
  | accepted hroom =>
    have hneither : ¬ (k ∉ w.keys ∧ w.keys.card = lim.capacity) := by
      rintro ⟨hk, hfull⟩
      exact hroom.elim hk fun hlt => Nat.lt_irrefl _ (hfull ▸ hlt)
    simpa using hneither
  | pushed hk hfull hl hf => simp [hk, hfull]

theorem Settles.evicted (h : Settles lim w k now duplicate gone w') (hw : w.Aligned lim)
    {e : K × Time} (he : gone = some e) : e.1 ≠ k ∧ w.ledger.entries.head? = some e := by
  cases h with
  | repeated hk => cases he
  | accepted hroom => cases he
  | pushed hk hfull hl hf =>
    cases he
    have hin := hw.mem_keys_of_entry (hl ▸ List.mem_cons_self)
    refine ⟨fun heq => hk (heq ▸ hin), ?_⟩
    rw [hl, List.head?_cons]

theorem Settles.keys (h : Settles lim w k now duplicate gone w') :
    w'.keys = insert k w.keys \ (gone.map Prod.fst).toFinset := by
  cases h with
  | repeated hk => rw [keys_of_sighting (lastSeen?_renew lim w k · now)]; simp
  | accepted hroom => rw [keys_of_sighting (remember_puts w k now).lastSeen?]; simp
  | pushed hk hfull hl hf =>
    rw [keys_of_forgets hf, keys_of_sighting (remember_puts w k now).lastSeen?]
    simp

theorem Settles.held (h : Settles lim w k now duplicate gone w') (hdup : duplicate = true)
    (hpol : lim.policy = .firstInsertion) : w'.keys = w.keys ∧ w'.ledger = w.ledger := by
  cases h with
  | repeated hk =>
    rw [keys_of_sighting (lastSeen?_renew lim w k · now), Finset.insert_eq_of_mem hk]
    exact ⟨rfl, ledger_renew hpol w k now⟩
  | accepted hroom => cases hdup
  | pushed hk hfull hl hf => cases hdup

-- Whatever is pushed out, what is left of the others is what is left of their entries.
theorem Settles.placed (h : Settles lim w k now duplicate gone w') (hw : w.Aligned lim)
    (hw' : w'.Aligned lim) (hlast : w'.lastSeen? k = some now)
    (hpol : ¬ (duplicate = true ∧ lim.policy = .firstInsertion)) :
    w'.ledger.entries =
      (w.ledger.entries.filter fun e => e.1 ∈ w'.keys.erase k) ++ [(k, now)] := by
  have hk' : k ∈ w'.keys := mem_keys_iff.2 ⟨now, hlast⟩
  cases h with
  | repeated hk =>
    have hrecency : lim.policy = .recency := by
      cases hcase : lim.policy with
      | recency => rfl
      | firstInsertion => exact absurd ⟨rfl, hcase⟩ hpol
    have hledger := Ledger.contains_eq_true_iff.2 ((hw.contains_iff k).1 (mem_keys.1 hk))
    rw [← (renew_puts hrecency hledger now).filter_entries hk', hw'.filter_keys]
  | accepted hroom => rw [← (remember_puts w k now).filter_entries hk', hw'.filter_keys]
  | pushed hk hfull hl hf =>
    rw [← (remember_puts w k now).filter_entries hk', hw'.entries_of_forgets hf]

end Settles

/-! ## Checks -/

/-- What a check of `k` processed at `now` does and reports. -/
structure Checked (lim : Limits) (w : Window K) (k : K) (now : Time) (v : Verdict K)
    (w' : Window K) : Prop where
  key : v.key = k
  processed : v.now = now
  expired : v.expired = (w.outdated lim now).card
  duplicate_iff : v.duplicate = true ↔
    k ∈ w.current lim now ∧ ∃ last, w.lastSeen? k = some last ∧ now - last < lim.window
  evicted_iff : v.evicted.isSome = true ↔
    v.duplicate = false ∧ k ∉ w.current lim now ∧ (w.current lim now).card = lim.capacity
  -- What is pushed out is the head of what is current.
  evicted : ∀ e, v.evicted = some e → e.1 ≠ k ∧
    (w.ledger.entries.filter fun a => a.1 ∈ w.current lim now).head? = some e
  keys : w'.keys = insert k (w.current lim now) \ (v.evicted.map Prod.fst).toFinset
  lastSeen?_self : w'.lastSeen? k = some now
  lastSeen?_other : ∀ a ∈ w'.keys, a ≠ k → w'.lastSeen? a = w.lastSeen? a
  -- A repeat by first insertion stays where it is among the others.
  held : v.duplicate = true → lim.policy = .firstInsertion →
    w'.ledger.entries = w.ledger.entries.filter fun e => e.1 ∈ w'.keys
  placed : ¬ (v.duplicate = true ∧ lim.policy = .firstInsertion) →
    w'.ledger.entries = (w.ledger.entries.filter fun e => e.1 ∈ w'.keys.erase k) ++ [(k, now)]
  mark : w'.mark = some now
  tally : w'.tally = w.tally + v.tally

theorem check_expired (lim : Limits) (w : Window K) (k : K) (t : Time) :
    (w.check lim k t).1.expired = (w.sweep lim t).1.expired := by
  cases h : (w.sweep lim t).2.isRepeat lim k (w.clamp t) with
  | true => rw [check_of_repeat h]
  | false => rw [check_of_new h]

theorem Coherent.checked (hcap : 0 < lim.capacity) (h : w.Coherent lim) (k : K) (t : Time) :
    w.Checked lim k (w.clamp t) (w.check lim k t).1 (w.check lim k t).2 := by
  have hswept := h.toAligned.swept t
  have hsettles := h.settles hcap k t
  have haligned := (h.sweep t).toAligned
  have haligned' := (h.check k t).toAligned
  have hself := lastSeen?_check hcap h k t
  exact
    { key := check_key lim w k t
      processed := check_now lim w k t
      expired := (check_expired lim w k t).trans hswept.expired
      duplicate_iff := by
        rw [check_duplicate, isRepeat_eq_true_iff, ← hswept.keys]
        constructor
        · rintro ⟨last, hlast, hinside⟩
          have hk := mem_keys_iff.2 ⟨last, hlast⟩
          exact ⟨hk, last, (hswept.lastSeen? k hk).symm.trans hlast, hinside⟩
        · rintro ⟨hk, last, hlast, hinside⟩
          exact ⟨last, (hswept.lastSeen? k hk).trans hlast, hinside⟩
      evicted_iff := hswept.keys ▸ hsettles.evicted_iff
      evicted := by
        intro e he
        rw [← hswept.keys, ← hswept.entries]
        exact hsettles.evicted haligned he
      keys := hswept.keys ▸ hsettles.keys
      lastSeen?_self := hself
      lastSeen?_other := by
        intro a ha hne
        obtain ⟨last, hlast⟩ := mem_keys_iff.1 ha
        rcases lastSeen?_of_check hlast with ⟨heq, -⟩ | ⟨-, hin⟩
        · exact absurd heq hne
        · rw [hlast, hin]
      held := by
        intro hdup hpol
        obtain ⟨hkeys, hledger⟩ := hsettles.held hdup hpol
        rw [hledger, hkeys, hswept.entries]
      placed := by
        intro hpol
        -- Nothing comes back that the sweep has taken.
        have hsub : ((w.check lim k t).2.keys.erase k) ⊆ (w.sweep lim t).2.keys := by
          rw [hsettles.keys, ← Finset.subset_insert_iff]
          exact Finset.sdiff_subset
        rw [hsettles.placed haligned haligned' hself hpol, hswept.entries, List.filter_filter]
        congr 1
        apply List.filter_congr
        intro e _
        rw [Bool.and_eq_left_iff_imp, decide_eq_true_eq, decide_eq_true_eq]
        exact fun hin => hsub hin
      mark := mark_check lim w k t
      tally := tally_check lim w k t }

end Window

namespace Detector

/-- What a detector does when it is asked: a check and a sweep have their exact effect on the window
and report it, and no call touches more than the window and, where that is its business, the
clock. -/
structure ActsExactly (d : Detector) : Prop where
  check : ∀ c s t, d.act? c = some (.check s t) → ∃ id v, (d.perform c).1 = .judged id v ∧
    d.window.Checked d.limits s (d.window.clamp t) v (d.perform c).2.window
  sweep : ∀ t, ∃ v, (d.perform (.sweep t)).1 = .swept v ∧
    d.window.Swept d.limits (d.window.clamp t) v (d.perform (.sweep t)).2.window
  apart : ∀ c, (d.perform c).2.config = d.config ∧ (d.perform c).2.clock = c.tick d.clock

theorem Kept.actsExactly {d : Detector} (h : d.Kept) : d.ActsExactly where
  check c s t ha := by
    have hreports := d.perform_fst c
    have hwindow := d.window_perform c
    rw [ha] at hreports hwindow
    obtain ⟨id, hid⟩ := hreports
    refine ⟨id, _, hid, ?_⟩
    rw [hwindow]
    exact h.coherent.checked d.capacity_pos s t
  sweep t := ⟨_, rfl, h.coherent.toAligned.swept t⟩
  apart c := ⟨config_perform d c, clock_perform d c⟩

/-- **Every step has exactly its effect.**  A valid configuration gives a detector, and after any
calls on it a check takes the outdated keys, answers from the current ones, pushes out at most the
oldest of these, and leaves the rest of cache, ledger and counts alone; a sweep takes the outdated
keys alone. -/
theorem acts_exactly (config : Config) (clock : Clock) (hvalid : config.Valid) :
    ∃ d, create config clock = .ok d ∧ ∀ calls : List Call, (d.run calls).2.ActsExactly :=
  ⟨_, create_of_valid config clock hvalid, fun calls =>
    ((kept_initial config hvalid clock).run calls).actsExactly⟩

/-- Room for two: a third signature, stamped 20 ms before the mark, is processed at the mark and
pushes out the first, which is still young enough to be current. -/
theorem acts_exactly_full_window :
    Config.Valid ⟨50, 2, .bits64, .firstInsertion, .clock⟩ ∧
      ∃ d, create ⟨50, 2, .bits64, .firstInsertion, .clock⟩ ⟨0⟩ = .ok d ∧
        ∃ d', d' = (d.run [.check 0x123 [1] (some 100), .check 0x124 [2] (some 150)]).2 ∧
          d'.window.clamp 130 = 150 ∧
          ∃ id v, (d'.perform (.check 0x125 [] (some 130))).1 = .judged id v ∧
            v.evicted = some (.compute .bits64 ⟨0x123, by decide⟩ [1], 100) ∧
            d'.window.Checked ⟨50, 2, .firstInsertion⟩ (.compute .bits64 ⟨0x125, by decide⟩ [])
              150 v (d'.perform (.check 0x125 [] (some 130))).2.window := by
  obtain ⟨d, hd, hrun⟩ := acts_exactly ⟨50, 2, .bits64, .firstInsertion, .clock⟩ ⟨0⟩ (by decide)
  have hacts := hrun [.check 0x123 [1] (some 100), .check 0x124 [2] (some 150)]
  cases hd
  obtain ⟨id, v, hv, hchecked⟩ := hacts.check (.check 0x125 [] (some 130)) _ _ rfl
  have hevicted : Outcome.evicted? (.judged id v) =
      some (.compute .bits64 ⟨0x123, by decide⟩ [1], 100) := by
    rw [← hv]
    decide +kernel
  exact ⟨by decide, _, rfl, _, rfl, by decide +kernel, id, v, hv, hevicted, hchecked⟩

end Detector

end EchoFilter
