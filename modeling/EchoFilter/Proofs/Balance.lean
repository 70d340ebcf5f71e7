import EchoFilter.Proofs.Effects

/-!
# Balance — no entry appears or goes without a count

Every accepted check puts one entry in, and an entry goes out by age, by number or by a reset.  The
two sides differ only where a check is accepted although its signature is still remembered: it takes
the place of its own entry.  Expiry takes what is older than a window and suppression wants what is
younger, so this happens exactly one window after the last sighting
(`Window.Coherent.boundary_of_reaccepts`).

`Window.Coherent.check_balance` and `Detector.Kept.perform_balance` balance one step, and
`Detector.conserves_entries` a run.
-/

namespace EchoFilter

namespace Window

variable {K : Type} [Ord K] [Std.TransOrd K] [Std.LawfulEqOrd K] [DecidableEq K]

/-- Whether a check is accepted although its key is still remembered after the expiry of that
check. -/
def reaccepts (lim : Limits) (w : Window K) (k : K) (t : Time) : Bool :=
  !(w.check lim k t).1.duplicate && (w.sweep lim t).2.contains k

variable {lim : Limits} {w w' : Window K} {k : K} {now : Time}

-- The entries on both sides of what a check does after its sweep.
theorem Settles.balance {duplicate : Bool} {gone : Option (K × Time)} (hw : w.Aligned lim)
    (hw' : w'.Aligned lim) (h : Settles lim w k now duplicate gone w') :
    w'.size + (if gone.isSome then 1 else 0) + (if !duplicate && w.contains k then 1 else 0) =
      w.size + if duplicate then 0 else 1 := by
  rw [hw.size_eq_card_keys, hw'.size_eq_card_keys]
  have hcontains : w.contains k = decide (k ∈ w.keys) := by
    rw [Bool.eq_iff_iff, ← mem_keys, decide_eq_true_eq]
  rw [hcontains, h.keys]
  cases h with
  | repeated hk => simp [hk]
  | accepted hroom => by_cases hk : k ∈ w.keys <;> simp [hk]
  | pushed hk hfull hl hf =>
    rename_i e r
    have hin := hw.mem_keys_of_entry (hl ▸ List.mem_cons_self : e ∈ w.ledger.entries)
    have hcard : (insert k w.keys \ {e.1}).card + 1 = w.keys.card + 1 := by
      rw [← Finset.card_insert_of_notMem hk, ← Finset.card_singleton e.1]
      exact Finset.card_sdiff_add_card_eq_card
        (Finset.singleton_subset_iff.2 (Finset.mem_insert_of_mem hin))
    simpa [hk] using hcard

theorem Coherent.check_balance (hcap : 0 < lim.capacity) (h : w.Coherent lim) (k : K) (t : Time) :
    (w.check lim k t).2.size + (w.check lim k t).1.tally.expired +
          (w.check lim k t).1.tally.evicted +
        (if w.reaccepts lim k t then 1 else 0) =
      w.size + (w.check lim k t).1.tally.accepted := by
  have hsettles := (h.settles hcap k t).balance (h.sweep t).toAligned (h.check k t).toAligned
  have hswept := h.toAligned.sweep_balance t
  have hexpired := check_expired lim w k t
  unfold reaccepts
  simp only [Verdict.tally]
  omega

/-- A check accepts a remembered key exactly one window after it was last seen, and it was placed
then. -/
theorem Coherent.boundary_of_reaccepts (hwindow : 0 < lim.window) (h : w.Coherent lim) {k : K}
    {t : Time} (hre : w.reaccepts lim k t = true) :
    ∃ last, w.lastSeen? k = some last ∧ w.clamp t = last + lim.window ∧
      w.ledger.timeOf? k = some last := by
  rw [reaccepts, Bool.and_eq_true, Bool.not_eq_true', check_duplicate] at hre
  obtain ⟨hnew, hin⟩ := hre
  -- The key has passed the expiry, so its dates are the ones of an entry that stays.
  obtain ⟨⟨k, placed⟩, he, rfl⟩ := List.mem_map.1 (((h.sweep t).contains_iff k).1 hin)
  obtain ⟨last, mark, hlast, hmark, hplaced, hle, hfresh, -⟩ := (h.sweep t).dated _ he
  rw [mark_sweep, Option.some.injEq] at hmark
  dsimp only at hlast hplaced hfresh
  have hold : ¬ w.clamp t - last < lim.window := by
    intro hinside
    rw [isRepeat_eq_true_iff.2 ⟨last, hlast, hinside⟩] at hnew
    cases hnew
  have hentry : (k, placed) ∈ w.ledger.entries := by
    rw [(sweep_forgets lim w t).entries]
    exact List.mem_append_right _ he
  have heq : placed = last := by lia
  refine ⟨last, (sweep_forgets lim w t).lastSeen?_of_some hlast, by lia, ?_⟩
  rw [Ledger.timeOf?_eq_some_iff, ← heq]
  exact hentry

end Window

/-! ## Calls -/

/-- How many entries a call forgot by age, as it returns it. -/
def Outcome.expired : Outcome → Nat
  | .judged _ v => v.expired
  | .swept s => s.expired
  | .reset _ | .refused _ | .clockMoved => 0

namespace Detector

/-- The calls of a run, each with the detector that it finds. -/
def steps (d : Detector) : List Call → List (Detector × Call)
  | [] => []
  | c :: rest => (d, c) :: (d.perform c).2.steps rest

/-- Whether a call is a check that is accepted although its signature is still remembered after the
expiry of that call. -/
def reaccepts (d : Detector) (c : Call) : Bool :=
  match d.act? c with
  | some (.check s t) => d.window.reaccepts d.limits s t
  | _ => false

/-- How many entries a call drops whatever their age: a reset drops all there are. -/
def drops (d : Detector) (c : Call) : Nat :=
  match d.act? c with
  | some .reset => d.size
  | _ => 0

/-- How many entries the resets of a run dropped. -/
def dropped (d : Detector) (calls : List Call) : Nat :=
  ((d.steps calls).map fun x => x.1.drops x.2).sum

/-- How many checks of a run were accepted although their signature was still remembered. -/
def reaccepted (d : Detector) (calls : List Call) : Nat :=
  (d.steps calls).countP fun x => x.1.reaccepts x.2

theorem dropped_cons (d : Detector) (c : Call) (rest : List Call) :
    d.dropped (c :: rest) = d.drops c + (d.perform c).2.dropped rest := rfl

theorem reaccepted_cons (d : Detector) (c : Call) (rest : List Call) :
    d.reaccepted (c :: rest) =
      (if d.reaccepts c then 1 else 0) + (d.perform c).2.reaccepted rest := by
  rw [reaccepted, steps, List.countP_cons, Nat.add_comm]
  rfl

theorem Kept.perform_balance {d : Detector} (h : d.Kept) (c : Call) :
    (d.perform c).2.size + (d.perform c).1.tally.expired + (d.perform c).1.tally.evicted +
        d.drops c + (if d.reaccepts c then 1 else 0) =
      d.size + (d.perform c).1.tally.accepted := by
  have hanswered := d.answered_perform c
  unfold drops reaccepts size
  generalize (d.perform c).1 = o, (d.perform c).2.window = w', d.act? c = a at hanswered ⊢
  cases hanswered with
  | check id s t => exact h.coherent.check_balance d.capacity_pos s t
  | sweep t => exact h.coherent.toAligned.sweep_balance t
  | reset =>
    show (Window.empty : Window Signature).size + 0 + 0 + d.window.size + 0 = d.window.size + 0
    rw [Window.size_empty]
    omega
  | refused e => rfl
  | clockMoved => rfl

/-! ## Runs -/

theorem Kept.run_balance {d : Detector} (h : d.Kept) (calls : List Call) :
    (d.run calls).2.size + (d.run calls).2.window.tally.expired +
        (d.run calls).2.window.tally.evicted + d.dropped calls + d.reaccepted calls +
        d.window.tally.accepted =
      d.size + d.window.tally.expired + d.window.tally.evicted +
        (d.run calls).2.window.tally.accepted := by
  induction calls generalizing d with
  | nil =>
    show d.size + d.window.tally.expired + d.window.tally.evicted + 0 + 0 +
      d.window.tally.accepted = _
    rfl
  | cons c rest ih =>
    have hrest := ih (h.perform c)
    have hstep := h.perform_balance c
    have htally := d.tally_perform c
    have haccepted : (d.perform c).2.window.tally.accepted =
      d.window.tally.accepted + (d.perform c).1.tally.accepted := congrArg Tally.accepted htally
    have hexpired : (d.perform c).2.window.tally.expired =
      d.window.tally.expired + (d.perform c).1.tally.expired := congrArg Tally.expired htally
    have hevicted : (d.perform c).2.window.tally.evicted =
      d.window.tally.evicted + (d.perform c).1.tally.evicted := congrArg Tally.evicted htally
    rw [run_cons, dropped_cons, reaccepted_cons]
    dsimp only
    omega

theorem Kept.boundary {d : Detector} (h : d.Kept) (c : Call) (hre : d.reaccepts c = true) :
    ∃ s t last, d.act? c = some (.check s t) ∧ d.lastSeen? s = some last ∧
      d.window.clamp t = last + d.config.windowMs.toNat ∧
      d.window.ledger.timeOf? s = some last := by
  unfold reaccepts at hre
  split at hre
  next s t ha =>
    obtain ⟨last, hlast, hnow, hplaced⟩ := h.coherent.boundary_of_reaccepts d.valid.1 hre
    exact ⟨s, t, last, ha, hlast, hnow, hplaced⟩
  · cases hre

theorem Kept.steps {d : Detector} (h : d.Kept) (calls : List Call) :
    ∀ x ∈ d.steps calls, x.1.Kept := by
  induction calls generalizing d with
  | nil => nofun
  | cons c rest ih =>
    intro x hx
    rcases List.mem_cons.1 hx with rfl | hx
    · exact h
    · exact ih (h.perform c) x hx

-- Any one count is the sum of what the outcomes add to it.
theorem count_run (count : Tally → Nat) (hcount : ∀ t u, count (t + u) = count t + count u)
    (d : Detector) (calls : List Call) :
    count (d.run calls).2.window.tally =
      count d.window.tally + ((d.run calls).1.map fun o => count o.tally).sum := by
  induction calls generalizing d with
  | nil => rfl
  | cons c rest ih =>
    rw [run_cons, List.map_cons, List.sum_cons, ← Nat.add_assoc, ← hcount, ← tally_perform]
    exact ih _

/-- Every check was suppressed or accepted. -/
def Counted (d : Detector) : Prop :=
  d.window.tally.checked = d.window.tally.suppressed + d.window.tally.accepted

theorem Counted.perform {d : Detector} (h : d.Counted) (c : Call) : (d.perform c).2.Counted := by
  have hadds : ∀ o : Outcome, o.tally.checked = o.tally.suppressed + o.tally.accepted := by
    intro o
    cases o with
    | judged id v =>
      show 1 = (if v.duplicate then 1 else 0) + (if v.duplicate then 0 else 1)
      cases v.duplicate <;> rfl
    | _ => rfl
  have hstep := hadds (d.perform c).1
  unfold Counted at h ⊢
  rw [tally_perform]
  show d.window.tally.checked + _ = (d.window.tally.suppressed + _) + (d.window.tally.accepted + _)
  omega

theorem Counted.run {d : Detector} (h : d.Counted) (calls : List Call) : (d.run calls).2.Counted :=
  run_of_perform (fun _ c hd => hd.perform c) d calls h

/-- The counts of a run balance. -/
structure Conserves (d : Detector) (calls : List Call) : Prop where
  checked : (d.run calls).2.window.tally.checked =
    (d.run calls).2.window.tally.suppressed + (d.run calls).2.window.tally.accepted
  accepted : (d.run calls).2.window.tally.accepted =
    (d.run calls).2.size + (d.run calls).2.window.tally.expired +
      (d.run calls).2.window.tally.evicted + d.dropped calls + d.reaccepted calls
  expired : (d.run calls).2.window.tally.expired = ((d.run calls).1.map Outcome.expired).sum
  evicted : (d.run calls).2.window.tally.evicted =
    (d.run calls).1.countP fun o => o.evicted?.isSome
  -- What is accepted while it is remembered was last seen, and placed, exactly a window ago.
  boundary : ∀ x ∈ d.steps calls, x.1.reaccepts x.2 = true → ∃ s t last,
    x.1.act? x.2 = some (.check s t) ∧ x.1.lastSeen? s = some last ∧
      x.1.window.clamp t = last + x.1.config.windowMs.toNat ∧
      x.1.window.ledger.timeOf? s = some last

theorem conserves_initial (config : Config) (hvalid : config.Valid) (clock : Clock)
    (calls : List Call) : (initial config hvalid clock).Conserves calls where
  checked :=
    have hcounted : (initial config hvalid clock).Counted := rfl
    hcounted.run calls
  accepted := by
    have hbalance := (kept_initial config hvalid clock).run_balance calls
    have hsize : (initial config hvalid clock).size = 0 := Window.size_empty
    have hzero : (initial config hvalid clock).window.tally = {} := rfl
    rw [hsize, hzero] at hbalance
    dsimp only at hbalance
    omega
  expired := by
    have hsum := count_run Tally.expired (fun _ _ => rfl) (initial config hvalid clock) calls
    rw [hsum]
    refine (Nat.zero_add _).trans (congrArg List.sum (List.map_congr_left fun o _ => ?_))
    cases o <;> rfl
  evicted := by
    have hsum := count_run Tally.evicted (fun _ _ => rfl) (initial config hvalid clock) calls
    rw [hsum]
    refine (Nat.zero_add _).trans ?_
    induction ((initial config hvalid clock).run calls).1 with
    | nil => rfl
    | cons o rest ih =>
      rw [List.map_cons, List.sum_cons, List.countP_cons, ih, Nat.add_comm]
      congr 1
      cases o <;> rfl
  boundary x hx := ((kept_initial config hvalid clock).steps calls x hx).boundary x.2

/-- **Every accepted frame is accounted for.**  A valid configuration gives a detector, and after
any calls on it the accepted frames are the remembered signatures, those forgotten by age, by number
and by resets, and the few that were accepted again while still remembered, each of them exactly one
window after it was last seen. -/
theorem conserves_entries (config : Config) (clock : Clock) (hvalid : config.Valid) :
    ∃ d, create config clock = .ok d ∧ ∀ calls : List Call, d.Conserves calls :=
  ⟨_, create_of_valid config clock hvalid, conserves_initial config hvalid clock⟩

/-- Five acceptances: one signature is remembered, and there was one expiry, one eviction, one entry
in a reset, and one check exactly a window after the last. -/
theorem conserves_entries_five_acceptances :
    Config.Valid ⟨50, 2, .bits64, .recency, .clock⟩ ∧
      ∃ d, create ⟨50, 2, .bits64, .recency, .clock⟩ ⟨0⟩ = .ok d ∧
        ∃ calls, calls = [.check 0x123 [1] (some 100), .check 0x123 [1] (some 150),
            .check 0x124 [2] (some 160), .check 0x125 [] (some 170), .check 0x125 [] (some 180),
            .sweep 215, .reset, .check 0x123 [1] (some 10)] ∧
          d.Conserves calls ∧ (d.run calls).2.window.tally =
            { checked := 6, suppressed := 1, accepted := 5, expired := 1, evicted := 1 } ∧
          (d.run calls).2.size = 1 ∧ d.dropped calls = 1 ∧ d.reaccepted calls = 1 := by
  obtain ⟨d, hd, hrun⟩ := conserves_entries ⟨50, 2, .bits64, .recency, .clock⟩ ⟨0⟩ (by decide)
  have hconserves := hrun [.check 0x123 [1] (some 100), .check 0x123 [1] (some 150),
    .check 0x124 [2] (some 160), .check 0x125 [] (some 170), .check 0x125 [] (some 180),
    .sweep 215, .reset, .check 0x123 [1] (some 10)]
  cases hd
  exact ⟨by decide, _, rfl, _, rfl, hconserves, by decide +kernel, by decide +kernel,
    by decide +kernel, by decide +kernel⟩

end Detector

end EchoFilter
