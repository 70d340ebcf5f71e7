import EchoFilter.Proofs.Soundness

/-!
# Isolation — other keys change nothing for a key, unless they push it out

What a window does to one key depends on the mark, on when the key was last seen and on when it was
placed.  Two windows that `Agree` on these stay in agreement through the same act, because the
ledger is in order: expiry takes a key exactly when its own time is too old, whatever stands before
it.  A check of another key is, for the key, a sweep at the same time, as long as nothing is
evicted.

`unmoved_by_others` says it of runs: the checks of all other signatures can be turned into sweeps.
-/

namespace EchoFilter

namespace Ledger

variable {K : Type} [Ord K] [Std.TransOrd K] [Std.LawfulEqOrd K] [DecidableEq K]

-- In an ordered ledger a cut by time asks every key for its own time only.
theorem timeOf?_popAllBelow {l : Ledger K} (h : l.entries.Pairwise fun a b => a.2 ≤ b.2)
    (cutoff : Time) (k : K) :
    (l.popAllBelow cutoff).2.timeOf? k = (l.timeOf? k).filter fun t => cutoff ≤ t := by
  apply Option.ext
  intro t
  rw [timeOf?_eq_some_iff, entries_popAllBelow, DatedKeys.dropWhile_eq_filter h, List.mem_filter,
    Option.filter_eq_some_iff, timeOf?_eq_some_iff]

theorem timeOf?_touch_of_ne (l : Ledger K) {k a : K} (h : a ≠ k) (t : Time) :
    (l.touch k t).2.timeOf? a = l.timeOf? a := by
  rw [touch_snd]
  split
  · rw [timeOf?_place, if_neg h]
  · rfl

end Ledger

namespace Window

variable {K : Type} [Ord K] [Std.TransOrd K]

/-- Two windows that cannot be told apart by what becomes of `k`. -/
structure Agree (k : K) (w w' : Window K) : Prop where
  mark : w'.mark = w.mark
  lastSeen? : w'.lastSeen? k = w.lastSeen? k
  placed? : w'.ledger.timeOf? k = w.ledger.timeOf? k

/-- The window remembers no key but `k`. -/
def Lone (k : K) (w : Window K) : Prop :=
  ∀ a, w.contains a = true → a = k

section Agree

variable {k : K} {w w' w'' : Window K}

theorem Agree.refl (k : K) (w : Window K) : Agree k w w :=
  ⟨rfl, rfl, rfl⟩

theorem Agree.symm (h : Agree k w w') : Agree k w' w :=
  ⟨h.mark.symm, h.lastSeen?.symm, h.placed?.symm⟩

theorem Agree.trans (h : Agree k w w') (h' : Agree k w' w'') : Agree k w w'' :=
  ⟨h'.mark.trans h.mark, h'.lastSeen?.trans h.lastSeen?, h'.placed?.trans h.placed?⟩

theorem Agree.clamp (h : Agree k w w') (t : Time) : w'.clamp t = w.clamp t := by
  unfold Window.clamp
  rw [h.mark]

theorem Agree.contains (h : Agree k w w') : w'.contains k = w.contains k := by
  rw [contains_eq_isSome, contains_eq_isSome, h.lastSeen?]

end Agree

variable [Std.LawfulEqOrd K]
variable {lim : Limits} {k : K} {w w' : Window K}

omit [Std.LawfulEqOrd K] in
theorem Aligned.isSome_placed? (h : w.Aligned lim) (k : K) :
    (w.ledger.timeOf? k).isSome = (w.lastSeen? k).isSome := by
  have hkey := h.contains_iff k
  rw [← Ledger.contains_eq_true_iff, contains_eq_isSome] at hkey
  exact (Bool.eq_iff_iff.2 hkey).symm

variable [DecidableEq K]

omit [Std.LawfulEqOrd K] in
theorem agree_of_puts {a : K} {now : Time} (hp : Puts w w' a now) (hne : k ≠ a) : Agree k w w' where
  mark := hp.mark
  lastSeen? := by rw [hp.lastSeen?, if_neg hne]
  placed? := by
    apply Option.ext
    intro t
    rw [Ledger.timeOf?_eq_some_iff, hp.entries, List.mem_append, List.mem_filter,
      Ledger.timeOf?_eq_some_iff]
    simp [hne]

/-! ## The same act on both sides -/

theorem Aligned.placed?_sweep (h : w.Aligned lim) (t : Time) (k : K) :
    (w.sweep lim t).2.ledger.timeOf? k =
      (w.ledger.timeOf? k).filter fun placed => w.clamp t - lim.window ≤ placed :=
  Ledger.timeOf?_popAllBelow h.ascending _ k

-- A key goes from the cache exactly when it goes from the ledger.
theorem Aligned.lastSeen?_sweep_eq (h : w.Aligned lim) (t : Time) (k : K) :
    (w.sweep lim t).2.lastSeen? k =
      if ((w.sweep lim t).2.ledger.timeOf? k).isSome then w.lastSeen? k else none := by
  rw [(h.sweep t).isSome_placed? k]
  cases hlast : (w.sweep lim t).2.lastSeen? k with
  | none => rfl
  | some last => exact ((sweep_forgets lim w t).lastSeen?_of_some hlast).symm

theorem Agree.sweep (h : Agree k w w') (hw : w.Aligned lim) (hw' : w'.Aligned lim) (t : Time) :
    Agree k (w.sweep lim t).2 (w'.sweep lim t).2 := by
  have hplaced : (w'.sweep lim t).2.ledger.timeOf? k = (w.sweep lim t).2.ledger.timeOf? k := by
    rw [hw'.placed?_sweep, hw.placed?_sweep, h.placed?, h.clamp]
  refine ⟨?_, ?_, hplaced⟩
  · rw [mark_sweep, mark_sweep, h.clamp]
  · rw [hw'.lastSeen?_sweep_eq, hw.lastSeen?_sweep_eq, hplaced, h.lastSeen?]

omit [Std.LawfulEqOrd K] [DecidableEq K] in
theorem Agree.isRepeat (h : Agree k w w') (now : Time) :
    w'.isRepeat lim k now = w.isRepeat lim k now := by
  rw [Bool.eq_iff_iff, isRepeat_eq_true_iff, isRepeat_eq_true_iff, h.lastSeen?]

theorem Agree.renew (h : Agree k w w') (now : Time) :
    Agree k (w.renew lim k now) (w'.renew lim k now) where
  mark := h.mark
  lastSeen? := by rw [lastSeen?_renew, lastSeen?_renew, if_pos rfl, if_pos rfl]
  placed? := by
    cases hpol : lim.policy with
    | recency =>
      have hcontains : w'.ledger.contains k = w.ledger.contains k :=
        congrArg Option.isSome h.placed?
      simp only [Window.renew, hpol, Ledger.touch_snd, hcontains]
      split
      · rw [Ledger.timeOf?_place, Ledger.timeOf?_place, if_pos rfl, if_pos rfl]
      · exact h.placed?
    | firstInsertion =>
      rw [ledger_renew hpol, ledger_renew hpol]
      exact h.placed?

theorem Agree.remember (h : Agree k w w') (now : Time) :
    Agree k (w.remember k now) (w'.remember k now) where
  mark := h.mark
  lastSeen? := by
    rw [(remember_puts w k now).lastSeen?, (remember_puts w' k now).lastSeen?, if_pos rfl,
      if_pos rfl]
  placed? := by
    show (w'.ledger.place k now).timeOf? k = (w.ledger.place k now).timeOf? k
    rw [Ledger.timeOf?_place, Ledger.timeOf?_place, if_pos rfl, if_pos rfl]

theorem evict_of_none (h : (w.evict lim).1 = none) : (w.evict lim).2 = w := by
  by_cases hsize : w.size ≤ lim.capacity
  · rw [evict_of_le hsize]
  · unfold evict at h ⊢
    rw [if_neg hsize] at h ⊢
    cases hold : w.ledger.oldest? with
    | none => rfl
    | some e =>
      rw [hold] at h
      cases h

-- Without an eviction a check is a sweep and then a write of its own key.
theorem check_of_not_evicted {a : K} {t : Time} (h : (w.check lim a t).1.evicted = none) :
    (w.check lim a t).2 =
      if (w.sweep lim t).2.isRepeat lim a (w.clamp t) then
        (w.sweep lim t).2.renew lim a (w.clamp t)
      else (w.sweep lim t).2.remember a (w.clamp t) := by
  cases hrep : (w.sweep lim t).2.isRepeat lim a (w.clamp t) with
  | true => rw [check_of_repeat hrep, if_pos rfl]
  | false =>
    rw [check_of_new hrep] at h ⊢
    rw [if_neg Bool.false_ne_true]
    exact evict_of_none h

theorem Agree.check (h : Agree k w w') (hw : w.Aligned lim) (hw' : w'.Aligned lim) {t : Time}
    (hkept : (w.check lim k t).1.evicted = none) (hkept' : (w'.check lim k t).1.evicted = none) :
    Agree k (w.check lim k t).2 (w'.check lim k t).2 := by
  have hswept := h.sweep hw hw' t
  rw [check_of_not_evicted hkept, check_of_not_evicted hkept', hswept.isRepeat, h.clamp]
  split
  · exact hswept.renew _
  · exact hswept.remember _

theorem Agree.duplicate (h : Agree k w w') (hw : w.Aligned lim) (hw' : w'.Aligned lim) (t : Time) :
    (w'.check lim k t).1.duplicate = (w.check lim k t).1.duplicate := by
  rw [check_duplicate, check_duplicate, (h.sweep hw hw' t).isRepeat, h.clamp]

/-! ## A check of another key -/

theorem agree_check_of_ne {a : K} (hne : k ≠ a) {t : Time}
    (hkept : (w.check lim a t).1.evicted = none) :
    Agree k (w.sweep lim t).2 (w.check lim a t).2 := by
  rw [check_of_not_evicted hkept]
  split
  · refine ⟨rfl, by rw [lastSeen?_renew, if_neg hne], ?_⟩
    cases hpol : lim.policy with
    | recency =>
      simp only [Window.renew, hpol]
      exact Ledger.timeOf?_touch_of_ne _ hne _
    | firstInsertion => rw [ledger_renew hpol]
  · exact agree_of_puts (remember_puts _ a _) hne

/-! ## A key by itself -/

theorem Lone.sweep (h : w.Lone k) (t : Time) : (w.sweep lim t).2.Lone k := by
  intro a ha
  rw [contains_eq_isSome, Option.isSome_iff_exists] at ha
  obtain ⟨last, hlast⟩ := ha
  apply h a
  rw [contains_eq_isSome, (sweep_forgets lim w t).lastSeen?_of_some hlast, Option.isSome_some]

theorem Lone.check (h : w.Lone k) (t : Time) : (w.check lim k t).2.Lone k := by
  intro a ha
  rw [contains_eq_isSome, Option.isSome_iff_exists] at ha
  obtain ⟨last, hlast⟩ := ha
  rcases lastSeen?_of_check hlast with ⟨hak, -⟩ | ⟨-, hold⟩
  · exact hak
  · apply h a
    rw [contains_eq_isSome, hold, Option.isSome_some]

theorem Lone.not_evicted (h : w.Lone k) (hw : w.Aligned lim) (hcap : 0 < lim.capacity) (t : Time) :
    (w.check lim k t).1.evicted = none := by
  cases hrep : (w.sweep lim t).2.isRepeat lim k (w.clamp t) with
  | true => rw [check_of_repeat hrep]
  | false =>
    have hswept := hw.sweep t
    have hput := remember_puts (w.sweep lim t).2 k (w.clamp t)
    -- The ledger holds the key and nothing else, and there is room for one.
    have hrest : ((w.sweep lim t).2.ledger.entries.filter fun e => e.1 ≠ k) = [] := by
      rw [List.filter_eq_nil_iff]
      intro e he
      have hkey := (hswept.contains_iff e.1).2 (List.mem_map_of_mem he)
      simpa using h.sweep t e.1 hkey
    have hsize : ((w.sweep lim t).2.remember k (w.clamp t)).size = 1 := by
      rw [(hswept.remember (mark_sweep lim w t) k).size_eq, hput.entries, hrest]
      rfl
    rw [check_of_new hrep, evict_of_le (by omega)]

end Window

/-! ## Acts with the other keys silenced -/

/-- The act as far as `k` goes: a check of another key only brings its time. -/
def Act.silence {K : Type} [DecidableEq K] (k : K) : Act K → Act K
  | .check a t => if a = k then .check a t else .sweep t
  | .sweep t => .sweep t
  | .reset => .reset

namespace Window

variable {K : Type} [Ord K] [Std.TransOrd K] [Std.LawfulEqOrd K] [DecidableEq K]
variable {lim : Limits} {k : K} {w w' : Window K}

/-- The act takes no key out by number. -/
def Spares (lim : Limits) (w : Window K) (a : Act K) : Prop :=
  ∀ k t, a = .check k t → (w.check lim k t).1.evicted = none

theorem Lone.act (h : w.Lone k) (a : Act K) : (w.act lim (a.silence k)).Lone k := by
  cases a with
  | check b t =>
    rw [Act.silence]
    split
    next hbk => rw [hbk]; exact h.check t
    next => exact h.sweep t
  | sweep t => exact h.sweep t
  | reset => exact fun a ha => absurd ha (by simp [Act.silence, Window.act, contains_eq_isSome])

/-- **One step.**  A window and one that holds `k` alone agree on `k` after an act, whatever its
key, and the same act with the other keys silenced. -/
theorem Agree.act (h : Agree k w w') (hw : w.Coherent lim) (hw' : w'.Coherent lim)
    (hlone : w'.Lone k) (hcap : 0 < lim.capacity) {a : Act K} (hspares : w.Spares lim a) :
    Agree k (w.act lim a) (w'.act lim (a.silence k)) := by
  cases a with
  | check b t =>
    have hkept := hspares b t rfl
    rw [Act.silence]
    split
    next hbk =>
      subst hbk
      exact h.check hw.toAligned hw'.toAligned hkept (hlone.not_evicted hw'.toAligned hcap t)
    next hbk =>
      have hother := agree_check_of_ne (Ne.symm hbk) hkept
      exact hother.symm.trans (h.sweep hw.toAligned hw'.toAligned t)
  | sweep t => exact h.sweep hw.toAligned hw'.toAligned t
  | reset => exact ⟨rfl, by simp [Act.silence, Window.act], rfl⟩

end Window

/-! ## Runs -/

/-- The entry that a call forgot by number. -/
def Outcome.evicted? : Outcome → Option (Signature × Time)
  | .judged _ v => v.evicted
  | _ => none

/-- If the first outcome is a verdict on `s`, the second one is the same verdict. -/
def Outcome.Echoes (s : Signature) (o o' : Outcome) : Prop :=
  ∀ id v, o = .judged id v → v.key = s →
    ∃ id' v', o' = .judged id' v' ∧ v'.key = s ∧ v'.now = v.now ∧ v'.duplicate = v.duplicate

/-- The call as far as `s` goes: a check of another signature at a given time becomes a sweep at
that time. -/
def Call.silence (config : Config) (s : Signature) (c : Call) : Call :=
  match c.act? config default none with
  | some (.check a t) => if a = s then c else .sweep t
  | _ => c

theorem Call.act?_silence {c : Call} (hc : c.isTimed = true) (config : Config) (s : Signature)
    (clock clock' : Clock) (latest latest' : Option Time) :
    (c.silence config s).act? config clock' latest' =
      (c.act? config clock latest).map (Act.silence s) := by
  have hsame : ∀ (clock : Clock) (latest : Option Time),
      c.act? config clock latest = c.act? config default none := fun clock latest =>
    actBy?_of_isTimed _ hc config config clock default latest none
  rw [hsame clock latest]
  unfold silence
  cases ha : c.act? config default none with
  | none => exact (hsame clock' latest').trans ha
  | some a =>
    cases a with
    | check a t =>
      simp only [Option.map_some, Act.silence]
      split
      · exact (hsame clock' latest').trans ha
      · rfl
    | sweep t => exact (hsame clock' latest').trans ha
    | reset => exact (hsame clock' latest').trans ha

namespace Detector

/-- Two runs of a detector, the second with `s` alone. -/
structure Isolates (s : Signature) (d d' : Detector) : Prop where
  kept : d.Kept
  kept' : d'.Kept
  config : d'.config = d.config
  agree : Window.Agree s d.window d'.window
  lone : d'.window.Lone s

theorem spares_of_perform {d : Detector} {c : Call} {a : Act Signature} (ha : d.act? c = some a)
    (hkept : (d.perform c).1.evicted? = none) : d.window.Spares d.limits a := by
  have hreports := d.perform_fst c
  rintro k t rfl
  rw [ha] at hreports
  obtain ⟨id, hid⟩ := hreports
  rw [hid] at hkept
  exact hkept

variable {s : Signature} {d d' : Detector}

theorem isolates_initial (s : Signature) (config : Config) (hvalid : config.Valid) (clock : Clock) :
    Isolates s (initial config hvalid clock) (initial config hvalid clock) where
  kept := kept_initial config hvalid clock
  kept' := kept_initial config hvalid clock
  config := rfl
  agree := Window.Agree.refl s _
  lone a ha := absurd ha (by simp [initial, Window.contains_eq_isSome])

theorem Isolates.act? (h : Isolates s d d') {c : Call} (hc : c.isTimed = true) :
    d'.act? (c.silence d.config s) = (d.act? c).map (Act.silence s) := by
  unfold Detector.act?
  rw [h.config]
  exact Call.act?_silence hc d.config s d.clock d'.clock d.window.mark d'.window.mark

theorem Isolates.limits (h : Isolates s d d') : d'.limits = d.limits :=
  limits_congr h.config

theorem Isolates.perform (h : Isolates s d d') {c : Call} (hc : c.isTimed = true)
    (hkept : (d.perform c).1.evicted? = none) :
    Isolates s (d.perform c).2 (d'.perform (c.silence d.config s)).2 := by
  have hwindow := d.window_perform c
  have hwindow' := d'.window_perform (c.silence d.config s)
  rw [h.act? hc, h.limits] at hwindow'
  refine ⟨h.kept.perform c, h.kept'.perform _, ?_, ?_, ?_⟩
  · rw [config_perform, config_perform, h.config]
  · rw [hwindow, hwindow']
    cases ha : d.act? c with
    | none => exact h.agree
    | some a =>
      have hcoherent' := h.kept'.coherent
      rw [h.limits] at hcoherent'
      exact h.agree.act h.kept.coherent hcoherent' h.lone d.capacity_pos
        (spares_of_perform ha hkept)
  · rw [hwindow']
    cases d.act? c with
    | none => exact h.lone
    | some a => exact h.lone.act a

theorem Isolates.echoes (h : Isolates s d d') {c : Call} (hc : c.isTimed = true) :
    (d.perform c).1.Echoes s (d'.perform (c.silence d.config s)).1 := by
  have hreports := d.perform_fst c
  have hreports' := d'.perform_fst (c.silence d.config s)
  rw [h.act? hc, h.limits] at hreports'
  intro id v ho hkey
  rw [ho] at hreports
  cases ha : d.act? c with
  | none =>
    rw [ha] at hreports
    rcases hreports with hclock | ⟨e, he⟩
    · cases hclock
    · cases he
  | some a =>
    rw [ha] at hreports hreports'
    cases a with
    | check k t =>
      obtain ⟨_, hv⟩ := hreports
      cases hv
      rw [Window.check_key] at hkey
      subst hkey
      rw [Option.map_some, Act.silence, if_pos rfl] at hreports'
      obtain ⟨id', hid'⟩ := hreports'
      have hcoherent' := h.kept'.coherent
      rw [h.limits] at hcoherent'
      refine ⟨id', _, hid', Window.check_key _ _ _ _, ?_, ?_⟩
      · rw [Window.check_now, Window.check_now, h.agree.clamp]
      · exact h.agree.duplicate h.kept.coherent.toAligned hcoherent'.toAligned t
    | sweep t => cases hreports
    | reset => cases hreports

theorem Isolates.run (h : Isolates s d d') {calls : List Call}
    (hcalls : ∀ c ∈ calls, c.isTimed = true) (hkept : ∀ o ∈ (d.run calls).1, o.evicted? = none) :
    List.Forall₂ (Outcome.Echoes s) (d.run calls).1
        (d'.run (calls.map (Call.silence d.config s))).1 ∧
      Isolates s (d.run calls).2 (d'.run (calls.map (Call.silence d.config s))).2 := by
  induction calls generalizing d d' with
  | nil => exact ⟨.nil, h⟩
  | cons c rest ih =>
    have hc := hcalls c List.mem_cons_self
    rw [run_cons] at hkept
    have hnext := h.perform hc (hkept _ List.mem_cons_self)
    have hrest := ih hnext (fun c hin => hcalls c (List.mem_cons_of_mem _ hin))
      (fun o hin => hkept o (List.mem_cons_of_mem _ hin))
    rw [config_perform] at hrest
    rw [List.map_cons, run_cons, run_cons]
    exact ⟨.cons (h.echoes hc) hrest.1, hrest.2⟩

theorem run_take (d : Detector) (calls : List Call) (n : Nat) :
    (d.run (calls.take n)).1 = (d.run calls).1.take n := by
  induction calls generalizing d n with
  | nil =>
    rw [List.take_nil]
    exact List.take_nil.symm
  | cons c rest ih =>
    cases n with
    | zero => rfl
    | succ n => rw [List.take_succ_cons, run_cons, run_cons, List.take_succ_cons, ih]

/-- What a client can see of `s` and of the mark is the same on both detectors. -/
structure LooksAlike (s : Signature) (d d' : Detector) : Prop where
  contains : d'.contains s = d.contains s
  lastSeen? : d'.lastSeen? s = d.lastSeen? s
  mark : d'.window.mark = d.window.mark

/-- **Other traffic moves no signature, unless it pushes one out.**  A valid configuration gives a
detector, and in a run of calls that bring their times, none of which forgets an entry by number,
the checks of all signatures but `s` can be replaced by sweeps at the same times: every check of `s`
gets the same answer, and after every step `s` and the mark look the same. -/
theorem unmoved_by_others (config : Config) (clock : Clock) (hvalid : config.Valid) (s : Signature)
    (calls : List Call) (hcalls : ∀ c ∈ calls, c.isTimed = true) :
    ∃ d, create config clock = .ok d ∧ ((∀ o ∈ (d.run calls).1, o.evicted? = none) →
      List.Forall₂ (Outcome.Echoes s) (d.run calls).1
        (d.run (calls.map (Call.silence config s))).1 ∧
      ∀ n, LooksAlike s (d.run (calls.take n)).2
        (d.run ((calls.map (Call.silence config s)).take n)).2) := by
  refine ⟨_, create_of_valid config clock hvalid, fun hkept => ?_⟩
  have hstart := isolates_initial s config hvalid clock
  refine ⟨(hstart.run hcalls hkept).1, fun n => ?_⟩
  have hprefix : ∀ o ∈ ((initial config hvalid clock).run (calls.take n)).1, o.evicted? = none := by
    rw [run_take]
    exact fun o ho => hkept o (List.mem_of_mem_take ho)
  have hagree := (hstart.run (fun c hc => hcalls c (List.mem_of_mem_take hc)) hprefix).2.agree
  rw [← List.map_take]
  exact ⟨hagree.contains, hagree.lastSeen?, hagree.mark⟩

/-- Three signatures in a window of 50 ms: the first is a repeat at 130, is gone by 155, and is new
at 160 while the others are still remembered. -/
theorem unmoved_by_others_three_signatures :
    Config.Valid ⟨50, 3, .bits64, .firstInsertion, .clock⟩ ∧
      ∃ d, create ⟨50, 3, .bits64, .firstInsertion, .clock⟩ ⟨0⟩ = .ok d ∧
        (d.run [.check 0x123 [1] (some 100), .check 0x124 [2] (some 110),
          .check 0x123 [1] (some 130), .decide ⟨0x125, by decide⟩ ⟨[], by decide⟩ 155,
          .check 0x123 [1] (some 160)]).1.map
            Outcome.isDuplicate = [false, false, true, false, false] ∧
        ([.check 0x123 [1] (some 100), .check 0x124 [2] (some 110), .check 0x123 [1] (some 130),
          .decide ⟨0x125, by decide⟩ ⟨[], by decide⟩ 155, .check 0x123 [1] (some 160)] :
            List Call).map (Call.silence ⟨50, 3, .bits64, .firstInsertion, .clock⟩
              (.compute .bits64 ⟨0x123, by decide⟩ [1])) =
          [.check 0x123 [1] (some 100), .sweep 110, .check 0x123 [1] (some 130), .sweep 155,
            .check 0x123 [1] (some 160)] ∧
        List.Forall₂ (Outcome.Echoes (.compute .bits64 ⟨0x123, by decide⟩ [1]))
          (d.run [.check 0x123 [1] (some 100), .check 0x124 [2] (some 110),
            .check 0x123 [1] (some 130), .decide ⟨0x125, by decide⟩ ⟨[], by decide⟩ 155,
            .check 0x123 [1] (some 160)]).1
          (d.run [.check 0x123 [1] (some 100), .sweep 110, .check 0x123 [1] (some 130), .sweep 155,
            .check 0x123 [1] (some 160)]).1 := by
  obtain ⟨d, hd, hrun⟩ := unmoved_by_others ⟨50, 3, .bits64, .firstInsertion, .clock⟩ ⟨0⟩
    (by decide) (.compute .bits64 ⟨0x123, by decide⟩ [1])
    [.check 0x123 [1] (some 100), .check 0x124 [2] (some 110), .check 0x123 [1] (some 130),
      .decide ⟨0x125, by decide⟩ ⟨[], by decide⟩ 155, .check 0x123 [1] (some 160)] (by decide)
  have hsilenced : ([.check 0x123 [1] (some 100), .check 0x124 [2] (some 110),
      .check 0x123 [1] (some 130), .decide ⟨0x125, by decide⟩ ⟨[], by decide⟩ 155,
      .check 0x123 [1] (some 160)] : List Call).map
        (Call.silence ⟨50, 3, .bits64, .firstInsertion, .clock⟩
          (.compute .bits64 ⟨0x123, by decide⟩ [1])) =
      [.check 0x123 [1] (some 100), .sweep 110, .check 0x123 [1] (some 130), .sweep 155,
        .check 0x123 [1] (some 160)] := by decide +kernel
  rw [hsilenced] at hrun
  cases hd
  exact ⟨by decide, _, rfl, by decide +kernel, hsilenced, (hrun (by decide +kernel)).1⟩

end Detector

end EchoFilter
