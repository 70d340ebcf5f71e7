import Mathlib.Data.Finset.Image
import Mathlib.Data.List.Forall2
import EchoFilter.Proofs.Chronicle

/-!
# Loosening — a longer window, more room or narrower signatures lose no suppression

Two detectors under recency are asked the same, and the second has a window at least as long, at
least as much room and signatures no wider.  They hold different keys and forget them at different
moments, so their windows are not compared at all: each answers from its own history, and the second
history is the first one with its keys narrowed.  In such a history a key was last checked no
earlier and has no more other keys behind it.  `loosening_keeps_suppressions` carries this through a
run.
-/

namespace EchoFilter

/-! ## Histories with renamed keys -/

namespace History

variable {K L : Type}

/-- One happening in two histories: the keys of the second are images, and its answers are its
own. -/
inductive Renamed (f : K → L) : Happening K → Happening L → Prop where
  | checked (k : K) (t : Time) (duplicate duplicate' : Bool) :
      Renamed f (.checked k t duplicate) (.checked (f k) t duplicate')
  | swept (t : Time) : Renamed f (.swept t) (.swept t)
  | reset : Renamed f .reset .reset

theorem latest?_of_renamed {f : K → L} {past : List (Happening K)} {past' : List (Happening L)}
    (h : List.Forall₂ (Renamed f) past past') : latest? past' = latest? past := by
  induction h with
  | nil => rfl
  | cons hhead _ ih =>
    cases hhead with
    | checked k t duplicate duplicate' => rw [latest?, latest?, ih]
    | swept t => rw [latest?, latest?, ih]
    | reset => rfl

theorem processed_of_renamed {f : K → L} {past : List (Happening K)} {past' : List (Happening L)}
    (h : List.Forall₂ (Renamed f) past past') (t : Time) :
    processed past' t = processed past t := by
  unfold processed
  rw [latest?_of_renamed h]

variable [DecidableEq K] [DecidableEq L]

theorem le_latest_of_lastCheck? {past : List (Happening K)} {k : K} {seen : Time}
    (h : lastCheck? k past = some seen) : seen ≤ (latest? past).getD 0 :=
  le_latest_of_mem (mem_placements.2 h)

/-- Where keys are merged, a key was checked last no earlier, and every key checked since is the
image of one checked since. -/
theorem lastCheck?_of_renamed {f : K → L} {past : List (Happening K)} {past' : List (Happening L)}
    (h : List.Forall₂ (Renamed f) past past') {k : K} {seen : Time}
    (hk : lastCheck? k past = some seen) :
    ∃ seen', lastCheck? (f k) past' = some seen' ∧ seen ≤ seen' ∧
      checkedSince (f k) past' ⊆ (checkedSince k past).image f := by
  induction h with
  | nil => cases hk
  | @cons happening happening' past past' hhead htail ih =>
    cases hhead with
    | reset => cases hk
    | swept t => exact ih hk
    | checked a t duplicate duplicate' =>
      have hlatest := processed_of_renamed htail t
      by_cases hfa : f a = f k
      · -- Either way the image was checked just now, and nothing since.
        refine ⟨processed past' t, if_pos ⟨hfa, rfl⟩, ?_, ?_⟩
        · rw [hlatest]
          exact le_latest_of_lastCheck? hk
        · have hnone : checkedSince (f k) (.checked (f a) t duplicate' :: past') = ∅ := by
            simp [since, anyAnswer, hfa]
          rw [hnone]
          exact Finset.empty_subset _
      · have hak : a ≠ k := fun hak => hfa (congrArg f hak)
        have hold : lastCheck? k past = some seen := by
          rw [← hk]
          exact (if_neg fun hand => hak hand.1).symm
        obtain ⟨seen', hseen', hle, hsubset⟩ := ih hold
        have hsince : checkedSince k (.checked a t duplicate :: past) =
            insert a (checkedSince k past) := by simp [since, anyAnswer, hak]
        have hsince' : checkedSince (f k) (.checked (f a) t duplicate' :: past') =
            insert (f a) (checkedSince (f k) past') := by simp [since, anyAnswer, hfa]
        refine ⟨seen', ?_, hle, ?_⟩
        · rw [← hseen']
          exact if_neg fun hand => hfa hand.1
        · rw [hsince, hsince', Finset.image_insert]
          exact Finset.insert_subset_insert _ hsubset

theorem card_checkedSince_of_renamed {f : K → L} {past : List (Happening K)}
    {past' : List (Happening L)} {k : K}
    (h : checkedSince (f k) past' ⊆ (checkedSince k past).image f) :
    (checkedSince (f k) past').card ≤ (checkedSince k past).card :=
  Nat.le_trans (Finset.card_le_card h) Finset.card_image_le

end History

/-! ## Narrower signatures -/

/-- The same digest, cut to a width. -/
def Signature.narrow (w : Width) (s : Signature) : Signature :=
  ⟨w, s.value % w.modulus, Nat.mod_lt _ w.modulus_pos⟩

theorem Signature.narrow_compute {v w : Width} (h : v.bits ≤ w.bits) (id : ArbitrationId)
    (payload : List UInt8) : (compute w id payload).narrow v = compute v id payload := by
  have hdvd : v.modulus ∣ w.modulus := by
    rw [Width.modulus_eq, Width.modulus_eq]
    exact Nat.pow_dvd_pow 2 h
  have hvalue : (SipHash.digest (content id payload)).toNat % w.modulus % v.modulus =
      (SipHash.digest (content id payload)).toNat % v.modulus := Nat.mod_mod_of_dvd _ hdvd
  simp only [narrow, compute, computeBy, truncate, hvalue]

theorem Call.act?_narrow {strict loose : Config} (hwidth : loose.width.bits ≤ strict.width.bits)
    {c : Call} (hc : c.isTimed = true) (clock clock' : Clock) (latest latest' : Option Time) :
    c.act? loose clock' latest' =
      (c.act? strict clock latest).map (Act.map (Signature.narrow loose.width)) := by
  unfold act?
  rw [actBy?_map]
  simp only [Signature.narrow_compute hwidth]
  exact actBy?_of_isTimed _ hc ..

/-! ## Two runs of the same calls -/

open History

/-- The second configuration is at least as loose as the first, and both renew on every repeat. -/
structure Config.Loosens (strict loose : Config) : Prop where
  recency : strict.policy = .recency
  recency' : loose.policy = .recency
  window_le : strict.windowMs ≤ loose.windowMs
  size_le : strict.maxCacheSize ≤ loose.maxCacheSize
  bits_le : loose.width.bits ≤ strict.width.bits

namespace Chronicle

theorem exists_check_of_isDuplicate {lim : Limits} {w : Window Signature}
    {a : Option (Act Signature)} {o : Outcome} (h : o.Reports lim w a)
    (hdup : o.isDuplicate = true) : ∃ s t, a = some (.check s t) := by
  cases a with
  | none =>
    rcases h with rfl | ⟨e, rfl⟩
    · cases hdup
    · cases hdup
  | some a =>
    cases a with
    | check s t => exact ⟨s, t, rfl⟩
    | sweep t =>
      cases h
      cases hdup
    | reset =>
      cases h
      cases hdup

-- Under recency every check is a placement, so the last check and the number since decide alone.
theorem TrueOf.isDuplicate_iff {h : Chronicle} {d : Detector} (ht : h.TrueOf d)
    (hpolicy : d.config.policy = .recency) {c : Call} {s : Signature} {t : Time}
    (ha : h.act? d.config c = some (.check s t)) :
    (d.perform c).1.isDuplicate = true ↔ ∃ seen, lastCheck? s h.past = some seen ∧
      processed h.past t - seen < d.config.windowMs.toNat ∧
      (checkedSince s h.past).card < d.config.maxCacheSize.toNat := by
  obtain ⟨id, v, ho, -, -, hdup⟩ := ht.judged ha
  rw [ho]
  refine hdup.trans ?_
  rw [hpolicy]
  constructor
  · rintro ⟨placed, seen, -, hseen, -, hinside, hcard⟩
    exact ⟨seen, hseen, hinside, hcard⟩
  · rintro ⟨seen, hseen, hinside, hcard⟩
    exact ⟨seen, seen, hseen, hseen, Nat.le_of_lt hinside, hinside, hcard⟩

variable {h h' : Chronicle} {d d' : Detector}

theorem isDuplicate_of_loosens (hloosens : d.config.Loosens d'.config) (ht : h.TrueOf d)
    (ht' : h'.TrueOf d')
    (hpast : List.Forall₂ (Renamed (Signature.narrow d'.config.width)) h.past h'.past) {c : Call}
    (hc : c.isTimed = true) (hdup : (d.perform c).1.isDuplicate = true) :
    (d'.perform c).1.isDuplicate = true := by
  have hreports := d.perform_fst c
  rw [ht.act?_eq] at hreports
  obtain ⟨s, t, ha⟩ := exists_check_of_isDuplicate hreports hdup
  have ha' : h'.act? d'.config c = some (.check (s.narrow d'.config.width) t) := by
    unfold act? at ha ⊢
    rw [Call.act?_narrow hloosens.bits_le hc h.clock h'.clock (latest? h.past), ha]
    rfl
  obtain ⟨seen, hseen, hinside, hcard⟩ := (ht.isDuplicate_iff hloosens.recency ha).1 hdup
  obtain ⟨seen', hseen', hle, hsubset⟩ := lastCheck?_of_renamed hpast hseen
  have hwindow := UInt64.le_iff_toNat_le.1 hloosens.window_le
  have hsize := UInt64.le_iff_toNat_le.1 hloosens.size_le
  refine (ht'.isDuplicate_iff hloosens.recency' ha').2 ⟨seen', hseen', ?_, ?_⟩
  · rw [processed_of_renamed hpast]
    lia
  · have hfewer := card_checkedSince_of_renamed hsubset
    lia

theorem note_renamed (hloosens : d.config.Loosens d'.config)
    (hpast : List.Forall₂ (Renamed (Signature.narrow d'.config.width)) h.past h'.past) {c : Call}
    (hc : c.isTimed = true) (o o' : Outcome) :
    List.Forall₂ (Renamed (Signature.narrow d'.config.width)) (h.note d.config c o).past
      (h'.note d'.config c o').past := by
  unfold note
  rw [Call.act?_narrow hloosens.bits_le hc h.clock h'.clock (latest? h.past)]
  cases c.act? d.config h.clock (latest? h.past) with
  | none => exact hpast
  | some a =>
    cases a with
    | check s t => exact .cons (.checked ..) hpast
    | sweep t => exact .cons (.swept t) hpast
    | reset => exact .cons .reset hpast

theorem run_loosens (hloosens : d.config.Loosens d'.config) (ht : h.TrueOf d) (ht' : h'.TrueOf d')
    (hpast : List.Forall₂ (Renamed (Signature.narrow d'.config.width)) h.past h'.past)
    {calls : List Call} (hcalls : ∀ c ∈ calls, c.isTimed = true) :
    List.Forall₂ (fun o o' : Outcome => o.isDuplicate = true → o'.isDuplicate = true)
      (d.run calls).1 (d'.run calls).1 := by
  induction calls generalizing h h' d d' with
  | nil => exact .nil
  | cons c rest ih =>
    rw [Detector.run_cons, Detector.run_cons]
    have hc := hcalls c List.mem_cons_self
    refine .cons (isDuplicate_of_loosens hloosens ht ht' hpast hc) ?_
    -- The rest runs on the detectors after `c`, whose chronicles have noted it.
    refine ih ?_ (ht.perform c) (ht'.perform c) ?_ fun a ha => hcalls a (List.mem_cons_of_mem c ha)
    · rw [Detector.config_perform, Detector.config_perform]
      exact hloosens
    · rw [Detector.config_perform]
      exact note_renamed hloosens hpast hc ..

end Chronicle

namespace Detector

/-- **Loosening loses no suppression.**  New detectors under a configuration and a looser one, asked
the same checks at explicit times, sweeps and resets: what the first suppresses the second
suppresses. -/
theorem loosening_keeps_suppressions (strict loose : Config) (clock clock' : Clock)
    (hvalid : strict.Valid) (hvalid' : loose.Valid) (hloosens : strict.Loosens loose)
    (calls : List Call) (hcalls : ∀ c ∈ calls, c.isTimed = true) :
    ∃ d d', create strict clock = .ok d ∧ create loose clock' = .ok d' ∧
      List.Forall₂ (fun o o' : Outcome => o.isDuplicate = true → o'.isDuplicate = true)
        (d.run calls).1 (d'.run calls).1 :=
  ⟨_, _, create_of_valid strict clock hvalid, create_of_valid loose clock' hvalid',
    Chronicle.run_loosens hloosens (Chronicle.trueOf_initial strict hvalid clock)
      (Chronicle.trueOf_initial loose hvalid' clock') .nil hcalls⟩

/-- One key for 50 ms against two shorter keys for 80 ms; the first suppresses twice. -/
theorem loosening_keeps_suppressions_one_entry :
    Config.Valid ⟨50, 1, .bits64, .recency, .clock⟩ ∧
      Config.Valid ⟨80, 2, .bits32, .recency, .frameArrival⟩ ∧
      ∃ d d', create ⟨50, 1, .bits64, .recency, .clock⟩ ⟨0⟩ = .ok d ∧
        create ⟨80, 2, .bits32, .recency, .frameArrival⟩ ⟨0⟩ = .ok d' ∧
        (d.run [.check 0x123 [1] (some 100), .check 0x123 [1] (some 130),
          .check 0x124 [2] (some 120), .sweep 160, .check 0x124 [2] (some 170)]).1.map
            Outcome.isDuplicate = [false, true, false, false, true] ∧
        List.Forall₂ (fun o o' : Outcome => o.isDuplicate = true → o'.isDuplicate = true)
          (d.run [.check 0x123 [1] (some 100), .check 0x123 [1] (some 130),
            .check 0x124 [2] (some 120), .sweep 160, .check 0x124 [2] (some 170)]).1
          (d'.run [.check 0x123 [1] (some 100), .check 0x123 [1] (some 130),
            .check 0x124 [2] (some 120), .sweep 160, .check 0x124 [2] (some 170)]).1 := by
  obtain ⟨d, d', hd, hd', hrun⟩ := loosening_keeps_suppressions
    ⟨50, 1, .bits64, .recency, .clock⟩ ⟨80, 2, .bits32, .recency, .frameArrival⟩ ⟨0⟩ ⟨0⟩ (by decide)
    (by decide) ⟨rfl, rfl, by decide, by decide, by decide⟩
    [.check 0x123 [1] (some 100), .check 0x123 [1] (some 130), .check 0x124 [2] (some 120),
      .sweep 160, .check 0x124 [2] (some 170)] (by decide)
  refine ⟨by decide, by decide, d, d', hd, hd', ?_, hrun⟩
  cases hd
  decide +kernel

end Detector

end EchoFilter
