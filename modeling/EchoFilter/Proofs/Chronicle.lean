import EchoFilter.Proofs.Retention
import EchoFilter.Proofs.Soundness

/-!
# Chronicle — a detector answers from its history

A chronicle is what a client can write down beside a detector: the clock as it was set, and every
call that succeeded with the time it was given and the answer it got.  `recalls_checks` and
`recalls_acceptances` say, for the two policies, that the answers, the remembered signatures and
their last sightings are all read off the chronicle.  Under first insertion the reading speaks of
earlier answers; under recency it does not.
-/

namespace EchoFilter

open History

/-- The clock and the past of a detector as its client knows them. -/
structure Chronicle where
  clock : Clock
  past : List (Happening Signature)

namespace Chronicle

/-- A call that succeeds is written down with its answer; any other may still move the clock. -/
def note (config : Config) (h : Chronicle) (c : Call) (o : Outcome) : Chronicle where
  clock := c.tick h.clock
  past :=
    match c.act? config h.clock (latest? h.past) with
    | some (.check s t) => .checked s t o.isDuplicate :: h.past
    | some (.sweep t) => .swept t :: h.past
    | some .reset => .reset :: h.past
    | none => h.past

def noteAll (config : Config) (h : Chronicle) : List (Call × Outcome) → Chronicle
  | [] => h
  | (c, o) :: rest => (h.note config c o).noteAll config rest

/-- The chronicle of calls on a new detector and of the outcomes they had. -/
def ofRun (config : Config) (clock : Clock) (calls : List Call) (outcomes : List Outcome) :
    Chronicle :=
  noteAll config ⟨clock, []⟩ (calls.zip outcomes)

/-- What the next call asks for, as far as the client knows. -/
def act? (config : Config) (h : Chronicle) (c : Call) : Option (Act Signature) :=
  c.act? config h.clock (latest? h.past)

/-- The detector is where its chronicle says. -/
structure TrueOf (h : Chronicle) (d : Detector) : Prop where
  kept : d.Kept
  clock : d.clock = h.clock
  follows : d.window.Follows d.limits h.past

theorem TrueOf.act?_eq {h : Chronicle} {d : Detector} (ht : h.TrueOf d) (c : Call) :
    d.act? c = h.act? d.config c := by
  unfold Detector.act? act?
  rw [ht.clock, ht.follows.mark]

theorem trueOf_initial (config : Config) (hvalid : config.Valid) (clock : Clock) :
    TrueOf ⟨clock, []⟩ (Detector.initial config hvalid clock) where
  kept := Detector.kept_initial config hvalid clock
  clock := rfl
  follows := Window.follows_of_empty _ rfl Ledger.entries_empty rfl rfl fun _ => rfl

theorem isDuplicate_of_reports {lim : Limits} {w : Window Signature} {s : Signature} {t : Time}
    {o : Outcome} (h : o.Reports lim w (some (.check s t))) :
    o.isDuplicate = (w.check lim s t).1.duplicate := by
  obtain ⟨id, rfl⟩ := h
  rfl

theorem TrueOf.perform {h : Chronicle} {d : Detector} (ht : h.TrueOf d) (c : Call) :
    (h.note d.config c (d.perform c).1).TrueOf (d.perform c).2 where
  kept := ht.kept.perform c
  clock := by
    rw [Detector.clock_perform, ht.clock]
    rfl
  follows := by
    -- The client knows the act, since clock and mark are known; the outcome tells it the answer.
    have hreports := d.perform_fst c
    rw [Detector.limits_perform, Detector.window_perform]
    unfold note
    cases ha : d.act? c with
    | none =>
      rw [show c.act? d.config h.clock (latest? h.past) = none from (ht.act?_eq c).symm.trans ha]
      exact ht.follows
    | some a =>
      rw [show c.act? d.config h.clock (latest? h.past) = some a from (ht.act?_eq c).symm.trans ha]
      rw [ha] at hreports
      cases a with
      | check s t =>
        rw [isDuplicate_of_reports hreports]
        exact ht.follows.check d.capacity_pos ht.kept.coherent s t
      | sweep t => exact ht.follows.sweep ht.kept.coherent.toAligned t
      | reset => exact Window.follows_of_empty _ rfl Ledger.entries_empty rfl rfl fun _ => rfl

theorem TrueOf.run {h : Chronicle} {d : Detector} (ht : h.TrueOf d) (calls : List Call) :
    (h.noteAll d.config (calls.zip (d.run calls).1)).TrueOf (d.run calls).2 := by
  induction calls generalizing h d with
  | nil => exact ht
  | cons c rest ih =>
    have hrest := ih (ht.perform c)
    rw [Detector.config_perform] at hrest
    exact hrest

theorem trueOf_ofRun (config : Config) (hvalid : config.Valid) (clock : Clock) (calls : List Call) :
    (ofRun config clock calls ((Detector.initial config hvalid clock).run calls).1).TrueOf
      ((Detector.initial config hvalid clock).run calls).2 :=
  (trueOf_initial config hvalid clock).run calls

/-! ## What a true chronicle tells -/

theorem TrueOf.contains_iff {h : Chronicle} {d : Detector} (ht : h.TrueOf d) (s : Signature) :
    d.contains s = true ↔ ∃ placed, last? d.config.policy.places s h.past = some placed ∧
      (latest? h.past).getD 0 - placed ≤ d.config.windowMs.toNat ∧
      (since d.config.policy.places s h.past).card < d.config.maxCacheSize.toNat :=
  Window.contains_iff_of_follows ht.kept.coherent.toAligned ht.follows s

theorem TrueOf.lastSeen? {h : Chronicle} {d : Detector} (ht : h.TrueOf d) (s : Signature)
    (hs : d.contains s = true) : d.lastSeen? s = lastCheck? s h.past :=
  Window.lastSeen?_of_follows ht.follows hs

theorem TrueOf.judged {h : Chronicle} {d : Detector} (ht : h.TrueOf d) {c : Call} {s : Signature}
    {t : Time} (ha : h.act? d.config c = some (.check s t)) :
    ∃ id v, (d.perform c).1 = .judged id v ∧ v.key = s ∧ v.now = processed h.past t ∧
      (v.duplicate = true ↔ ∃ placed seen,
        last? d.config.policy.places s h.past = some placed ∧ lastCheck? s h.past = some seen ∧
        processed h.past t - placed ≤ d.config.windowMs.toNat ∧
        processed h.past t - seen < d.config.windowMs.toNat ∧
        (since d.config.policy.places s h.past).card < d.config.maxCacheSize.toNat) := by
  have hreports := d.perform_fst c
  rw [ht.act?_eq, ha] at hreports
  obtain ⟨id, hid⟩ := hreports
  refine ⟨id, _, hid, Window.check_key .., ?_, ?_⟩
  · rw [Window.check_now, ht.follows.clamp]
  · exact Window.duplicate_iff_of_follows ht.kept.coherent.toAligned ht.follows s t

end Chronicle

namespace Detector

/-- Under recency the chronicle `h` tells the next verdict and what is remembered from the checks
alone: how long ago a signature was last checked, and how many others were checked since. -/
structure RecallsChecks (config : Config) (h : Chronicle) (d : Detector) : Prop where
  judged : ∀ c s t, h.act? config c = some (.check s t) →
    ∃ id v, (d.perform c).1 = .judged id v ∧ v.key = s ∧ v.now = processed h.past t ∧
      (v.duplicate = true ↔ ∃ seen, lastCheck? s h.past = some seen ∧
        processed h.past t - seen < config.windowMs.toNat ∧
        (checkedSince s h.past).card < config.maxCacheSize.toNat)
  contains_iff : ∀ s, d.contains s = true ↔ ∃ seen, lastCheck? s h.past = some seen ∧
    (latest? h.past).getD 0 - seen ≤ config.windowMs.toNat ∧
    (checkedSince s h.past).card < config.maxCacheSize.toNat
  lastSeen? : ∀ s, d.contains s = true → d.lastSeen? s = lastCheck? s h.past

/-- By first insertion age and number go by acceptances, and only a check inside the window of both
the last acceptance and the last check is a repeat. -/
structure RecallsAcceptances (config : Config) (h : Chronicle) (d : Detector) : Prop where
  judged : ∀ c s t, h.act? config c = some (.check s t) →
    ∃ id v, (d.perform c).1 = .judged id v ∧ v.key = s ∧ v.now = processed h.past t ∧
      (v.duplicate = true ↔ ∃ accepted seen, lastAccepted? s h.past = some accepted ∧
        lastCheck? s h.past = some seen ∧
        processed h.past t - accepted ≤ config.windowMs.toNat ∧
        processed h.past t - seen < config.windowMs.toNat ∧
        (acceptedSince s h.past).card < config.maxCacheSize.toNat)
  contains_iff : ∀ s, d.contains s = true ↔ ∃ accepted, lastAccepted? s h.past = some accepted ∧
    (latest? h.past).getD 0 - accepted ≤ config.windowMs.toNat ∧
    (acceptedSince s h.past).card < config.maxCacheSize.toNat
  lastSeen? : ∀ s, d.contains s = true → d.lastSeen? s = lastCheck? s h.past

/-- **Recency.**  A valid configuration gives a detector, and after any calls on it the next
verdict, the remembered signatures and their last sightings are read off the checks of the
chronicle. -/
theorem recalls_checks (config : Config) (clock : Clock) (hvalid : config.Valid)
    (hpolicy : config.policy = .recency) :
    ∃ d, create config clock = .ok d ∧ ∀ calls : List Call,
      (d.run calls).2.RecallsChecks config
        (Chronicle.ofRun config clock calls (d.run calls).1) := by
  refine ⟨_, create_of_valid config clock hvalid, fun calls => ?_⟩
  have ht := Chronicle.trueOf_ofRun config hvalid clock calls
  have hconfig : ((initial config hvalid clock).run calls).2.config = config := config_run _ calls
  refine ⟨fun c s t ha => ?_, fun s => ?_, ht.lastSeen?⟩
  · obtain ⟨id, v, ho, hkey, hnow, hdup⟩ := ht.judged (by rw [hconfig]; exact ha)
    refine ⟨id, v, ho, hkey, hnow, hdup.trans ?_⟩
    rw [hconfig, hpolicy]
    constructor
    · rintro ⟨placed, seen, -, hseen, -, hinside, hcard⟩
      exact ⟨seen, hseen, hinside, hcard⟩
    · -- Every check is a placement, so placed and seen are one time.
      rintro ⟨seen, hseen, hinside, hcard⟩
      exact ⟨seen, seen, hseen, hseen, Nat.le_of_lt hinside, hinside, hcard⟩
  · have hcontains := ht.contains_iff s
    rw [hconfig, hpolicy] at hcontains
    exact hcontains

theorem recalls_checks_two_entries :
    Config.Valid ⟨50, 2, .bits32, .recency, .frameArrival⟩ ∧
      ∃ d, create ⟨50, 2, .bits32, .recency, .frameArrival⟩ ⟨7⟩ = .ok d ∧ ∀ calls : List Call,
        (d.run calls).2.RecallsChecks ⟨50, 2, .bits32, .recency, .frameArrival⟩
          (Chronicle.ofRun ⟨50, 2, .bits32, .recency, .frameArrival⟩ ⟨7⟩ calls (d.run calls).1) :=
  ⟨by decide, recalls_checks _ ⟨7⟩ (by decide) rfl⟩

/-- **First insertion.**  A valid configuration gives a detector, and after any calls on it the next
verdict, the remembered signatures and their last sightings are read off the chronicle, earlier
answers included. -/
theorem recalls_acceptances (config : Config) (clock : Clock) (hvalid : config.Valid)
    (hpolicy : config.policy = .firstInsertion) :
    ∃ d, create config clock = .ok d ∧ ∀ calls : List Call,
      (d.run calls).2.RecallsAcceptances config
        (Chronicle.ofRun config clock calls (d.run calls).1) := by
  refine ⟨_, create_of_valid config clock hvalid, fun calls => ?_⟩
  have ht := Chronicle.trueOf_ofRun config hvalid clock calls
  have hconfig : ((initial config hvalid clock).run calls).2.config = config := config_run _ calls
  refine ⟨fun c s t ha => ?_, fun s => ?_, ht.lastSeen?⟩
  · obtain ⟨id, v, ho, hkey, hnow, hdup⟩ := ht.judged (by rw [hconfig]; exact ha)
    rw [hconfig, hpolicy] at hdup
    exact ⟨id, v, ho, hkey, hnow, hdup⟩
  · have hcontains := ht.contains_iff s
    rw [hconfig, hpolicy] at hcontains
    exact hcontains

theorem recalls_acceptances_two_entries :
    Config.Valid ⟨50, 2, .bits128, .firstInsertion, .clock⟩ ∧
      ∃ d, create ⟨50, 2, .bits128, .firstInsertion, .clock⟩ ⟨7⟩ = .ok d ∧ ∀ calls : List Call,
        (d.run calls).2.RecallsAcceptances ⟨50, 2, .bits128, .firstInsertion, .clock⟩
          (Chronicle.ofRun ⟨50, 2, .bits128, .firstInsertion, .clock⟩ ⟨7⟩ calls (d.run calls).1) :=
  ⟨by decide, recalls_acceptances _ ⟨7⟩ (by decide) rfl⟩

end Detector

end EchoFilter
