import EchoFilter.Proofs.Balance
import EchoFilter.Proofs.Refusals

/-!
# Idling — sweeps in between change nothing

A sweep moves the mark and takes what is too old by then.  A later step moves the mark further and
takes what is too old by that time, which includes it: two cuts at the head of a ledger, the second
one later, are the second one.  This needs no order of times and no agreement of cache and ledger,
so `Window.sweep_sweep` and `Window.check_sweep` hold in any state.

For a run, sweeps may be put between its calls as long as the next check or sweep of the run is not
processed before them (`Detector.Timely`).  The padded run is then level with the run after each
such call, and in between it is one sweep `Ahead`.
-/

namespace EchoFilter

namespace Window

variable {K : Type} [Ord K] [Std.TransOrd K] [Std.LawfulEqOrd K] [DecidableEq K]
variable {lim : Limits} {w : Window K} {s t : Time}

/-! ## Two sweeps -/

theorem sweep_snd (lim : Limits) (w : Window K) (t : Time) :
    (w.sweep lim t).2 =
      { cache := (w.staleAt lim (w.clamp t)).foldl (fun cache e => cache.erase e.1) w.cache
        ledger := (w.ledger.popAllBelow (w.clamp t - lim.window)).2
        mark := some (w.clamp t)
        tally := { w.tally with
          expired := w.tally.expired + (w.staleAt lim (w.clamp t)).length } } := by
  unfold staleAt
  rw [← Ledger.popAllBelow_fst]
  rfl

theorem clamp_sweep (lim : Limits) (h : s ≤ w.clamp t) : (w.sweep lim s).2.clamp t = w.clamp t := by
  rw [clamp_eq_max, mark_sweep, Option.getD_some]
  rw [clamp_eq_max] at h ⊢
  rw [clamp_eq_max]
  lia

theorem staleAt_sweep (lim : Limits) (w : Window K) {now : Time} (h : w.clamp s ≤ now) :
    w.staleAt lim (w.clamp s) ++ (w.sweep lim s).2.staleAt lim now = w.staleAt lim now := by
  unfold staleAt
  rw [entries_sweep]
  exact DatedKeys.takeWhile_append_takeWhile _ (Nat.sub_le_sub_right h _)

omit [Std.TransOrd K] [Std.LawfulEqOrd K] [DecidableEq K] in
theorem clamp_le_clamp (h : s ≤ w.clamp t) : w.clamp s ≤ w.clamp t := by
  rw [clamp_eq_max] at h
  rw [clamp_eq_max, clamp_eq_max]
  lia

/-- A sweep that is not processed before an earlier one leaves what it would have left alone, and
takes what the earlier one has left to take. -/
theorem sweep_sweep (lim : Limits) (h : s ≤ w.clamp t) :
    ((w.sweep lim s).2.sweep lim t).2 = (w.sweep lim t).2 ∧
      (w.sweep lim s).1.expired + ((w.sweep lim s).2.sweep lim t).1.expired =
        (w.sweep lim t).1.expired := by
  have hle := clamp_le_clamp h
  have hstale := staleAt_sweep lim w hle
  have hcount := congrArg List.length hstale
  rw [List.length_append] at hcount
  refine ⟨?_, ?_⟩
  · have hledger : ((w.sweep lim s).2.ledger.popAllBelow (w.clamp t - lim.window)).2 =
        (w.ledger.popAllBelow (w.clamp t - lim.window)).2 := by
      apply Ledger.ext
      rw [Ledger.entries_popAllBelow, Ledger.entries_popAllBelow, entries_sweep]
      exact DatedKeys.dropWhile_dropWhile _ (Nat.sub_le_sub_right hle _)
    rw [sweep_snd lim (w.sweep lim s).2, clamp_sweep lim h, hledger, sweep_snd lim w t, ← hcount,
      ← hstale, List.foldl_append, sweep_snd lim w s]
    dsimp only
    rw [Nat.add_assoc]
  · rw [expired_sweep, expired_sweep, expired_sweep, clamp_sweep lim h, hcount]

theorem sweep_snd_congr (h : w.clamp s = w.clamp t) : (w.sweep lim s).2 = (w.sweep lim t).2 := by
  rw [sweep_snd, sweep_snd, h]

-- Times may go down as well: the later one counts.
theorem sweep_sweep_eq_max (lim : Limits) (w : Window K) (s t : Time) :
    ((w.sweep lim s).2.sweep lim t).2 = (w.sweep lim (max s t)).2 := by
  rcases Nat.le_total s t with hst | hts
  · rw [Nat.max_eq_right hst]
    exact (sweep_sweep lim (Nat.le_trans hst (w.le_clamp t))).1
  · have hs := w.le_clamp s
    have hclamp : (w.sweep lim s).2.clamp t = (w.sweep lim s).2.clamp s := by
      rw [clamp_eq_max, clamp_eq_max, mark_sweep, Option.getD_some]
      lia
    rw [Nat.max_eq_left hts, sweep_snd_congr hclamp]
    exact (sweep_sweep lim hs).1

/-! ## A sweep and a check -/

/-- A check that is not processed before an earlier sweep comes to what it would have come to alone,
but for the keys that the sweep has taken. -/
theorem check_sweep (lim : Limits) (h : s ≤ w.clamp t) (k : K) :
    (w.sweep lim s).2.check lim k t =
      ({ (w.check lim k t).1 with expired := ((w.sweep lim s).2.check lim k t).1.expired },
        (w.check lim k t).2) ∧
    (w.sweep lim s).1.expired + ((w.sweep lim s).2.check lim k t).1.expired =
      (w.check lim k t).1.expired := by
  obtain ⟨hswept, hcount⟩ := sweep_sweep lim h
  have hclamp := clamp_sweep lim h
  refine ⟨?_, by rw [check_expired, check_expired, hcount]⟩
  -- A check sweeps first, and looks at nothing else of the window it finds.
  have hrep' : ((w.sweep lim s).2.sweep lim t).2.isRepeat lim k ((w.sweep lim s).2.clamp t) =
      (w.sweep lim t).2.isRepeat lim k (w.clamp t) := by
    rw [hswept, hclamp]
  cases hrep : (w.sweep lim t).2.isRepeat lim k (w.clamp t) with
  | true => rw [check_of_repeat hrep, check_of_repeat (hrep'.trans hrep), hswept, hclamp]
  | false => rw [check_of_new hrep, check_of_new (hrep'.trans hrep), hswept, hclamp]

/-! ## A sweep at the mark -/

/-- In a coherent window there is nothing to take before the mark moves. -/
theorem Aligned.sweep_of_le_mark (h : w.Aligned lim) {mark : Time} (hmark : w.mark = some mark)
    (hs : s ≤ mark) : w.sweep lim s = ({ given := s, now := mark, expired := 0 }, w) := by
  have hclamp : w.clamp s = mark := by
    rw [clamp_eq_max, hmark, Option.getD_some, Nat.max_eq_left hs]
  have hfresh : ∀ e ∈ w.ledger.entries, ¬ e.2 < mark - lim.window := by
    intro e he
    obtain ⟨last, m, -, hm, -, -, hle, -⟩ := h.dated e he
    rw [hmark, Option.some.injEq] at hm
    rw [hm]
    exact Nat.not_lt.2 hle
  have hnone : w.staleAt lim mark = [] := by
    unfold staleAt
    cases hl : w.ledger.entries with
    | nil => rfl
    | cons e r =>
      rw [List.takeWhile_cons_of_neg]
      simpa using hfresh e (hl ▸ List.mem_cons_self)
  have hledger : (w.ledger.popAllBelow (mark - lim.window)).2 = w.ledger := by
    apply Ledger.ext
    have hentries := (sweep_forgets lim w s).entries
    rw [hclamp, hnone, List.nil_append, entries_sweep, hclamp] at hentries
    rw [Ledger.entries_popAllBelow, ← hentries]
  rw [Prod.ext_iff]
  constructor
  · show Sweep.mk s (w.clamp s) (w.sweep lim s).1.expired = _
    rw [expired_sweep, hclamp, hnone, List.length_nil]
  · rw [sweep_snd, hclamp, hnone, hledger, ← hmark]
    rfl

end Window

/-! ## Padded runs -/

/-- A place in a padded run: a call of the run itself, or a sweep put in. -/
inductive Slot where
  | own (c : Call)
  | idle (t : Time)

namespace Slot

def call : Slot → Call
  | .own c => c
  | .idle t => .sweep t

def own? : Slot → Option Call
  | .own c => some c
  | .idle _ => none

end Slot

/-- An outcome without the number of entries forgotten by age. -/
def Outcome.unaged : Outcome → Outcome
  | .judged id v => .judged id { v with expired := 0 }
  | .swept s => .swept { s with expired := 0 }
  | o => o

namespace Detector

/-- When the next successful check or sweep of a run is processed; nothing, if a reset comes first
or there is none. -/
def nextTime? (d : Detector) : List Call → Option Time
  | [] => none
  | c :: rest =>
    match d.act? c with
    | some (.check _ t) | some (.sweep t) => some (d.window.clamp t)
    | some .reset => none
    | none => (d.perform c).2.nextTime? rest

/-- Every sweep put in is followed by a successful check or sweep of the run itself, with no reset
in between, and is not later than that call is processed in the run itself. -/
def Timely (d : Detector) : List Slot → Prop
  | [] => True
  | .own c :: rest => (d.perform c).2.Timely rest
  | .idle t :: rest =>
    (∃ next, d.nextTime? (rest.filterMap Slot.own?) = some next ∧ t ≤ next) ∧ d.Timely rest

/-- The steps that a padded run takes for the calls of the run itself. -/
def ownSteps (d : Detector) (slots : List Slot) : List (Detector × Call) :=
  ((d.steps (slots.map Slot.call)).zip slots).filterMap fun x => x.2.own?.map fun _ => x.1

/-- A call comes to the same in the run and in the padded run: but for what expired it returns the
same, and a successful one leaves the same detector. -/
structure SameStep (x x' : Detector × Call) : Prop where
  call : x'.2 = x.2
  answer : (x'.1.perform x'.2).1.unaged = (x.1.perform x.2).1.unaged
  after : (x.1.act? x.2).isSome = true → (x'.1.perform x'.2).2 = (x.1.perform x.2).2

/-- The second detector is the first one, or the first one after a sweep that is in time for the
next of these calls. -/
inductive Ahead (d : Detector) (calls : List Call) : Detector → Prop
  | level : Ahead d calls d
  | swept {next : Time} (hnext : d.nextTime? calls = some next) {t : Time} (hle : t ≤ next) :
    Ahead d calls (d.perform (.sweep t)).2

variable {d d' : Detector}

theorem perform_sweep_sweep (d : Detector) (s t : Time) :
    ((d.perform (.sweep s)).2.perform (.sweep t)).2 = (d.perform (.sweep (max s t))).2 := by
  have hwindow := Window.sweep_sweep_eq_max d.limits d.window s t
  exact congrArg (fun window => { d with window }) hwindow

theorem Ahead.idle {calls : List Call} (h : d.Ahead calls d') {next t : Time}
    (hnext : d.nextTime? calls = some next) (hle : t ≤ next) :
    d.Ahead calls (d'.perform (.sweep t)).2 := by
  cases h with
  | level => exact .swept hnext hle
  | @swept next' hnext' s hle' =>
    rw [hnext, Option.some.injEq] at hnext'
    rw [perform_sweep_sweep]
    exact .swept hnext (Nat.max_le.2 ⟨hnext' ▸ hle', hle⟩)

/-! ## One step of both runs -/

theorem SameStep.refl (d : Detector) (c : Call) : SameStep (d, c) (d, c) :=
  ⟨rfl, rfl, fun _ => rfl⟩

theorem decide_sweep {s t : Time} (h : s ≤ d.window.clamp t) (id : ArbitrationId)
    (payload : Payload) :
    ∃ expired, (d.perform (.sweep s)).2.decide id payload t =
        ({ (d.decide id payload t).1 with expired }, (d.decide id payload t).2) ∧
      (d.perform (.sweep s)).1.expired + expired = (d.decide id payload t).1.expired := by
  obtain ⟨hcheck, hcount⟩ := Window.check_sweep d.limits h (d.signature id payload.bytes)
  exact ⟨_, congrArg (fun r : Verdict Signature × Window Signature =>
    (r.1, { d with window := r.2 })) hcheck, hcount⟩

theorem sweep_sweep {s t : Time} (h : s ≤ d.window.clamp t) :
    ((d.perform (.sweep s)).2.perform (.sweep t)).2 = (d.perform (.sweep t)).2 ∧
      (d.perform (.sweep s)).1.expired + ((d.perform (.sweep s)).2.perform (.sweep t)).1.expired =
        (d.perform (.sweep t)).1.expired := by
  obtain ⟨hwindow, hcount⟩ := Window.sweep_sweep d.limits h
  exact ⟨congrArg (fun window => { d with window }) hwindow, hcount⟩

-- What is refused passes the sweep on to the next call.
theorem Ahead.of_fault {c : Call} {rest : List Call} (h : d.Ahead (c :: rest) d') {e : FrameError}
    (hfault : c.fault? = some e) :
    SameStep (d, c) (d', c) ∧ (d.perform c).2.Ahead rest (d'.perform c).2 := by
  have hd := d.perform_of_fault hfault
  have hd' := d'.perform_of_fault hfault
  have hnone := d.act?_of_fault hfault
  rw [hd, hd']
  refine ⟨⟨rfl, ?_, ?_⟩, ?_⟩
  · dsimp only
    rw [hd, hd']
  · dsimp only
    rw [hnone]
    nofun
  · cases h with
    | level => exact .level
    | @swept next hnext s hle =>
      rw [nextTime?, hnone, hd] at hnext
      exact .swept hnext hle

theorem Ahead.of_decides {c : Call} {rest : List Call} (h : d.Ahead (c :: rest) d')
    {id : ArbitrationId} {payload : Payload} {t : Time} (hdecides : Decides c id payload t) :
    SameStep (d, c) (d', c) ∧ (d.perform c).2.Ahead rest (d'.perform c).2 := by
  cases h with
  | level => exact ⟨SameStep.refl d c, .level⟩
  | @swept next hnext s hle =>
    rw [nextTime?, (hdecides d).1] at hnext
    cases hnext
    obtain ⟨expired, hdecide, -⟩ := decide_sweep hle id payload
    have hlevel : ((d.perform (.sweep s)).2.perform c).2 = (d.perform c).2 := by
      rw [(hdecides d).2, (hdecides _).2, hdecide]
    refine ⟨⟨rfl, ?_, fun _ => hlevel⟩, hlevel ▸ .level⟩
    dsimp only
    rw [(hdecides d).2, (hdecides _).2, hdecide]
    rfl

theorem Ahead.own {c : Call} {rest : List Call} (h : d.Ahead (c :: rest) d')
    (hc : c.isTimed = true) :
    SameStep (d, c) (d', c) ∧ (d.perform c).2.Ahead rest (d'.perform c).2 := by
  cases c with
  | check raw bytes at? =>
    obtain ⟨t, rfl⟩ := Option.isSome_iff_exists.1 hc
    cases hfault : Frame.fault? raw bytes with
    | some e => exact h.of_fault hfault
    | none =>
      obtain ⟨id, payload, hdecides⟩ := exists_decides_check hfault
      exact h.of_decides (hdecides t)
  | decide id payload t => exact h.of_decides (decides_decide id payload t)
  | sweep t =>
    cases h with
    | level => exact ⟨SameStep.refl d _, .level⟩
    | @swept next hnext s hle =>
      cases hnext
      have hlevel := (sweep_sweep hle).1
      have hclamp := Window.clamp_sweep d.limits hle
      refine ⟨⟨rfl, ?_, fun _ => hlevel⟩, hlevel ▸ .level⟩
      exact congrArg (fun now => Outcome.swept { given := t, now, expired := 0 }) hclamp
  | reset =>
    cases h with
    | level => exact ⟨SameStep.refl d _, .level⟩
    | swept hnext hle => cases hnext
  | frame f => cases hc
  | setClock ms => cases hc
  | advanceClock ms => cases hc

/-! ## Runs -/

theorem Ahead.run {slots : List Slot} (h : d.Ahead (slots.filterMap Slot.own?) d')
    (htimed : ∀ c ∈ slots.filterMap Slot.own?, c.isTimed = true) (htimely : d.Timely slots) :
    List.Forall₂ SameStep (d.steps (slots.filterMap Slot.own?)) (d'.ownSteps slots) := by
  induction slots generalizing d d' with
  | nil => exact .nil
  | cons slot rest ih =>
    cases slot with
    | own c =>
      obtain ⟨hstep, hnext⟩ := h.own (htimed c List.mem_cons_self)
      exact .cons hstep (ih hnext (fun a ha => htimed a (List.mem_cons_of_mem _ ha)) htimely)
    | idle t =>
      obtain ⟨⟨next, hnext, hle⟩, hrest⟩ := htimely
      exact ih (h.idle hnext hle) htimed hrest

/-- A sweep at `s` and then a decision, or a sweep, at `t` come to the second alone, with the keys
that expired shared between the two. -/
structure Absorbs (d : Detector) (s t : Time) : Prop where
  decide : ∀ id payload, ∃ expired, (d.perform (.sweep s)).2.decide id payload t =
      ({ (d.decide id payload t).1 with expired }, (d.decide id payload t).2) ∧
    (d.perform (.sweep s)).1.expired + expired = (d.decide id payload t).1.expired
  sweep : ((d.perform (.sweep s)).2.perform (.sweep t)).2 = (d.perform (.sweep t)).2
  expired : (d.perform (.sweep s)).1.expired +
    ((d.perform (.sweep s)).2.perform (.sweep t)).1.expired = (d.perform (.sweep t)).1.expired

/-- **Idle sweeping is invisible.**  A sweep is absorbed by any decision or sweep that is not
earlier, whatever the state of the detector.  On a detector with a history, one that is not after
the mark does nothing at all, and sweeps put into a run in time change no answer but how many keys
expired, and leave the detector after every successful call as it was. -/
theorem idling_is_invisible :
    (∀ (d : Detector) (s t : Time), s ≤ t → d.Absorbs s t) ∧
    ∀ (config : Config) (clock : Clock), config.Valid → ∃ d, create config clock = .ok d ∧
      (∀ (calls : List Call) (s mark : Time), (d.run calls).2.window.mark = some mark → s ≤ mark →
        (d.run calls).2.perform (.sweep s) =
          (.swept { given := s, now := mark, expired := 0 }, (d.run calls).2)) ∧
      ∀ slots : List Slot, (∀ c ∈ slots.filterMap Slot.own?, c.isTimed = true) → d.Timely slots →
        List.Forall₂ SameStep (d.steps (slots.filterMap Slot.own?)) (d.ownSteps slots) := by
  constructor
  · intro d s t hle
    have hclamp := Nat.le_trans hle (d.window.le_clamp t)
    exact ⟨decide_sweep hclamp, (sweep_sweep hclamp).1, (sweep_sweep hclamp).2⟩
  · intro config clock hvalid
    refine ⟨_, create_of_valid config clock hvalid, fun calls s mark hmark hle => ?_, ?_⟩
    · have hkept := (kept_initial config hvalid clock).run calls
      have hsweep := hkept.coherent.toAligned.sweep_of_le_mark hmark hle
      exact congrArg (fun r : Sweep × Window Signature =>
        (Outcome.swept r.1, { ((initial config hvalid clock).run calls).2 with window := r.2 }))
        hsweep
    · exact fun slots => Ahead.level.run

/-- Room for two in 50 ms: sweeps at 155, 120 and 158, the last two around a call that is refused,
before a check at 160.  They take the key that the check would have taken.  A sweep at 90 after a
check at 100 does nothing. -/
theorem idling_is_invisible_three_sweeps :
    Config.Valid ⟨50, 2, .bits64, .recency, .clock⟩ ∧
      ∃ d, create ⟨50, 2, .bits64, .recency, .clock⟩ ⟨0⟩ = .ok d ∧ d.Absorbs 20 30 ∧
        (d.run [.check 0x123 [1] (some 100)]).2.perform (.sweep 90) =
          (.swept { given := 90, now := 100, expired := 0 },
            (d.run [.check 0x123 [1] (some 100)]).2) ∧
        ∃ slots, slots = [.own (.check 0x123 [1] (some 100)), .own (.check 0x124 [2] (some 110)),
            .idle 155, .idle 120, .own (.check 0x20000000 [] (some 156)), .idle 158,
            .own (.check 0x123 [1] (some 160))] ∧
          d.Timely slots ∧
          List.Forall₂ SameStep (d.steps (slots.filterMap Slot.own?)) (d.ownSteps slots) ∧
          ((d.steps (slots.filterMap Slot.own?)).map fun x => (x.1.perform x.2).1.expired) =
            [0, 0, 0, 1] ∧
          ((d.ownSteps slots).map fun x => (x.1.perform x.2).1.expired) = [0, 0, 0, 0] := by
  obtain ⟨habsorbs, hruns⟩ := idling_is_invisible
  obtain ⟨d, hd, hidle, hrun⟩ := hruns ⟨50, 2, .bits64, .recency, .clock⟩ ⟨0⟩ (by decide)
  cases hd
  have htimely : Timely (initial ⟨50, 2, .bits64, .recency, .clock⟩ (by decide) ⟨0⟩)
      [.own (.check 0x123 [1] (some 100)), .own (.check 0x124 [2] (some 110)), .idle 155, .idle 120,
        .own (.check 0x20000000 [] (some 156)), .idle 158, .own (.check 0x123 [1] (some 160))] :=
    ⟨⟨160, by decide +kernel, by decide⟩, ⟨160, by decide +kernel, by decide⟩,
      ⟨160, by decide +kernel, by decide⟩, trivial⟩
  have hstill := hidle [.check 0x123 [1] (some 100)] 90 100 (by decide +kernel) (by decide)
  exact ⟨by decide, _, rfl, habsorbs _ 20 30 (by decide), hstill, _, rfl, htimely,
    hrun _ (by decide) htimely, by decide +kernel, by decide +kernel⟩

end Detector

end EchoFilter
