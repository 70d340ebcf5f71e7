import EchoFilter.Proofs.Refusals

/-!
# Origins — times count from anywhere

Nothing that a detector does depends on where its times count from.  Moving every time of a run by
the same amount moves every time it keeps by that amount, and changes no answer.  The cutoff of an
expiry stops at zero, so near zero it is not moved; what is before it is the same all the same
(`below_cutoff_add`), for windows of any length.

`Window.Shifted` ties two windows that are apart by `δ`, and sweeps and checks keep it.  With it
`Detector.Shifted.run` goes through a run call by call.
-/

namespace EchoFilter

/-- The entry with a time that is later by `δ`. -/
def DatedKeys.later {K : Type} (δ : Time) (e : K × Time) : K × Time :=
  (e.1, e.2 + δ)

open DatedKeys (later)

theorem keys_later {K : Type} (δ : Time) (l : List (K × Time)) :
    (l.map (later δ)).map Prod.fst = l.map Prod.fst := by
  rw [List.map_map]
  rfl

/-- The verdict at times later by `δ`. -/
def Verdict.shift {K : Type} (δ : Time) (v : Verdict K) : Verdict K :=
  { v with given := v.given + δ, now := v.now + δ, evicted := v.evicted.map (later δ) }

def Sweep.shift (δ : Time) (s : Sweep) : Sweep :=
  { s with given := s.given + δ, now := s.now + δ }

namespace Window

variable {K : Type} [Ord K] [Std.TransOrd K] [Std.LawfulEqOrd K] [DecidableEq K]

/-- The second window holds what the first one holds, with every time later by `δ`. -/
structure Shifted (δ : Time) (w w' : Window K) : Prop where
  mark : w'.mark = w.mark.map (· + δ)
  entries : w'.ledger.entries = w.ledger.entries.map (later δ)
  lastSeen? : ∀ k, w'.lastSeen? k = (w.lastSeen? k).map (· + δ)

variable {lim : Limits} {δ : Time} {w w' v v' : Window K} {k : K} {now : Time}

omit [Std.LawfulEqOrd K] [DecidableEq K] in
theorem shifted_reset (δ : Time) (w w' : Window K) : Shifted δ w.reset w'.reset where
  mark := rfl
  entries := by
    show (Ledger.empty : Ledger K).entries = (Ledger.empty : Ledger K).entries.map (later δ)
    rw [Ledger.entries_empty]
    rfl
  lastSeen? k := by
    rw [lastSeen?_reset, lastSeen?_reset]
    rfl

omit [Std.LawfulEqOrd K] [DecidableEq K] in
theorem Shifted.clamp (h : Shifted δ w w') (t : Time) : w'.clamp (t + δ) = w.clamp t + δ := by
  unfold Window.clamp
  rw [h.mark]
  cases w.mark with
  | none => rfl
  | some m => exact Nat.add_max_add_right m t δ

/-! ## What is forgotten, and what is put -/

omit [Std.LawfulEqOrd K] in
theorem Shifted.of_forgets (h : Shifted δ w w') {gone : List (K × Time)} (hf : Forgets w v gone)
    (hf' : Forgets w' v' (gone.map (later δ))) (hmark : v'.mark = v.mark.map (· + δ)) :
    Shifted δ v v' where
  mark := hmark
  entries := by
    have hentries := h.entries
    rw [hf.entries, hf'.entries, List.map_append] at hentries
    exact List.append_cancel_left hentries
  lastSeen? k := by
    by_cases hgone : k ∈ gone.map Prod.fst
    · rw [hf.lastSeen?_gone k hgone, hf'.lastSeen?_gone k (by rw [keys_later]; exact hgone)]
      rfl
    · rw [hf.lastSeen? k hgone, hf'.lastSeen? k (by rw [keys_later]; exact hgone), h.lastSeen?]

omit [Std.LawfulEqOrd K] in
theorem Shifted.of_puts (h : Shifted δ w w') (hp : Puts w v k now) (hp' : Puts w' v' k (now + δ)) :
    Shifted δ v v' where
  mark := by rw [hp.mark, hp'.mark, h.mark]
  entries := by
    rw [hp.entries, hp'.entries, h.entries, List.map_append, List.filter_map]
    rfl
  lastSeen? a := by
    rw [hp.lastSeen?, hp'.lastSeen?, h.lastSeen?]
    split <;> rfl

/-! ## Sweeps -/

-- Where the cutoff stops at zero, nothing is before it on either side.
theorem below_cutoff_add (placed now window δ : Time) :
    placed + δ < now + δ - window ↔ placed < now - window := by
  lia

omit [Std.LawfulEqOrd K] [DecidableEq K] in
theorem Shifted.staleAt (lim : Limits) (h : Shifted δ w w') (now : Time) :
    w'.staleAt lim (now + δ) = (w.staleAt lim now).map (later δ) := by
  unfold Window.staleAt
  rw [h.entries, List.takeWhile_map]
  congr 2
  funext e
  exact decide_eq_decide.2 (below_cutoff_add e.2 now lim.window δ)

theorem Shifted.sweep (lim : Limits) (h : Shifted δ w w') (t : Time) :
    Shifted δ (w.sweep lim t).2 (w'.sweep lim (t + δ)).2 := by
  have hf' := sweep_forgets lim w' (t + δ)
  rw [h.clamp, h.staleAt] at hf'
  apply h.of_forgets (sweep_forgets lim w t) hf'
  rw [mark_sweep, mark_sweep, h.clamp]
  rfl

theorem Shifted.sweep_report (lim : Limits) (h : Shifted δ w w') (t : Time) :
    (w'.sweep lim (t + δ)).1 = (w.sweep lim t).1.shift δ := by
  show Sweep.mk (t + δ) (w'.clamp (t + δ)) (w'.sweep lim (t + δ)).1.expired =
    Sweep.mk (t + δ) (w.clamp t + δ) (w.sweep lim t).1.expired
  rw [expired_sweep, expired_sweep, h.clamp, h.staleAt, List.length_map]

/-! ## Checks -/

omit [Std.LawfulEqOrd K] [DecidableEq K] in
theorem Shifted.isRepeat (lim : Limits) (h : Shifted δ w w') (k : K) (now : Time) :
    w'.isRepeat lim k (now + δ) = w.isRepeat lim k now := by
  rw [Bool.eq_iff_iff, isRepeat_eq_true_iff, isRepeat_eq_true_iff, h.lastSeen?]
  cases w.lastSeen? k with
  | none => simp
  | some last => simp [Nat.add_sub_add_right]

theorem Shifted.renew (h : Shifted δ w w') (hw : w.Aligned lim) (hw' : w'.Aligned lim)
    (hrep : w.isRepeat lim k now = true) :
    Shifted δ (w.renew lim k now) (w'.renew lim k (now + δ)) := by
  have hk := hw.ledger_contains hrep
  have hk' := hw'.ledger_contains ((h.isRepeat lim k now).trans hrep)
  cases hpol : lim.policy with
  | recency => exact h.of_puts (renew_puts hpol hk now) (renew_puts hpol hk' (now + δ))
  | firstInsertion =>
    refine ⟨h.mark, ?_, fun a => ?_⟩
    · rw [ledger_renew hpol, ledger_renew hpol, h.entries]
    · rw [lastSeen?_renew, lastSeen?_renew, h.lastSeen?]
      split <;> rfl

omit [DecidableEq K] in
theorem Shifted.size (h : Shifted δ w w') (hw : w.Aligned lim) (hw' : w'.Aligned lim) :
    w'.size = w.size := by
  rw [hw.size_eq, hw'.size_eq, h.entries, List.length_map]

theorem Shifted.evict (h : Shifted δ w w') (hw : w.Aligned lim) (hw' : w'.Aligned lim) :
    (w'.evict lim).1 = (w.evict lim).1.map (later δ) ∧
      Shifted δ (w.evict lim).2 (w'.evict lim).2 := by
  have hsize := h.size hw hw'
  by_cases hle : w.size ≤ lim.capacity
  · rw [evict_of_le hle, evict_of_le (hsize ▸ hle)]
    exact ⟨rfl, h⟩
  · have hlt := Nat.lt_of_not_le hle
    obtain ⟨e, r, hl⟩ := hw.exists_oldest hlt
    have hl' : w'.ledger.entries = later δ e :: r.map (later δ) := by
      rw [h.entries, hl, List.map_cons]
    obtain ⟨hevicted, hf⟩ := evict_of_lt hlt hl
    obtain ⟨hevicted', hf'⟩ := evict_of_lt (hsize ▸ hlt) hl'
    rw [hevicted, hevicted']
    refine ⟨rfl, h.of_forgets hf hf' ?_⟩
    rw [mark_evict, mark_evict, h.mark]

theorem Shifted.check (h : Shifted δ w w') (hw : w.Coherent lim) (hw' : w'.Coherent lim) (k : K)
    (t : Time) :
    (w'.check lim k (t + δ)).1 = (w.check lim k t).1.shift δ ∧
      Shifted δ (w.check lim k t).2 (w'.check lim k (t + δ)).2 := by
  have hswept := h.sweep lim t
  have hclamp := h.clamp t
  have hexpired : (w'.sweep lim (t + δ)).1.expired = (w.sweep lim t).1.expired := by
    rw [h.sweep_report]
    rfl
  have haligned := (hw.sweep t).toAligned
  have haligned' := (hw'.sweep (t + δ)).toAligned
  have hrep' := hswept.isRepeat lim k (w.clamp t)
  cases hrep : (w.sweep lim t).2.isRepeat lim k (w.clamp t) with
  | true =>
    rw [hrep, ← hclamp] at hrep'
    rw [check_of_repeat hrep, check_of_repeat hrep', hexpired, hclamp]
    exact ⟨rfl, hswept.renew haligned haligned' hrep⟩
  | false =>
    rw [hrep, ← hclamp] at hrep'
    have hput := remember_puts (w.sweep lim t).2 k (w.clamp t)
    have hput' := remember_puts (w'.sweep lim (t + δ)).2 k (w.clamp t + δ)
    have hmark' := mark_sweep lim w' (t + δ)
    rw [hclamp] at hmark'
    obtain ⟨hevicted, hnext⟩ := (hswept.of_puts hput hput').evict
      (haligned.remember (mark_sweep lim w t) k) (haligned'.remember hmark' k)
    rw [check_of_new hrep, check_of_new hrep', hexpired, hclamp, hevicted]
    exact ⟨rfl, hnext⟩

end Window

/-! ## Calls -/

/-- The call with the time that it brings later by `δ`. -/
def Call.shift (δ : Time) : Call → Call
  | .check id bytes at? => .check id bytes (at?.map (· + δ))
  | .decide id payload now => .decide id payload (now + δ)
  | .sweep now => .sweep (now + δ)
  | c => c

/-- The outcome at times later by `δ`: all else that it says is the same. -/
def Outcome.shift (δ : Time) : Outcome → Outcome
  | .judged id v => .judged id (v.shift δ)
  | .swept s => .swept (s.shift δ)
  | o => o

theorem Outcome.tally_shift (δ : Time) (o : Outcome) : (o.shift δ).tally = o.tally := by
  cases o with
  | judged id v =>
    show (v.shift δ).tally = v.tally
    unfold Verdict.tally Verdict.shift
    rw [Option.isSome_map]
  | _ => rfl

namespace Detector

/-- The second detector is what the first one would be, had all that it was told been later by
`δ`. -/
structure Shifted (δ : Time) (d d' : Detector) : Prop where
  config : d'.config = d.config
  window : d.window.Shifted δ d'.window
  tally : d'.window.tally = d.window.tally

variable {δ : Time} {d d' : Detector}

theorem shifted_initial (δ : Time) (config : Config) (hvalid : config.Valid) (clock : Clock) :
    (initial config hvalid clock).Shifted δ (initial config hvalid clock) where
  config := rfl
  window := Window.shifted_reset δ .empty .empty
  tally := rfl

theorem Shifted.limits (h : d.Shifted δ d') : d'.limits = d.limits :=
  limits_congr h.config

theorem Shifted.decide (h : d.Shifted δ d') (hk : d.Kept) (hk' : d'.Kept) (id : ArbitrationId)
    (payload : Payload) (t : Time) :
    (d'.decide id payload (t + δ)).1 = (d.decide id payload t).1.shift δ ∧
      (d.decide id payload t).2.window.Shifted δ (d'.decide id payload (t + δ)).2.window := by
  have hcheck :=
    h.window.check hk.coherent (h.limits ▸ hk'.coherent) (d.signature id payload.bytes) t
  have hsignature : d'.signature id payload.bytes = d.signature id payload.bytes := by
    rw [signature, h.config, signature]
  show (d'.window.check d'.limits (d'.signature id payload.bytes) (t + δ)).1 = _ ∧
    Window.Shifted δ _ (d'.window.check d'.limits (d'.signature id payload.bytes) (t + δ)).2
  rw [h.limits, hsignature]
  exact hcheck

/-- One answer is the other one at times later by `δ`, and so is the window after it. -/
def ApartBy (δ : Time) (r r' : Outcome × Detector) : Prop :=
  r'.1 = r.1.shift δ ∧ r.2.window.Shifted δ r'.2.window

theorem Shifted.of_decides (h : d.Shifted δ d') (hk : d.Kept) (hk' : d'.Kept) {c c' : Call}
    {id : ArbitrationId} {payload : Payload} {t : Time} (hc : Decides c id payload t)
    (hc' : Decides c' id payload (t + δ)) : ApartBy δ (d.perform c) (d'.perform c') := by
  obtain ⟨hverdict, hwindow⟩ := h.decide hk hk' id payload t
  rw [(hc d).2, (hc' d').2]
  exact ⟨congrArg (Outcome.judged id) hverdict, hwindow⟩

theorem Shifted.apart (h : d.Shifted δ d') (hk : d.Kept) (hk' : d'.Kept) {c : Call}
    (hc : c.isTimed = true) : ApartBy δ (d.perform c) (d'.perform (c.shift δ)) := by
  cases c with
  | check raw bytes at? =>
    obtain ⟨t, rfl⟩ := Option.isSome_iff_exists.1 hc
    cases hfault : Frame.fault? raw bytes with
    | some e =>
      -- The time of a call is not looked at before its faults.
      have hd : d.perform (.check raw bytes (some t)) = (.refused e, d) := d.perform_of_fault hfault
      have hd' : d'.perform (Call.shift δ (.check raw bytes (some t))) = (.refused e, d') :=
        d'.perform_of_fault hfault
      rw [hd, hd']
      exact ⟨rfl, h.window⟩
    | none =>
      obtain ⟨id, payload, hdecides⟩ := exists_decides_check hfault
      exact h.of_decides hk hk' (hdecides t) (hdecides (t + δ))
  | decide id payload t =>
    exact h.of_decides hk hk' (decides_decide id payload t) (decides_decide id payload (t + δ))
  | sweep t =>
    show Outcome.swept (d'.window.sweep d'.limits (t + δ)).1 = _ ∧
      Window.Shifted δ _ (d'.window.sweep d'.limits (t + δ)).2
    rw [h.limits]
    exact ⟨congrArg Outcome.swept (h.window.sweep_report d.limits t), h.window.sweep d.limits t⟩
  | reset =>
    have hsize : d'.size = d.size :=
      h.window.size hk.coherent.toAligned (h.limits ▸ hk'.coherent.toAligned)
    exact ⟨congrArg Outcome.reset hsize, Window.shifted_reset δ d.window d'.window⟩
  | frame f => cases hc
  | setClock ms => cases hc
  | advanceClock ms => cases hc

theorem Shifted.perform (h : d.Shifted δ d') (hk : d.Kept) (hk' : d'.Kept) {c : Call}
    (hc : c.isTimed = true) :
    (d'.perform (c.shift δ)).1 = (d.perform c).1.shift δ ∧
      (d.perform c).2.Shifted δ (d'.perform (c.shift δ)).2 := by
  obtain ⟨hanswer, hwindow⟩ := h.apart hk hk' hc
  refine ⟨hanswer, ?_, hwindow, ?_⟩
  · rw [config_perform, config_perform, h.config]
  · rw [tally_perform, tally_perform, hanswer, Outcome.tally_shift, h.tally]

theorem Shifted.run (h : d.Shifted δ d') (hk : d.Kept) (hk' : d'.Kept) {calls : List Call}
    (hcalls : ∀ c ∈ calls, c.isTimed = true) :
    (d'.run (calls.map (Call.shift δ))).1 = (d.run calls).1.map (Outcome.shift δ) ∧
      (d.run calls).2.Shifted δ (d'.run (calls.map (Call.shift δ))).2 := by
  induction calls generalizing d d' with
  | nil => exact ⟨rfl, h⟩
  | cons c rest ih =>
    obtain ⟨hanswer, hnext⟩ := h.perform hk hk' (hcalls c List.mem_cons_self)
    obtain ⟨hanswers, hlast⟩ := ih hnext (hk.perform c) (hk'.perform (c.shift δ))
      fun a ha => hcalls a (List.mem_cons_of_mem _ ha)
    rw [List.map_cons, run_cons, run_cons, hanswer, hanswers]
    exact ⟨rfl, hlast⟩

/-- **Nothing depends on where times count from.**  A valid configuration gives a detector, and any
calls that bring their times, brought later by `δ`, get the same answers and leave the same
signatures in the same order, with all times later by `δ`. -/
theorem independent_of_origin (config : Config) (clock : Clock) (hvalid : config.Valid) :
    ∃ d, create config clock = .ok d ∧
      ∀ (δ : Time) (calls : List Call), (∀ c ∈ calls, c.isTimed = true) →
        (d.run (calls.map (Call.shift δ))).1 = (d.run calls).1.map (Outcome.shift δ) ∧
          (d.run calls).2.Shifted δ (d.run (calls.map (Call.shift δ))).2 := by
  have hkept := kept_initial config hvalid clock
  exact ⟨_, create_of_valid config clock hvalid, fun δ _ =>
    (shifted_initial δ config hvalid clock).run hkept hkept⟩

/-- Room for two in 50 ms, once from zero on and once up to the last millisecond of a clock of 64
bits.  The cutoff of the first four calls stops at zero in the one run and is far above it in the
other. -/
theorem independent_of_origin_top_of_clock :
    Config.Valid ⟨50, 2, .bits64, .firstInsertion, .clock⟩ ∧
      ∃ d, create ⟨50, 2, .bits64, .firstInsertion, .clock⟩ ⟨0⟩ = .ok d ∧
        ∃ calls, calls = [.check 0x123 [1] (some 0), .sweep 40, .check 0x123 [1] (some 30),
            .check 0x124 [2] (some 45), .check 0x125 [] (some 50), .sweep 99] ∧
          (∀ c ∈ calls, c.isTimed = true) ∧
          (d.run (calls.map (Call.shift (2 ^ 64 - 100)))).1 =
            (d.run calls).1.map (Outcome.shift (2 ^ 64 - 100)) ∧
          (d.run calls).2.window.tally =
            { checked := 4, suppressed := 1, accepted := 3, expired := 1, evicted := 1 } ∧
          (d.run (calls.map (Call.shift (2 ^ 64 - 100)))).2.window.ledger.entries =
            [(.compute .bits64 ⟨0x125, by decide⟩ [], 2 ^ 64 - 50)] := by
  obtain ⟨d, hd, hrun⟩ :=
    independent_of_origin ⟨50, 2, .bits64, .firstInsertion, .clock⟩ ⟨0⟩ (by decide)
  have htimed : ∀ c ∈ ([.check 0x123 [1] (some 0), .sweep 40, .check 0x123 [1] (some 30),
      .check 0x124 [2] (some 45), .check 0x125 [] (some 50), .sweep 99] : List Call),
      c.isTimed = true := by decide
  have hsame := (hrun (2 ^ 64 - 100) _ htimed).1
  cases hd
  exact ⟨by decide, _, rfl, _, rfl, htimed, hsame, by decide +kernel, by decide +kernel⟩

end Detector

end EchoFilter
