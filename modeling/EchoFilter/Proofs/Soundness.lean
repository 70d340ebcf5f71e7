import Mathlib
import EchoFilter.Proofs.Coherence

/-!
# Soundness — what holds of a detector after any calls

`Detector.Sound` lists what a client can rely on whatever the calls were: one set of keys in cache
and ledger, no more of them than allowed, times in order and inside the window, signatures of the
configured width.  It is the coherence of the window, carried through calls by `run_of_perform`.
-/

namespace EchoFilter

theorem Width.modulus_eq (w : Width) : w.modulus = 2 ^ w.bits := by
  cases w <;> rfl

theorem Call.width_of_act? {config : Config} {clock : Clock} {latest : Option Time} {c : Call}
    {s : Signature} {t : Time} (h : c.act? config clock latest = some (.check s t)) :
    s.width = config.width := by
  cases c with
  | check id bytes at? =>
    simp only [act?, actBy?] at h
    split at h
    · cases h
      rfl
    · cases h
  | frame f => cases h; rfl
  | decide id payload now => cases h; rfl
  | sweep now => cases h
  | reset => cases h
  | setClock ms => cases h
  | advanceClock ms => cases h

namespace Detector

/-- What is carried from call to call: a client sees it as `Sound` and `Safe`. -/
structure Kept (d : Detector) : Prop where
  coherent : d.window.Coherent d.limits
  width : ∀ s, d.contains s = true → s.width = d.config.width

theorem kept_initial (config : Config) (h : config.Valid) (clock : Clock) :
    (initial config h clock).Kept where
  coherent := Window.coherent_of_empty _ rfl Ledger.entries_empty
  width s hs := absurd hs (by simp [contains, Window.contains, initial, Window.empty])

theorem Kept.perform {d : Detector} (h : d.Kept) (c : Call) : (d.perform c).2.Kept := by
  -- By acts, not by calls: only a check brings in a signature.
  have hwindow := d.window_perform c
  cases ha : d.act? c with
  | none =>
    rw [ha] at hwindow
    refine ⟨?_, fun s hs => ?_⟩
    · rw [limits_perform, hwindow]
      exact h.coherent
    · rw [config_perform]
      rw [contains, hwindow] at hs
      exact h.width s hs
  | some a =>
    rw [ha] at hwindow
    refine ⟨?_, fun s hs => ?_⟩
    · rw [limits_perform, hwindow]
      exact Window.act_coherent h.coherent a
    · rw [config_perform]
      rw [contains, hwindow] at hs
      rcases Window.contains_act hs with ⟨t, rfl⟩ | hin
      · exact Call.width_of_act? ha
      · exact h.width s hin

theorem Kept.run {d : Detector} (h : d.Kept) (calls : List Call) : (d.run calls).2.Kept :=
  run_of_perform (fun _ c hd => hd.perform c) d calls h

theorem capacity_pos (d : Detector) : 0 < d.limits.capacity :=
  d.valid.2

/-! ## What a client sees -/

/-- What holds of a detector between calls. -/
structure Sound (d : Detector) : Prop where
  contains_iff : ∀ s, d.contains s = true ↔ s ∈ d.window.ledger.keys
  nodup : d.window.ledger.keys.Nodup
  size_eq : d.size = d.ledgerSize
  size_le : d.size ≤ d.config.maxCacheSize.toNat
  ascending : d.window.ledger.entries.Pairwise fun a b => a.2 ≤ b.2
  dated : ∀ s placed, (s, placed) ∈ d.window.ledger.entries → ∃ last mark,
    d.lastSeen? s = some last ∧ d.window.mark = some mark ∧ placed ≤ last ∧ last ≤ mark ∧
    mark - d.config.windowMs.toNat ≤ placed ∧ (d.config.policy = .recency → placed = last)
  unmarked : d.window.mark = none → d.isEmpty = true
  signature : ∀ s, d.contains s = true →
    s.width = d.config.width ∧ s.value < 2 ^ d.config.width.bits

/-- What holds inside a check of `s` at `t`, between its steps: a repeat finds its key in the
ledger, a full window has an entry to evict, and one is enough. -/
structure Safe (d : Detector) (s : Signature) (t : Time) : Prop where
  touch : (d.window.sweep d.limits t).2.isRepeat d.limits s (d.window.clamp t) = true →
    (d.window.sweep d.limits t).2.ledger.contains s = true
  oldest : d.limits.capacity <
      ((d.window.sweep d.limits t).2.remember s (d.window.clamp t)).size →
    ((d.window.sweep d.limits t).2.remember s (d.window.clamp t)).ledger.oldest?.isSome = true
  bound : (((d.window.sweep d.limits t).2.remember s (d.window.clamp t)).evict d.limits).2.size ≤
    d.limits.capacity

theorem Kept.sound {d : Detector} (h : d.Kept) : d.Sound where
  contains_iff := h.coherent.contains_iff
  nodup := d.window.ledger.nodup
  size_eq := by
    rw [ledgerSize, Ledger.size_eq]
    exact h.coherent.size_eq
  size_le := h.coherent.size_le
  ascending := h.coherent.ascending
  dated s placed hs := h.coherent.dated (s, placed) hs
  unmarked hm := by
    -- An entry would have a date, and a date a mark.
    have hl : d.window.ledger.entries = [] := by
      rw [List.eq_nil_iff_forall_not_mem]
      intro e he
      obtain ⟨last, mark, -, hmark, -⟩ := h.coherent.dated e he
      rw [hm] at hmark
      cases hmark
    have hsize := h.coherent.size_eq
    rw [hl, List.length_nil] at hsize
    unfold isEmpty
    rw [Std.ExtTreeMap.isEmpty_eq_size_beq_zero, beq_iff_eq]
    exact hsize
  signature s hs := by
    have hw := h.width s hs
    rw [← hw, ← Width.modulus_eq]
    exact ⟨rfl, s.value_lt⟩

theorem Kept.safe {d : Detector} (h : d.Kept) (s : Signature) (t : Time) : d.Safe s t := by
  have hswept := h.coherent.sweep t
  have haligned := hswept.toAligned.remember (Window.mark_sweep _ _ _) s
  refine ⟨hswept.toAligned.ledger_contains, fun hlt => ?_, ?_⟩
  · obtain ⟨e, r, hl⟩ := haligned.exists_oldest hlt
    rw [Ledger.oldest?_eq, hl, List.head?_cons, Option.isSome_some]
  · exact (haligned.evict (hswept.size_remember_le s _)).size_le

theorem Kept.lastSeen?_perform {d : Detector} (h : d.Kept) {c : Call} {s : Signature} {t : Time}
    (ha : d.act? c = some (.check s t)) :
    (d.perform c).2.contains s = true ∧
      (d.perform c).2.lastSeen? s = (d.perform c).2.window.mark := by
  have hwindow := d.window_perform c
  rw [ha] at hwindow
  have hlast := Window.lastSeen?_check d.capacity_pos h.coherent s t
  have hmark := Window.mark_check d.limits d.window s t
  rw [contains, lastSeen?, hwindow, Window.contains_eq_isSome]
  show ((d.window.check d.limits s t).2.lastSeen? s).isSome = true ∧
    (d.window.check d.limits s t).2.lastSeen? s = (d.window.check d.limits s t).2.mark
  rw [hlast, hmark]
  exact ⟨rfl, rfl⟩

/-- **Every reachable detector is sound.**  A valid configuration gives a detector, and after any
calls, refused ones and times that run backwards included, it is sound, any check it may be asked
for next is safe between its steps, and the signature of that check is then last seen at the
mark. -/
theorem sound_of_reachable (config : Config) (clock : Clock) (h : config.Valid) :
    ∃ d, create config clock = .ok d ∧ ∀ calls : List Call,
      (d.run calls).2.Sound ∧
      (∀ s t, (d.run calls).2.Safe s t) ∧
      ∀ c s t, (d.run calls).2.act? c = some (.check s t) →
        ((d.run calls).2.perform c).2.contains s = true ∧
          ((d.run calls).2.perform c).2.lastSeen? s =
            ((d.run calls).2.perform c).2.window.mark := by
  refine ⟨_, create_of_valid config clock h, fun calls => ?_⟩
  have hkept := (kept_initial config h clock).run calls
  exact ⟨hkept.sound, hkept.safe, fun c s t ha => hkept.lastSeen?_perform ha⟩

theorem sound_of_reachable_two_entries :
    Config.Valid ⟨50, 2, .bits64, .firstInsertion, .frameArrival⟩ ∧
      ∃ d, create ⟨50, 2, .bits64, .firstInsertion, .frameArrival⟩ ⟨7⟩ = .ok d ∧
        ∀ calls : List Call,
          (d.run calls).2.Sound ∧
          (∀ s t, (d.run calls).2.Safe s t) ∧
          ∀ c s t, (d.run calls).2.act? c = some (.check s t) →
            ((d.run calls).2.perform c).2.contains s = true ∧
              ((d.run calls).2.perform c).2.lastSeen? s =
                ((d.run calls).2.perform c).2.window.mark :=
  ⟨by decide, sound_of_reachable _ ⟨7⟩ (by decide)⟩

end Detector

end EchoFilter
