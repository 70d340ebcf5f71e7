import Mathlib.Data.Set.Function
import EchoFilter.Proofs.Retention
import EchoFilter.Text.Hex.Lemmas

/-!
# Contents — without a collision only the same content is suppressed

A detector knows frames by their signatures alone.  What the hash sees of a frame determines its id
and payload, so any suppression of a new content is a collision of the hash or of the cut to a
width.  `suppresses_only_same_content` says so for every hash: as long as the contents checked since
the last reset have distinct signatures, a suppressed content was itself checked less than a window
ago.

The proof keeps a diary of contents beside the detector.  Each cached signature is traced to a
content of the diary that was last checked when the signature was last seen, and each content of the
diary to a call with its id and its bytes.
-/

namespace EchoFilter

/-! ## What the hash sees -/

/-- What makes two frames the same. -/
structure Content where
  id : ArbitrationId
  payload : Payload
  deriving DecidableEq, Repr

namespace Content

def signature (hash : Hash) (width : Width) (k : Content) : Signature :=
  .computeBy hash width k.id k.payload.bytes

end Content

def Frame.content (f : Frame) : Content :=
  ⟨f.id, f.payload⟩

theorem Frame.sameContent_iff {f g : Frame} : f.sameContent g = true ↔ f.content = g.content := by
  unfold sameContent content
  rw [decide_eq_true_eq, Content.mk.injEq]

theorem ArbitrationId.raw_lt (id : ArbitrationId) : id.raw.toNat < 256 ^ 4 :=
  Nat.lt_of_le_of_lt id.raw_le (by decide)

-- The id has a fixed width, so it can be cut off in front of any payload.
theorem Signature.content_inj {id id' : ArbitrationId} {payload payload' : List UInt8} :
    content id payload = content id' payload' ↔ id = id' ∧ payload = payload' := by
  constructor
  · intro h
    obtain ⟨hid, hpayload⟩ := List.append_inj h (by rw [Hex.length_bigEndian, Hex.length_bigEndian])
    have hraw := congrArg Hex.ofBigEndian hid
    rw [Hex.ofBigEndian_bigEndian, Hex.ofBigEndian_bigEndian, Nat.mod_eq_of_lt id.raw_lt,
      Nat.mod_eq_of_lt id'.raw_lt, UInt32.toNat_inj] at hraw
    cases id
    cases id'
    cases hraw
    exact ⟨rfl, hpayload⟩
  · rintro ⟨rfl, rfl⟩
    rfl

theorem Frame.hashed_eq_iff (f g : Frame) :
    Signature.content f.id f.payload.bytes = Signature.content g.id g.payload.bytes ↔
      f.sameContent g = true := by
  rw [Signature.content_inj, sameContent_iff, content, content, Content.mk.injEq]
  exact and_congr_right fun _ => Payload.mk.injEq .. ▸ Iff.rfl

/-- The id and the bytes that a call asks about, as raw data. -/
def Call.raw? : Call → Option (UInt32 × List UInt8)
  | .check id bytes _ => some (id, bytes)
  | .frame f => some (f.id.raw, f.payload.bytes)
  | .decide id payload _ => some (id.raw, payload.bytes)
  | .sweep _ | .reset | .setClock _ | .advanceClock _ => none

theorem Call.raw?_of_actBy? {config : Config} {clock : Clock} {latest : Option Time} {c : Call}
    {k : Content} {t : Time} (h : c.actBy? Content.mk config clock latest = some (.check k t)) :
    c.raw? = some (k.id.raw, k.payload.bytes) := by
  cases c with
  | check id bytes at? =>
    simp only [actBy?] at h
    split at h
    next id' payload hid hbytes =>
      cases h
      rw [raw?, ArbitrationId.raw_of_ofRaw hid, Payload.bytes_of_ofBytes hbytes]
    next => cases h
  | frame | decide =>
    cases h
    rfl
  | sweep | reset | setClock | advanceClock => cases h

/-! ## The diary of a detector -/

open History

namespace History

variable {K : Type} [DecidableEq K]

/-- The keys checked since the last reset. -/
def known : List (Happening K) → Finset K
  | [] => ∅
  | .reset :: _ => ∅
  | .swept _ :: past => known past
  | .checked a _ _ :: past => insert a (known past)

theorem mem_known_of_lastCheck? {past : List (Happening K)} {k : K} {seen : Time}
    (h : lastCheck? k past = some seen) : k ∈ known past := by
  induction past with
  | nil => cases h
  | cons happening past ih =>
    cases happening with
    | reset => cases h
    | swept t => exact ih h
    | checked a t duplicate =>
      rw [known, Finset.mem_insert]
      by_cases hak : a = k
      · exact Or.inl hak.symm
      · right
        apply ih
        rw [← h]
        exact (if_neg fun hand => hak hand.1).symm

end History

/-- The clock of a detector, and the contents it was asked about with its answers. -/
structure Diary where
  clock : Clock
  past : List (Happening Content)

namespace Diary

/-- What the next call asks for, in contents. -/
def act? (config : Config) (h : Diary) (c : Call) : Option (Act Content) :=
  c.actBy? Content.mk config h.clock (latest? h.past)

/-- Writes down a call and its outcome; a call that fails leaves no trace. -/
def note (config : Config) (h : Diary) (c : Call) (o : Outcome) : Diary where
  clock := c.tick h.clock
  past :=
    match h.act? config c with
    | some (.check k t) => .checked k t o.isDuplicate :: h.past
    | some (.sweep t) => .swept t :: h.past
    | some .reset => .reset :: h.past
    | none => h.past

def noteAll (config : Config) (h : Diary) : List (Call × Outcome) → Diary
  | [] => h
  | (c, o) :: rest => (h.note config c o).noteAll config rest

/-- The diary of calls on a new detector and of the outcomes they had. -/
def ofRun (config : Config) (clock : Clock) (calls : List Call) (outcomes : List Outcome) : Diary :=
  noteAll config ⟨clock, []⟩ (calls.zip outcomes)

/-- Every signature the detector remembers is that of a content last checked when the signature was
last seen. -/
structure Explains (hash : Hash) (h : Diary) (d : Detector) : Prop where
  clock : d.clock = h.clock
  mark : d.window.mark = latest? h.past
  sighted : ∀ s last, d.window.lastSeen? s = some last →
    ∃ k : Content, k.signature hash d.config.width = s ∧ lastCheck? k h.past = some last

variable {hash : Hash} {h : Diary} {d : Detector}

theorem Explains.actBy?_eq (he : h.Explains hash d) (c : Call) :
    d.actBy? hash c =
      (h.act? d.config c).map (Act.map (Content.signature hash d.config.width)) := by
  unfold Detector.actBy? act?
  rw [he.clock, he.mark, Call.actBy?_map]
  rfl

theorem explains_initial (hash : Hash) (config : Config) (hvalid : config.Valid) (clock : Clock) :
    Explains hash ⟨clock, []⟩ (Detector.initial config hvalid clock) where
  clock := rfl
  mark := rfl
  sighted s last hs := by simp [Detector.initial] at hs

theorem Explains.performBy (he : h.Explains hash d) (c : Call) :
    (h.note d.config c (d.performBy hash c).1).Explains hash (d.performBy hash c).2 := by
  have hclock := congrArg c.tick he.clock
  rw [Detector.performBy_snd, he.actBy?_eq]
  unfold note
  cases h.act? d.config c with
  | none => exact ⟨hclock, he.mark, he.sighted⟩
  | some a =>
    cases a with
    | check k t =>
      have hnow := Window.clamp_of_mark_eq he.mark t
      refine ⟨hclock, (Window.mark_check ..).trans (congrArg some hnow), fun s last hs => ?_⟩
      -- A sighting is of the content that is noted, or it is an older one.
      rcases Window.lastSeen?_of_check hs with ⟨rfl, rfl⟩ | ⟨hne, hold⟩
      · exact ⟨k, rfl, lastCheck?_checked (Or.inl ⟨rfl, hnow⟩)⟩
      · obtain ⟨k', rfl, hlast⟩ := he.sighted s last hold
        have hkk : k' ≠ k := by
          rintro rfl
          exact hne rfl
        exact ⟨k', rfl, lastCheck?_checked (Or.inr ⟨hkk, hlast⟩)⟩
    | sweep t =>
      exact ⟨hclock, congrArg some (Window.clamp_of_mark_eq he.mark t), fun s last hs =>
        he.sighted s last ((Window.sweep_forgets d.limits d.window t).lastSeen?_of_some hs)⟩
    | reset =>
      exact ⟨hclock, rfl, fun s last hs => nomatch (d.window.lastSeen?_reset s).symm.trans hs⟩

-- What is in a diary was there before, or one of the calls has brought it.
theorem lastCheck?_of_noteAll {config : Config} {notes : List (Call × Outcome)} {k : Content}
    {seen : Time} (hlast : lastCheck? k (h.noteAll config notes).past = some seen) :
    (lastCheck? k h.past = some seen ∧ .reset ∉ notes.map Prod.fst) ∨
      ∃ before c after, notes.map Prod.fst = before ++ c :: after ∧ .reset ∉ after ∧
        c.raw? = some (k.id.raw, k.payload.bytes) := by
  induction notes generalizing h with
  | nil => exact Or.inl ⟨hlast, List.not_mem_nil⟩
  | cons x rest ih =>
    obtain ⟨c, o⟩ := x
    rcases ih hlast with ⟨hnoted, hrest⟩ | ⟨before, c', after, hcalls, hafter, hraw⟩
    · have hkept (hact : h.act? config c ≠ some .reset) : .reset ∉ c :: rest.map Prod.fst := by
        rw [List.mem_cons, not_or]
        refine ⟨?_, hrest⟩
        rintro rfl
        exact hact rfl
      unfold note at hnoted
      dsimp only at hnoted
      split at hnoted
      next k' t hact =>
        by_cases hk : k' = k
        · subst hk
          exact Or.inr ⟨[], c, _, rfl, hrest, Call.raw?_of_actBy? hact⟩
        · exact Or.inl ⟨(if_neg fun hand => hk hand.1).symm.trans hnoted, hkept (by simp [hact])⟩
      next t hact => exact Or.inl ⟨hnoted, hkept (by simp [hact])⟩
      next => cases hnoted
      next hact => exact Or.inl ⟨hnoted, hkept (by simp [hact])⟩
    · exact Or.inr ⟨c :: before, c', after, congrArg (c :: ·) hcalls, hafter, hraw⟩

theorem Explains.runBy (he : h.Explains hash d) (calls : List Call) :
    (h.noteAll d.config (calls.zip (d.runBy hash calls).1)).Explains hash
      (d.runBy hash calls).2 := by
  induction calls generalizing h d with
  | nil => exact he
  | cons c rest ih =>
    have hrest := ih (he.performBy c)
    rw [Detector.config_performBy] at hrest
    exact hrest

-- The signature was seen inside the window, so its content was, and without collision it is `k`.
theorem Explains.lastCheck?_of_isDuplicate (he : h.Explains hash d) {c : Call} {k : Content}
    {t : Time} (ha : h.act? d.config c = some (.check k t))
    (hinj : Set.InjOn (Content.signature hash d.config.width) ↑(insert k (known h.past)))
    (hdup : (d.performBy hash c).1.isDuplicate = true) :
    ∃ seen, lastCheck? k h.past = some seen ∧
      processed h.past t - seen < d.config.windowMs.toNat := by
  have hreports := d.performBy_fst hash c
  rw [he.actBy?_eq, ha] at hreports
  obtain ⟨id, hid⟩ := hreports
  rw [hid, Outcome.isDuplicate, Window.check_duplicate] at hdup
  obtain ⟨last, hlast, hinside⟩ := Window.isRepeat_eq_true_iff.1 hdup
  obtain ⟨k', hsame, hk'⟩ := he.sighted _ last
    ((Window.sweep_forgets d.limits d.window t).lastSeen?_of_some hlast)
  have hkk : k' = k := hinj (by simp [mem_known_of_lastCheck? hk']) (by simp) hsame
  rw [Window.clamp_of_mark_eq he.mark] at hinside
  exact ⟨last, hkk ▸ hk', hinside⟩

end Diary

namespace Detector

theorem length_runBy (hash : Hash) (d : Detector) (calls : List Call) :
    (d.runBy hash calls).1.length = calls.length := by
  induction calls generalizing d with
  | nil => rfl
  | cons c rest ih => exact congrArg (· + 1) (ih (d.performBy hash c).2)

/-- **Without a collision only the same content is suppressed.**  The hash sees the same of two
frames exactly when they have the same content, and then their signatures agree at every width; and
by any hash, on a new detector after any calls, a check is suppressed only if its content was
checked since the last reset less than a window before, by a call with the same id and the same
bytes, provided the contents checked since then, its own included, have distinct signatures. -/
theorem suppresses_only_same_content (hash : Hash) (config : Config) (clock : Clock)
    (hvalid : config.Valid) :
    (∀ f g : Frame,
      (Signature.content f.id f.payload.bytes = Signature.content g.id g.payload.bytes ↔
        f.sameContent g = true) ∧
      (f.sameContent g = true → ∀ w, Signature.computeBy hash w f.id f.payload.bytes =
        Signature.computeBy hash w g.id g.payload.bytes)) ∧
    ∃ d, create config clock = .ok d ∧ ∀ (calls : List Call) (c : Call) (k : Content) (t : Time),
      (Diary.ofRun config clock calls (d.runBy hash calls).1).act? config c = some (.check k t) →
      Set.InjOn (Content.signature hash config.width)
        ↑(insert k (known (Diary.ofRun config clock calls (d.runBy hash calls).1).past)) →
      ((d.runBy hash calls).2.performBy hash c).1.isDuplicate = true →
      c.raw? = some (k.id.raw, k.payload.bytes) ∧
      (∃ before c' after, calls = before ++ c' :: after ∧ .reset ∉ after ∧ c'.raw? = c.raw?) ∧
      ∃ seen,
        lastCheck? k (Diary.ofRun config clock calls (d.runBy hash calls).1).past = some seen ∧
        processed (Diary.ofRun config clock calls (d.runBy hash calls).1).past t - seen <
          config.windowMs.toNat := by
  refine ⟨fun f g => ⟨f.hashed_eq_iff g, fun hsame w => ?_⟩, _, create_of_valid config clock hvalid,
    fun calls c k t ha hinj hdup => ?_⟩
  · have hcontent := (f.hashed_eq_iff g).2 hsame
    unfold Signature.computeBy
    rw [hcontent]
  · have he := (Diary.explains_initial hash config hvalid clock).runBy calls
    have hconfig : ((initial config hvalid clock).runBy hash calls).2.config = config :=
      config_runBy hash _ calls
    have hdiary := he.lastCheck?_of_isDuplicate (c := c) (k := k) (t := t)
    rw [hconfig] at hdiary
    obtain ⟨seen, hlast, hinside⟩ := hdiary ha hinj hdup
    have hraw := Call.raw?_of_actBy? ha
    refine ⟨hraw, ?_, seen, hlast, hinside⟩
    -- A new diary is empty, so a call has brought what is in it.
    rcases Diary.lastCheck?_of_noteAll hlast with ⟨hempty, -⟩ | hcall
    · cases hempty
    · rw [List.map_fst_zip (length_runBy hash _ calls).ge] at hcall
      obtain ⟨before, c', after, hcalls, hafter, hraw'⟩ := hcall
      exact ⟨before, c', after, hcalls, hafter, hraw'.trans hraw.symm⟩

/-- Two contents are checked, and the first once more. -/
theorem suppresses_only_same_content_two_contents :
    Config.Valid ⟨50, 2, .bits64, .recency, .clock⟩ ∧
      ∃ d calls h,
        create ⟨50, 2, .bits64, .recency, .clock⟩ ⟨0⟩ = .ok d ∧
        calls = [.check 0x123 [1] (some 100), .check 0x124 [2] (some 110)] ∧
        h = Diary.ofRun ⟨50, 2, .bits64, .recency, .clock⟩ ⟨0⟩ calls
          (d.runBy SipHash.digest calls).1 ∧
        ((d.runBy SipHash.digest calls).2.performBy SipHash.digest
          (.check 0x123 [1] (some 130))).1.isDuplicate = true ∧
        (∃ before c' after, calls = before ++ c' :: after ∧ .reset ∉ after ∧
          c'.raw? = some (0x123, [1])) ∧
        ∃ seen,
          lastCheck? ⟨⟨0x123, by decide⟩, ⟨[1], by decide⟩⟩ h.past = some seen ∧
          processed h.past 130 - seen < 50 := by
  obtain ⟨-, d, hd, hlast⟩ := suppresses_only_same_content SipHash.digest
    ⟨50, 2, .bits64, .recency, .clock⟩ ⟨0⟩ (by decide)
  have hrepeat : ((d.runBy SipHash.digest
      [.check 0x123 [1] (some 100), .check 0x124 [2] (some 110)]).2.performBy SipHash.digest
        (.check 0x123 [1] (some 130))).1.isDuplicate = true := by
    cases hd
    decide +kernel
  refine ⟨by decide, d, _, _, hd, rfl, rfl, hrepeat,
    (hlast _ (.check 0x123 [1] (some 130)) _ 130 rfl ?_ hrepeat).2⟩
  -- The two contents have two signatures.
  cases hd
  unfold Set.InjOn
  simp only [Finset.mem_coe]
  decide +kernel

end Detector

end EchoFilter
