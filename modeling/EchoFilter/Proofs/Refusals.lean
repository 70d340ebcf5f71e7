import EchoFilter.Proofs.Halves
import EchoFilter.Proofs.Tallies
import EchoFilter.Proofs.Ties

/-!
# Refusals — what is no frame leaves no trace

Raw data beyond the limits of a frame is refused by what it is alone, before anything is touched.
So the calls that bring it can be struck out of a run, and nothing else in the run changes: not on a
detector (`Detector.run_filter`), not on a shared handle with its reports at any time
(`Traffic.Thinned.run`), and not at the queue of an ingest (`Session.play_filter`).  What a shared
handle or a sender keeps of such a call is one rejection more, and `Counters.spurn` counts them.
-/

namespace EchoFilter

/-! ## Calls on a detector -/

def Call.fault? : Call → Option FrameError
  | .check id bytes _ => Frame.fault? id bytes
  | _ => none

/-- Whether a call stays in a run that faults are struck out of. -/
def Call.fits (c : Call) : Bool :=
  c.fault?.isNone

namespace Detector

theorem perform_of_fault (d : Detector) {c : Call} {e : FrameError} (h : c.fault? = some e) :
    d.perform c = (.refused e, d) := by
  cases c with
  | check id bytes at? =>
    rcases Frame.stops_of_fault h with hid | ⟨i, hid, hbytes⟩
    · simp only [perform, performBy, hid]
    · simp only [perform, performBy, hid, hbytes]
  | _ => cases h

theorem act?_of_fault (d : Detector) {c : Call} {e : FrameError} (h : c.fault? = some e) :
    d.act? c = none := by
  have hanswered := d.answered_perform c
  rw [d.perform_of_fault h] at hanswered
  generalize d.act? c = a at hanswered ⊢
  cases hanswered
  rfl

/-- A call decides on `id` and `payload` at `t`, on any detector. -/
def Decides (c : Call) (id : ArbitrationId) (payload : Payload) (t : Time) : Prop :=
  ∀ d : Detector, d.act? c = some (.check (d.signature id payload.bytes) t) ∧
    d.perform c = (.judged id (d.decide id payload t).1, (d.decide id payload t).2)

theorem exists_decides_check {raw : UInt32} {bytes : List UInt8}
    (h : Frame.fault? raw bytes = none) :
    ∃ id payload, ∀ t, Decides (.check raw bytes (some t)) id payload t := by
  obtain ⟨id, payload, hid, hbytes⟩ := Frame.reads_of_none h
  refine ⟨id, payload, fun t d => ⟨?_, ?_⟩⟩
  · simp only [Detector.act?, Call.act?, Call.actBy?, hid, hbytes]
    rfl
  · simp only [perform, performBy, hid, hbytes]
    rfl

theorem decides_decide (id : ArbitrationId) (payload : Payload) (t : Time) :
    Decides (.decide id payload t) id payload t :=
  fun _ => ⟨rfl, rfl⟩

theorem judged_of_none (d : Detector) {id : UInt32} {bytes : List UInt8}
    (h : Frame.fault? id bytes = none) (at? : Option Time) :
    ∃ i v, (d.perform (.check id bytes at?)).1 = .judged i v := by
  obtain ⟨i, p, hid, hbytes⟩ := Frame.reads_of_none h
  simp only [perform, performBy, hid, hbytes]
  exact ⟨_, _, rfl⟩

theorem isRefused_perform (d : Detector) (c : Call) :
    (d.perform c).1.isRefused = c.fault?.isSome := by
  cases hfault : c.fault? with
  | some e => rw [d.perform_of_fault hfault]; rfl
  | none =>
    cases c with
    | check id bytes at? =>
      obtain ⟨i, v, hjudged⟩ := d.judged_of_none hfault at?
      rw [hjudged]
      rfl
    | _ => rfl

theorem run_filter (d : Detector) (calls : List Call) :
    d.run (calls.filter Call.fits) =
      ((d.run calls).1.filter fun o => !o.isRefused, (d.run calls).2) := by
  induction calls generalizing d with
  | nil => rfl
  | cons c rest ih =>
    have hrefused := d.isRefused_perform c
    cases hfault : c.fault? with
    | some e =>
      rw [List.filter_cons_of_neg (by simp [Call.fits, hfault]), run_cons,
        d.perform_of_fault hfault, ih]
      rfl
    | none =>
      rw [hfault] at hrefused
      rw [List.filter_cons_of_pos (by simp [Call.fits, hfault]), run_cons, run_cons, ih,
        List.filter_cons_of_pos (by simp [hrefused])]

end Detector

/-! ## The recorder -/

/-- The counters with so many rejections more. -/
def Counters.spurn (n : Nat) (c : Counters) : Counters :=
  { c with rejected := c.rejected + UInt64.ofNat n }

namespace Counters

theorem spurn_zero (c : Counters) : c.spurn 0 = c := by
  unfold spurn
  rw [show UInt64.ofNat 0 = 0 from rfl, UInt64.add_zero]

theorem record_rejected_spurn (n : Nat) (c : Counters) :
    record (c.spurn n) .rejected = c.spurn (n + 1) := by
  show { c with rejected := c.rejected + UInt64.ofNat n + 1 } =
    { c with rejected := c.rejected + UInt64.ofNat (n + 1) }
  rw [UInt64.ofNat_add, UInt64.add_assoc]
  rfl

theorem record_spurn (n : Nat) (c : Counters) (m : Measure) :
    record (c.spurn n) m = (record c m).spurn n := by
  cases m with
  | check elapsed duplicate => cases duplicate <;> rfl
  | rejected =>
    show { c with rejected := c.rejected + UInt64.ofNat n + 1 } =
      { c with rejected := c.rejected + 1 + UInt64.ofNat n }
    rw [UInt64.add_assoc, UInt64.add_comm (UInt64.ofNat n) 1, ← UInt64.add_assoc]
  | expired k => rfl
  | evicted k => rfl
  | cacheSize k => rfl

theorem recordAll_spurn (n : Nat) (c : Counters) (ms : List Measure) :
    recordAll (c.spurn n) ms = (recordAll c ms).spurn n := by
  induction ms generalizing c with
  | nil => rfl
  | cons m rest ih => rw [recordAll_cons, recordAll_cons, record_spurn, ih]

end Counters

def Monitor.spurn (n : Nat) (m : Monitor Counters) : Monitor Counters :=
  { m with recorder := m.recorder.spurn n }

theorem Monitor.reject_eq_spurn (m : Monitor Counters) : m.reject = m.spurn 1 := by
  have hrecord := m.recorder.record_rejected_spurn 0
  rw [Counters.spurn_zero] at hrecord
  exact congrArg (Monitor.mk m.detector) hrecord

theorem Monitor.spurn_spurn_one (n : Nat) (m : Monitor Counters) :
    (m.spurn n).spurn 1 = m.spurn (n + 1) := by
  rw [← reject_eq_spurn]
  exact congrArg (Monitor.mk m.detector) (Counters.record_rejected_spurn n m.recorder)

theorem Monitor.call_of_fault (m : Monitor Counters) {c : Call} {e : FrameError}
    (h : c.fault? = some e) (elapsed : Duration) : m.call c elapsed = (.refused e, m.spurn 1) := by
  unfold call locked
  rw [m.detector.perform_of_fault h, ← reject_eq_spurn]
  rfl

/-! ## Shared handles -/

section Lists

variable {α : Type} {p : α → Bool} {xs : List α} {i : Nat} {x : α}

theorem getElem?_filter_of_getElem? (h : xs[i]? = some x) (hx : p x = true) :
    (xs.filter p)[(xs.take i).countP p]? = some x := by
  induction xs generalizing i with
  | nil => cases h
  | cons y ys ih =>
    cases i with
    | zero =>
      cases h
      rw [List.filter_cons_of_pos hx]
      rfl
    | succ i =>
      have hrest := ih h
      rw [List.take_succ_cons, List.countP_cons, List.filter_cons]
      split
      · rw [List.getElem?_cons_succ]
        exact hrest
      · exact hrest

theorem filter_eraseIdx (h : xs[i]? = some x) :
    (xs.eraseIdx i).filter p =
      if p x then (xs.filter p).eraseIdx ((xs.take i).countP p) else xs.filter p := by
  induction xs generalizing i with
  | nil => cases h
  | cons y ys ih =>
    cases i with
    | zero =>
      cases h
      rw [List.eraseIdx_cons_zero, List.filter_cons]
      split <;> rfl
    | succ i =>
      have hrest := ih h
      rw [List.eraseIdx_cons_succ, List.filter_cons, List.filter_cons, List.take_succ_cons,
        List.countP_cons, hrest]
      split
      · split
        · rw [List.eraseIdx_cons_succ]
        · rfl
      · rfl

theorem countP_eraseIdx (h : xs[i]? = some x) :
    (xs.eraseIdx i).countP p + (if p x then 1 else 0) = xs.countP p := by
  obtain ⟨hi, rfl⟩ := List.getElem?_eq_some_iff.1 h
  rw [← List.countP_cons]
  exact (List.getElem_cons_eraseIdx_perm hi).countP_eq p

end Lists

namespace Traffic

/-- The halves of the calls without a fault; what is due is counted without the others. -/
def spared {ρ : Type} [Recorder ρ] (s : Traffic ρ) : List Half → List Half
  | [] => []
  | .lock c elapsed :: rest =>
    let later := (s.lock c elapsed).2.spared rest
    if c.fits then .lock c elapsed :: later else later
  | .report i :: rest =>
    let later := (s.report i).spared rest
    match s.due[i]? with
    | some n =>
      if n.outcome.isRefused then later
      else .report ((s.due.take i).countP fun n => !n.outcome.isRefused) :: later
    | none => later

theorem calls_spared {ρ : Type} [Recorder ρ] (s : Traffic ρ) (halves : List Half) :
    (s.spared halves).filterMap Half.call? = (halves.filterMap Half.call?).filter Call.fits := by
  induction halves generalizing s with
  | nil => rfl
  | cons half rest ih =>
    cases half with
    | lock c elapsed =>
      have hrest := ih (s.lock c elapsed).2
      rw [spared]
      dsimp only [List.filterMap_cons, Half.call?]
      rw [List.filter_cons]
      split
      · exact congrArg (c :: ·) hrest
      · exact hrest
    | report i =>
      have hrest := ih (s.report i)
      rw [spared]
      dsimp only [List.filterMap_cons, Half.call?]
      split
      · split <;> exact hrest
      · exact hrest

/-- The second is what the first would be without the calls struck out; each of these has left a
rejection, or has one still to be reported. -/
structure Thinned (struck : Nat) (s s' : Traffic Counters) : Prop where
  detector : s'.monitor.detector = s.monitor.detector
  due : s'.due = s.due.filter fun n => !n.outcome.isRefused
  recorder : ∃ reported, reported + s.due.countP (fun n => n.outcome.isRefused) = struck ∧
    s.monitor.recorder = s'.monitor.recorder.spurn reported

variable {struck : Nat} {s s' : Traffic Counters}

theorem thinned_start (m : Monitor Counters) : Thinned 0 ⟨m, []⟩ ⟨m, []⟩ where
  detector := rfl
  due := rfl
  recorder := ⟨0, rfl, (Counters.spurn_zero _).symm⟩

theorem Thinned.lock_of_fault (h : Thinned struck s s') {c : Call} {e : FrameError}
    (hc : c.fault? = some e) (elapsed : Duration) :
    (s.lock c elapsed).1.isRefused = true ∧ Thinned (struck + 1) (s.lock c elapsed).2 s' := by
  obtain ⟨reported, hcount, hrecorder⟩ := h.recorder
  unfold lock Monitor.locked
  rw [s.monitor.detector.perform_of_fault hc]
  refine ⟨rfl, h.detector, ?_, reported, ?_, hrecorder⟩
  · rw [h.due, List.filter_append]
    exact (List.append_nil _).symm
  · rw [List.countP_append, ← Nat.add_assoc, hcount]
    rfl

theorem Thinned.lock (h : Thinned struck s s') {c : Call} (hc : c.fault? = none)
    (elapsed : Duration) :
    (s.lock c elapsed).1.isRefused = false ∧ (s'.lock c elapsed).1 = (s.lock c elapsed).1 ∧
      Thinned struck (s.lock c elapsed).2 (s'.lock c elapsed).2 := by
  obtain ⟨reported, hcount, hrecorder⟩ := h.recorder
  have hserved := s.monitor.detector.isRefused_perform c
  rw [hc] at hserved
  unfold Traffic.lock Monitor.locked
  rw [h.detector]
  refine ⟨hserved, rfl, rfl, ?_, reported, ?_, hrecorder⟩
  · rw [h.due, List.filter_append]
    simp [hserved]
  · simpa [hserved] using hcount

theorem Thinned.report_of_refused (h : Thinned struck s s') {i : Nat} {n : Note}
    (hi : s.due[i]? = some n) (hn : n.outcome.isRefused = true) :
    Thinned struck (s.report i) s' := by
  obtain ⟨reported, hcount, hrecorder⟩ := h.recorder
  have hmeasures : n.measures = [.rejected] := by
    unfold Note.measures
    cases ho : n.outcome with
    | refused e => rfl
    | judged _ _ | swept _ | reset _ | clockMoved =>
      rw [ho] at hn
      cases hn
  have herased := countP_eraseIdx (p := fun n => n.outcome.isRefused) hi
  rw [if_pos hn] at herased
  rw [Traffic.report, hi]
  refine ⟨h.detector, ?_, reported + 1, ?_, ?_⟩
  · rw [filter_eraseIdx hi, if_neg (by simp [hn])]
    exact h.due
  · show reported + 1 + (s.due.eraseIdx i).countP _ = struck
    omega
  · show recordAll s.monitor.recorder n.measures = _
    rw [hmeasures, hrecorder]
    exact Counters.record_rejected_spurn reported _

theorem Thinned.report (h : Thinned struck s s') {i : Nat} {n : Note} (hi : s.due[i]? = some n)
    (hn : n.outcome.isRefused = false) :
    Thinned struck (s.report i)
      (s'.report ((s.due.take i).countP fun n => !n.outcome.isRefused)) := by
  obtain ⟨reported, hcount, hrecorder⟩ := h.recorder
  have hserved : (!n.outcome.isRefused) = true := by rw [hn]; rfl
  have hi' := getElem?_filter_of_getElem? (p := fun n => !n.outcome.isRefused) hi hserved
  have herased := countP_eraseIdx (p := fun n => n.outcome.isRefused) hi
  rw [← h.due] at hi'
  rw [if_neg (by simp [hn])] at herased
  rw [Traffic.report, hi, Traffic.report, hi']
  refine ⟨h.detector, ?_, reported, ?_, ?_⟩
  · rw [filter_eraseIdx hi, if_pos hserved, ← h.due]
  · show reported + (s.due.eraseIdx i).countP _ = struck
    omega
  · show recordAll s.monitor.recorder n.measures =
      (recordAll s'.monitor.recorder n.measures).spurn reported
    rw [hrecorder, Counters.recordAll_spurn]

/-- Calls with a fault can be struck out of the traffic on a shared handle, with their reports. -/
theorem Thinned.run (h : Thinned struck s s') (halves : List Half) :
    (s'.run (s.spared halves)).1 = ((s.run halves).1.filter fun o => !o.isRefused) ∧
      Thinned (struck + (s.run halves).1.countP Outcome.isRefused) (s.run halves).2
        (s'.run (s.spared halves)).2 := by
  -- A half is done on both sides or on the first one alone, and is then a fault or idle.
  induction halves generalizing struck s s' with
  | nil => exact ⟨rfl, h⟩
  | cons half rest ih =>
    cases half with
    | lock c elapsed =>
      rw [run, spared]
      dsimp only
      cases hc : c.fault? with
      | some e =>
        obtain ⟨hrefused, hnext⟩ := h.lock_of_fault hc elapsed
        obtain ⟨hanswers, hlast⟩ := ih hnext
        rw [if_neg (by simp [Call.fits, hc]), List.filter_cons_of_neg (by simp [hrefused]),
          List.countP_cons, if_pos hrefused, Nat.add_comm _ 1, ← Nat.add_assoc]
        exact ⟨hanswers, hlast⟩
      | none =>
        obtain ⟨hserved, hsame, hnext⟩ := h.lock hc elapsed
        obtain ⟨hanswers, hlast⟩ := ih hnext
        rw [if_pos (by simp [Call.fits, hc]), List.filter_cons_of_pos (by simp [hserved]),
          List.countP_cons, if_neg (by simp [hserved]), Nat.add_zero, run]
        dsimp only
        rw [hsame, hanswers]
        exact ⟨rfl, hlast⟩
    | report i =>
      rw [run, spared]
      cases hi : s.due[i]? with
      | none =>
        have hidle : s.report i = s := by rw [Traffic.report, hi]
        rw [hidle]
        exact ih h
      | some n =>
        dsimp only
        cases hn : n.outcome.isRefused with
        | true => exact ih (h.report_of_refused hi hn)
        | false => exact ih (h.report hi hn)

end Traffic

/-! ## Senders -/

def Turn.fault? {σ : Type} : Turn σ → Option FrameError
  | .send _ id bytes _ => Frame.fault? id bytes
  | _ => none

def Turn.fits {σ : Type} (t : Turn σ) : Bool :=
  t.fault?.isNone

/-- Whether a sender was told that its data is no frame. -/
def isFaultReply : Enqueued ⊕ Polled → Bool
  | .inl (.refused (.invalidFrame _)) => true
  | _ => false

variable {σ : Type}

namespace Ingest

theorem send_of_fault (g : Ingest σ Counters) (sender : Sender) {id : UInt32} {bytes : List UInt8}
    {e : FrameError} (h : Frame.fault? id bytes = some e) (timestamp : UInt64) :
    g.send sender id bytes timestamp =
      (.refused (.invalidFrame e), { g with monitor := g.monitor.spurn 1 },
        [rejectionEvent sender.interface id e]) := by
  unfold send
  rw [Frame.ofRaw_of_fault h, ← Monitor.reject_eq_spurn]

theorem Sends.isFaultReply_eq {ρ : Type} [Recorder ρ] {g g' : Ingest σ ρ} {interface : String}
    {x : Sending} {reply : Enqueued} (h : g.Sends interface x reply g') :
    isFaultReply (.inl reply) = x.fault?.isSome := by
  cases h with
  | refused hfault => rw [hfault]; rfl
  | closed hfault | blocked hfault | sent hfault => rw [hfault]; rfl

end Ingest

/-- Everything is the same, but for so many rejections more on the left. -/
def Tie.spurned (σ : Type) (n : Nat) : Tie σ σ Counters Counters where
  frame := Eq
  interface := Eq
  sink := Eq
  monitor m m' := m = m'.spurn n

theorem lasting_spurned [Sink σ] (n : Nat) (moment : Nat → Moment) :
    (Tie.spurned σ n).Lasting moment moment where
  judge {m m' f f'} k hm hf := by
    subst hf
    rw [show m = m'.spurn n from hm]
    refine ⟨rfl, ?_⟩
    exact congrArg (Monitor.mk _) (Counters.recordAll_spurn n _ _)
  reject {m m'} hm := by
    rw [show m = m'.spurn n from hm]
    exact congrArg (Monitor.mk _) (Counters.record_spurn n _ _)
  offer {s s' f f'} hs hf := by
    rw [show s = s' from hs, show f = f' from hf]
    cases Sink.offer s' f' with
    | none => exact .none
    | some x => exact .some ⟨rfl, rfl⟩
  release hs := congrArg Sink.release hs

theorem Turn.tied_refl (n : Nat) (t : Turn σ) : t.Tied (Tie.spurned σ n) t := by
  cases t with
  | attach interface => exact .attach rfl
  | send i id bytes timestamp =>
    refine .send i id bytes fun x x' hx id payload => ?_
    exact congrArg (Frame.mk id payload timestamp) hx
  | sendFrame i f => exact .sendFrame i rfl
  | detach i => exact .detach i
  | dropHandle => exact .dropHandle
  | stir act => exact .stir fun _ _ hs => congrArg act hs
  | poll => exact .poll

theorem eq_of_forall₂ {α : Type} {R : α → α → Prop} (hR : ∀ x y, R x y → x = y) {xs ys : List α}
    (h : List.Forall₂ R xs ys) : xs = ys := by
  rw [← List.forall₂_eq_eq_eq]
  exact h.imp hR

theorem Inlet.Tied.eq {q q' : Inlet} (h : q.Tied Eq Eq q') : q = q' := by
  obtain ⟨capacity, queue, handle, senders, receiving⟩ := q
  obtain ⟨hcapacity, hqueue, hhandle, hsenders, hreceiving⟩ := h
  rw [List.forall₂_eq_eq_eq] at hqueue
  have hsame := eq_of_forall₂ (fun x y hxy => by
    obtain ⟨interface, attached⟩ := x
    obtain ⟨hx, hattached⟩ := hxy
    dsimp only at hx hattached
    rw [hx, ← hattached]) hsenders
  dsimp only at *
  rw [← hcapacity, hqueue, ← hhandle, hsame, ← hreceiving]

theorem Task.Tied.eq {t t' : Task} (h : t.Tied Eq t') : t = t' := by
  cases h with
  | fresh => rfl
  | waiting report hkept =>
    cases hkept with
    | none => rfl
    | some hf => rw [hf]
  | ended => rfl

namespace Session

def spurn (n : Nat) (s : Session σ Counters) : Session σ Counters :=
  { s with ingest := { s.ingest with monitor := s.ingest.monitor.spurn n } }

theorem Tied.eq_spurn {n : Nat} {s s' : Session σ Counters} (h : s.Tied (Tie.spurned σ n) s') :
    s = s'.spurn n := by
  obtain ⟨⟨monitor, ⟨sink, answered⟩, inlet, task⟩, entered, report?⟩ := s
  obtain ⟨⟨hmonitor, ⟨hsink, hanswered⟩, hinlet, htask⟩, hentered, hreport⟩ := h
  have hdeliveries := eq_of_forall₂ (fun x y hxy => Prod.ext hxy.1 hxy.2.symm) hanswered
  have hframes := eq_of_forall₂ (fun x y hxy => Prod.ext hxy.1.symm hxy.2) hentered
  have hinlets := hinlet.eq
  have htasks := htask.eq
  dsimp only at *
  subst hmonitor hsink hdeliveries hframes hinlets htasks hreport
  rfl

variable [Sink σ] {n : Nat} {s s' : Session σ Counters}

/-- A sender with a fault is told so and adds a rejection; nobody else notices. -/
theorem Tied.turn_of_fault (h : s.Tied (Tie.spurned σ n) s') (moment : Nat → Moment) {t : Turn σ}
    {e : FrameError} (ht : t.fault? = some e) :
    (∀ r ∈ s.reply? moment t, isFaultReply r = true) ∧
      (s.turn moment t).Tied (Tie.spurned σ (n + (s.reply? moment t).toList.length)) s' := by
  cases t with
  | send i id bytes timestamp =>
    unfold Session.turn Session.reply?
    dsimp only
    cases s.ingest.inlet.sender? i with
    | none => exact ⟨fun _ hr => (nomatch hr), h⟩
    | some sender =>
      dsimp only
      rw [Option.map_some, s.ingest.send_of_fault sender ht]
      refine ⟨?_, ?_⟩
      · intro r hr
        cases hr
        rfl
      · have hmonitor := congrArg (Monitor.spurn 1) h.ingest.monitor
        rw [Monitor.spurn_spurn_one] at hmonitor
        refine ⟨⟨hmonitor, h.ingest.sink, h.ingest.inlet, h.ingest.task⟩, ?_, h.report?⟩
        show List.Forall₂ _ (s.entered ++ (s.ingest.inlet.queue.drop _).map _) _
        rw [List.drop_length, List.map_nil, List.append_nil]
        exact h.entered
  | _ => cases ht

theorem isFaultReply_of_none (s : Session σ Counters) (moment : Nat → Moment) {t : Turn σ}
    (ht : t.fault? = none) : ∀ r ∈ s.reply? moment t, isFaultReply r = false := by
  intro r hr
  cases t with
  | send i id bytes timestamp =>
    obtain ⟨sender, -, rfl⟩ := Option.map_eq_some_iff.1 hr
    have hsends := s.ingest.sends_send sender id bytes timestamp
    exact hsends.isFaultReply_eq.trans (congrArg Option.isSome ht)
  | sendFrame i f =>
    obtain ⟨sender, -, rfl⟩ := Option.map_eq_some_iff.1 hr
    exact (s.ingest.sends_sendFrame sender.interface f).isFaultReply_eq
  | poll => cases hr; rfl
  | _ => cases hr

theorem Tied.play_filter (h : s.Tied (Tie.spurned σ n) s') (moment : Nat → Moment)
    (turns : List (Turn σ)) :
    s'.replies moment (turns.filter Turn.fits) =
        ((s.replies moment turns).filter fun r => !isFaultReply r) ∧
      (s.play moment turns).Tied
        (Tie.spurned σ (n + (s.replies moment turns).countP isFaultReply))
        (s'.play moment (turns.filter Turn.fits)) := by
  induction turns generalizing s s' n with
  | nil => exact ⟨rfl, h⟩
  | cons t rest ih =>
    rw [replies, List.filter_append, List.countP_append, ← Nat.add_assoc]
    cases ht : t.fault? with
    | some e =>
      obtain ⟨hfault, hnext⟩ := h.turn_of_fault moment ht
      obtain ⟨hreplies, hlast⟩ := ih hnext
      have hcount : (s.reply? moment t).toList.countP isFaultReply =
          (s.reply? moment t).toList.length := by
        rw [List.countP_eq_length]
        simpa using hfault
      have hnone : ((s.reply? moment t).toList.filter fun r => !isFaultReply r) = [] := by
        rw [List.filter_eq_nil_iff]
        simpa using hfault
      rw [List.filter_cons_of_neg (by simp [Turn.fits, ht]), hnone, List.nil_append, hcount]
      exact ⟨hreplies, hlast⟩
    | none =>
      have hserved := s.isFaultReply_of_none moment ht
      obtain ⟨hreply, hnext⟩ := h.turn (lasting_spurned n moment) (t.tied_refl n)
      obtain ⟨hreplies, hlast⟩ := ih hnext
      have hcount : (s.reply? moment t).toList.countP isFaultReply = 0 := by
        rw [List.countP_eq_zero]
        simpa using hserved
      have hall : ((s.reply? moment t).toList.filter fun r => !isFaultReply r) =
          (s.reply? moment t).toList := by
        rw [List.filter_eq_self]
        simpa using hserved
      rw [List.filter_cons_of_pos (by simp [Turn.fits, ht]), replies, hreply, hreplies, hall,
        hcount]
      exact ⟨rfl, hlast⟩

end Session

namespace Detector

/-- From `d` on, what is no frame is refused for what it is, touches nothing, and can be struck out
of any run; all that is left of it is a rejection counted. -/
structure ForgetsFaults (d : Detector) : Prop where
  refused_iff : ∀ (id : UInt32) (bytes : List UInt8) (at? : Option Time),
    (d.perform (.check id bytes at?)).1.isRefused = true ↔ 0x1FFFFFFF < id.toNat ∨ 8 < bytes.length
  refused : ∀ (id : UInt32) (bytes : List UInt8) (at? : Option Time) (e : FrameError),
    Frame.fault? id bytes = some e → d.perform (.check id bytes at?) = (.refused e, d)
  judged : ∀ (id : UInt32) (bytes : List UInt8) (at? : Option Time),
    Frame.fault? id bytes = none → ∃ i v, (d.perform (.check id bytes at?)).1 = .judged i v
  run : ∀ calls : List Call, d.run (calls.filter Call.fits) =
    ((d.run calls).1.filter fun o => !o.isRefused, (d.run calls).2)
  -- On a shared handle, with the reports made at any time.
  call : ∀ (recorder : Counters) (id : UInt32) (bytes : List UInt8) (at? : Option Time)
    (elapsed : Duration) (e : FrameError), Frame.fault? id bytes = some e →
    Monitor.call ⟨d, recorder⟩ (.check id bytes at?) elapsed = (.refused e, ⟨d, recorder.spurn 1⟩)
  shared : ∀ (recorder : Counters) (halves : List Half),
    (Traffic.spared ⟨⟨d, recorder⟩, []⟩ halves).filterMap Half.call? =
        (halves.filterMap Half.call?).filter Call.fits ∧
      (Traffic.run ⟨⟨d, recorder⟩, []⟩ (Traffic.spared ⟨⟨d, recorder⟩, []⟩ halves)).1 =
        ((Traffic.run ⟨⟨d, recorder⟩, []⟩ halves).1.filter fun o => !o.isRefused) ∧
      Traffic.Thinned ((Traffic.run ⟨⟨d, recorder⟩, []⟩ halves).1.countP Outcome.isRefused)
        (Traffic.run ⟨⟨d, recorder⟩, []⟩ halves).2
        (Traffic.run ⟨⟨d, recorder⟩, []⟩ (Traffic.spared ⟨⟨d, recorder⟩, []⟩ halves)).2
  -- At the queue of an ingest.
  send : ∀ (σ : Type) (recorder : Counters) (sink : σ) (inlet : Inlet) (task : Task)
    (sender : Sender) (id : UInt32) (bytes : List UInt8) (timestamp : UInt64) (e : FrameError),
    Frame.fault? id bytes = some e →
    Ingest.send ⟨⟨d, recorder⟩, sink, inlet, task⟩ sender id bytes timestamp =
      (.refused (.invalidFrame e), ⟨⟨d, recorder.spurn 1⟩, sink, inlet, task⟩,
        [Ingest.rejectionEvent sender.interface id e])
  session : ∀ (σ : Type) [Sink σ] (recorder : Counters) (sink : σ) (capacity : Nat)
    (moment : Nat → Moment) (turns : List (Turn σ)),
    (Session.start ⟨d, recorder⟩ sink capacity).replies moment (turns.filter Turn.fits) =
        (((Session.start ⟨d, recorder⟩ sink capacity).replies moment turns).filter fun r =>
          !isFaultReply r) ∧
      (Session.start ⟨d, recorder⟩ sink capacity).play moment turns =
        ((Session.start ⟨d, recorder⟩ sink capacity).play moment (turns.filter Turn.fits)).spurn
          (((Session.start ⟨d, recorder⟩ sink capacity).replies moment turns).countP isFaultReply)

/-- **What is no frame leaves no trace.**  Whatever the detector is in the middle of, a raw call
fails exactly when the id or the payload is beyond its limit, with the id's error if both are, and
it can be struck out of any run with nothing else changed but one rejection less. -/
theorem forgets_faults (d : Detector) : d.ForgetsFaults where
  refused_iff id bytes at? := by
    rw [isRefused_perform]
    exact Frame.isSome_fault?_iff
  refused id bytes at? e h := d.perform_of_fault h
  judged id bytes at? h := d.judged_of_none h at?
  run calls := d.run_filter calls
  call recorder id bytes at? elapsed e h :=
    Monitor.call_of_fault ⟨d, recorder⟩ (c := .check id bytes at?) h elapsed
  shared recorder halves := by
    have hrun := (Traffic.thinned_start ⟨d, recorder⟩).run halves
    rw [Nat.zero_add] at hrun
    exact ⟨Traffic.calls_spared _ halves, hrun⟩
  send σ recorder sink inlet task sender id bytes timestamp e h :=
    Ingest.send_of_fault ⟨⟨d, recorder⟩, sink, inlet, task⟩ sender h timestamp
  session σ _ recorder sink capacity moment turns := by
    have hstart : (Tie.spurned σ 0).monitor ⟨d, recorder⟩ ⟨d, recorder⟩ :=
      congrArg (Monitor.mk d) recorder.spurn_zero.symm
    obtain ⟨hreplies, hplay⟩ :=
      (Session.tied_start hstart rfl capacity).play_filter moment turns
    rw [Nat.zero_add] at hplay
    exact ⟨hreplies, hplay.eq_spurn⟩

/-- With both limits broken the id is what is reported; between two copies, a frame too long leaves
one rejection. -/
theorem forgets_faults_both_limits :
    ∃ d, create ⟨50, 2, .bits64, .recency, .frameArrival⟩ ⟨0⟩ = .ok d ∧
      d.perform (.check 0x20000000 [0, 1, 2, 3, 4, 5, 6, 7, 8] none) =
        (.refused (.invalidId 0x20000000), d) ∧
      ∃ s, s = (Session.start ⟨d, Counters.zero⟩ (Channel.ofCapacity 4) 8).play
          (fun _ => { clock := ⟨0⟩ })
          [.attach "can0", .dropHandle, .send 0 0x123 [1] 100,
            .send 0 0x123 [0, 1, 2, 3, 4, 5, 6, 7, 8] 105, .send 0 0x123 [1] 110, .detach 0,
            .poll] ∧
        s.report? = some ⟨2, 1, 1, 0⟩ ∧ s.ingest.monitor.recorder.rejected = 1 := by
  have h := forgets_faults (initial ⟨50, 2, .bits64, .recency, .frameArrival⟩ (by decide) ⟨0⟩)
  refine ⟨_, create_of_valid _ ⟨0⟩ (by decide), ?_, _, rfl, ?_⟩
  · exact h.refused _ _ none _ (by decide)
  · have hsession := (h.session Channel Counters.zero (Channel.ofCapacity 4) 8
      (fun _ => { clock := ⟨0⟩ })
      [.attach "can0", .dropHandle, .send 0 0x123 [1] 100,
        .send 0 0x123 [0, 1, 2, 3, 4, 5, 6, 7, 8] 105, .send 0 0x123 [1] 110, .detach 0, .poll]).2
    rw [hsession]
    decide +kernel

end Detector

end EchoFilter
