import Mathlib.Data.List.Forall2
import EchoFilter.Proofs.Sessions

/-!
# Ties — two sessions in step

Two ingests that are fed corresponding frames go the same way: they drop the same ones, hand the
same ones to their sinks, halt at the same points and report the same.  What corresponds to what is
a `Tie`, and it has to be `Lasting`: frames that correspond are judged alike and answered alike.
`Adapter.Tied` carries this through one queue, `Session.Tied` through any turns of the world.
-/

namespace EchoFilter

variable {σ σ' ρ ρ' : Type}

/-- How the frames, interfaces, sinks and monitors of two ingests correspond. -/
structure Tie (σ σ' ρ ρ' : Type) where
  frame : Frame → Frame → Prop
  interface : String → String → Prop
  sink : σ → σ' → Prop
  monitor : Monitor ρ → Monitor ρ' → Prop

/-- A shared detector once a frame is judged and reported. -/
def Monitor.judged [Recorder ρ] (m : Monitor ρ) (f : Frame) (moment : Moment) : Monitor ρ where
  detector := (m.detector.judge f moment).2
  recorder := recordAll m.recorder (m.detector.judge f moment).1.measures

/-- Two answers to a delivery are the same, and so are the sinks after them, as far as `sink`
tells. -/
def Sink.AnswersTied (sink : σ → σ' → Prop) :
    Option (Answer × σ) → Option (Answer × σ') → Prop :=
  Option.Rel fun x x' => x'.1 = x.1 ∧ sink x.2 x'.2

/-- Neither a judgement nor a rejection nor a delivery breaks the tie. -/
structure Tie.Lasting [Sink σ] [Sink σ'] [Recorder ρ] [Recorder ρ'] (tie : Tie σ σ' ρ ρ')
    (moment moment' : Nat → Moment) : Prop where
  judge : ∀ {m : Monitor ρ} {m' : Monitor ρ'} {f f' : Frame} (n : Nat), tie.monitor m m' →
    tie.frame f f' →
    (m'.detector.judge f' (moment' n)).1.isDuplicate =
        (m.detector.judge f (moment n)).1.isDuplicate ∧
      tie.monitor (m.judged f (moment n)) (m'.judged f' (moment' n))
  reject : ∀ {m : Monitor ρ} {m' : Monitor ρ'}, tie.monitor m m' → tie.monitor m.reject m'.reject
  offer : ∀ {s : σ} {s' : σ'} {f f' : Frame}, tie.sink s s' → tie.frame f f' →
    Sink.AnswersTied tie.sink (Sink.offer s f) (Sink.offer s' f')
  release : ∀ {s : σ} {s' : σ'}, tie.sink s s' → tie.sink (Sink.release s) (Sink.release s')

/-! ## Adapters -/

/-- Two adapters between frames: all corresponds, and the reports are the same. -/
structure Adapter.Tied (tie : Tie σ σ' ρ ρ') (a : Adapter σ ρ) (a' : Adapter σ' ρ') : Prop where
  monitor : tie.monitor a.monitor a'.monitor
  sink : tie.sink a.sink a'.sink
  report : a'.report = a.report

inductive Adapter.Delivery.Tied (tie : Tie σ σ' ρ ρ') : Delivery σ ρ → Delivery σ' ρ' → Prop
  | busy : Tied tie .busy .busy
  | done {a : Adapter σ ρ} {a' : Adapter σ' ρ'} (h : a.Tied tie a') (events events' : List Event) :
    Tied tie (.done a events) (.done a' events')
  | closed {a : Adapter σ ρ} {a' : Adapter σ' ρ'} (h : a.Tied tie a') :
    Tied tie (.closed a) (.closed a')

inductive Halt.Tied (frame : Frame → Frame → Prop) : Halt → Halt → Prop
  | drained : Tied frame .drained .drained
  | held {f f' : Frame} (h : frame f f') : Tied frame (.held f) (.held f')
  | closed : Tied frame .closed .closed

structure Drained.Tied (tie : Tie σ σ' ρ ρ') (d : Drained σ ρ) (d' : Drained σ' ρ') : Prop where
  adapter : d.adapter.Tied tie d'.adapter
  rest : List.Forall₂ tie.frame d.rest d'.rest
  halt : d.halt.Tied tie.frame d'.halt

-- The events before a run are no part of the tie: they name interfaces and stamps.
theorem Drained.Tied.after {tie : Tie σ σ' ρ ρ'} {d : Drained σ ρ} {d' : Drained σ' ρ'}
    (h : d.Tied tie d') (before before' : List Event) :
    (d.after before).Tied tie (d'.after before') :=
  ⟨h.adapter, h.rest, h.halt⟩

namespace Adapter

variable {tie : Tie σ σ' ρ ρ'} {a : Adapter σ ρ} {a' : Adapter σ' ρ'}
variable {moment moment' : Nat → Moment} {f f' : Frame}
variable [Sink σ] [Sink σ'] [Recorder ρ] [Recorder ρ']

theorem Tied.judge (h : a.Tied tie a') (hlasting : tie.Lasting moment moment')
    (hframe : tie.frame f f') :
    (a'.judge f' (moment' a'.report.received)).1 = (a.judge f (moment a.report.received)).1 ∧
      (a.judge f (moment a.report.received)).2.1.Tied tie
        (a'.judge f' (moment' a'.report.received)).2.1 := by
  obtain ⟨hsame, hmonitor⟩ := hlasting.judge a.report.received h.monitor hframe
  rw [h.report]
  refine ⟨by rw [judge_fst, judge_fst, hsame], ?_, ?_, ?_⟩
  · rw [judge_monitor, judge_monitor]
    exact hmonitor
  · rw [judge_sink, judge_sink]
    exact h.sink
  · rw [judge_report, judge_report, h.report, hsame]

theorem Tied.deliver (h : a.Tied tie a') (hlasting : tie.Lasting moment moment')
    (hframe : tie.frame f f') : (a.deliver f).Tied tie (a'.deliver f') := by
  have hoffer := hlasting.offer h.sink hframe
  have hreport := h.report
  unfold Adapter.deliver
  generalize Sink.offer a.sink f = offered at hoffer
  generalize Sink.offer a'.sink f' = offered' at hoffer
  cases hoffer with
  | none => exact .busy
  | @some x x' hx =>
    obtain ⟨answer, s⟩ := x
    obtain ⟨answer', s'⟩ := x'
    obtain ⟨hanswer, hsink⟩ := hx
    dsimp only at hanswer hsink
    subst hanswer
    match answer' with
    | .ok () =>
      refine .done ?_ _ _
      exact ⟨h.monitor, hsink, by rw [hreport]⟩
    | .error .closed =>
      refine .closed ?_
      exact ⟨h.monitor, hsink, hreport⟩
    | .error (.rejected reason) =>
      refine .done ?_ _ _
      exact ⟨h.monitor, hsink, by rw [hreport]⟩

theorem Tied.drain (h : a.Tied tie a') (hlasting : tie.Lasting moment moment')
    {queue queue' : List Frame} (hqueue : List.Forall₂ tie.frame queue queue') :
    (a.drain moment queue).Tied tie (a'.drain moment' queue') := by
  induction hqueue generalizing a a' with
  | nil => exact ⟨h, .nil, .drained⟩
  | @cons f f' rest rest' hframe hrest ih =>
    obtain ⟨hsame, hb⟩ := h.judge hlasting hframe
    rcases hj : a.judge f (moment a.report.received) with ⟨dropped, b, events⟩
    rcases hj' : a'.judge f' (moment' a'.report.received) with ⟨dropped', b', events'⟩
    rw [hj, hj'] at hsame hb
    dsimp only at hsame hb
    subst hsame
    cases dropped' with
    | true =>
      rw [drain_of_dropped hj, drain_of_dropped hj']
      exact (ih hb).after events events'
    | false =>
      have hdeliver := hb.deliver hlasting hframe
      generalize hd : b.deliver f = delivery at hdeliver
      generalize hd' : b'.deliver f' = delivery' at hdeliver
      cases hdeliver with
      | busy =>
        rw [drain_of_busy hj hd, drain_of_busy hj' hd']
        exact ⟨hb, hrest, .held hframe⟩
      | done hc =>
        rw [drain_of_done hj hd, drain_of_done hj' hd']
        exact (ih hc).after _ _
      | closed hc =>
        rw [drain_of_closed hj hd, drain_of_closed hj' hd']
        exact ⟨hc, hrest, .closed⟩

theorem Tied.resume (h : a.Tied tie a') (hlasting : tie.Lasting moment moment')
    {kept kept' : Option Frame} (hkept : Option.Rel tie.frame kept kept')
    {queue queue' : List Frame} (hqueue : List.Forall₂ tie.frame queue queue') :
    (a.resume moment kept queue).Tied tie (a'.resume moment' kept' queue') := by
  cases hkept with
  | none => exact h.drain hlasting hqueue
  | @some f f' hframe =>
    have hdeliver := h.deliver hlasting hframe
    unfold Adapter.resume
    dsimp only
    generalize a.deliver f = delivery at hdeliver
    generalize a'.deliver f' = delivery' at hdeliver
    cases hdeliver with
    | busy => exact ⟨h, hqueue, .held hframe⟩
    | done hb => exact (hb.drain hlasting hqueue).after _ _
    | closed hb => exact ⟨hb, hqueue, .closed⟩

end Adapter

/-! ## Ingests -/

structure Sender.Tied (interface : String → String → Prop) (s s' : Sender) : Prop where
  interface : interface s.interface s'.interface
  attached : s'.attached = s.attached

structure Inlet.Tied (frame : Frame → Frame → Prop) (interface : String → String → Prop)
    (q q' : Inlet) : Prop where
  capacity : q'.capacity = q.capacity
  queue : List.Forall₂ frame q.queue q'.queue
  handle : q'.handle = q.handle
  senders : List.Forall₂ (Sender.Tied interface) q.senders q'.senders
  receiving : q'.receiving = q.receiving

inductive Task.Tied (frame : Frame → Frame → Prop) : Task → Task → Prop
  | fresh : Tied frame .fresh .fresh
  | waiting (report : Report) {kept kept' : Option Frame} (h : Option.Rel frame kept kept') :
    Tied frame (.waiting report kept) (.waiting report kept')
  | ended : Tied frame .ended .ended

structure Ingest.Tied (tie : Tie σ σ' ρ ρ') (g : Ingest σ ρ) (g' : Ingest σ' ρ') : Prop where
  monitor : tie.monitor g.monitor g'.monitor
  sink : tie.sink g.sink g'.sink
  inlet : g.inlet.Tied tie.frame tie.interface g'.inlet
  task : g.task.Tied tie.frame g'.task

namespace Inlet

variable {frame : Frame → Frame → Prop} {interface : String → String → Prop} {q q' : Inlet}

theorem Tied.isOpen (h : q.Tied frame interface q') : q'.isOpen = q.isOpen := by
  have hany : q'.senders.any Sender.attached = q.senders.any Sender.attached := by
    have hsenders := h.senders
    generalize q.senders = senders at hsenders
    generalize q'.senders = senders' at hsenders
    induction hsenders with
    | nil => rfl
    | cons hs _ ih => rw [List.any_cons, List.any_cons, hs.attached, ih]
  unfold Inlet.isOpen
  rw [hany, h.handle]

theorem Tied.sender? (h : q.Tied frame interface q') (i : Nat) :
    Option.Rel (Sender.Tied interface) (q.sender? i) (q'.sender? i) := by
  have hsenders := h.senders
  unfold Inlet.sender?
  generalize q.senders = senders at hsenders
  generalize q'.senders = senders' at hsenders
  induction hsenders generalizing i with
  | nil => exact .none
  | @cons s s' rest rest' hs _ ih =>
    cases i with
    | zero =>
      show Option.Rel _ ((some s).filter Sender.attached) ((some s').filter Sender.attached)
      rw [Option.filter_some, Option.filter_some, hs.attached]
      split
      · exact .some hs
      · exact .none
    | succ i => exact ih i

theorem Tied.attach (h : q.Tied frame interface q') {x x' : String} (hx : interface x x') :
    (q.attach x).Tied frame interface (q'.attach x') :=
  { h with senders := List.rel_append h.senders (.cons ⟨hx, rfl⟩ .nil) }

theorem Tied.detach (h : q.Tied frame interface q') (i : Nat) :
    (q.detach i).Tied frame interface (q'.detach i) := by
  refine { h with senders := ?_ }
  have hsenders := h.senders
  show List.Forall₂ _ (q.senders.modify i _) (q'.senders.modify i _)
  generalize q.senders = senders at hsenders
  generalize q'.senders = senders' at hsenders
  induction hsenders generalizing i with
  | nil =>
    rw [List.modify_nil]
    exact .nil
  | cons hs hrest ih =>
    cases i with
    | zero => exact .cons ⟨hs.interface, rfl⟩ hrest
    | succ i => exact .cons hs (ih i)

-- A full queue is full on both sides, so the frames go the same way.
theorem Tied.enqueue (h : q.Tied frame interface q') {f f' : Frame} (hframe : frame f f') :
    (q'.enqueue f').1 = (q.enqueue f).1 ∧
      (q.enqueue f).2.Tied frame interface (q'.enqueue f').2 := by
  have hlength := h.queue.length_eq
  unfold Inlet.enqueue
  rw [h.receiving, h.capacity, ← hlength]
  split
  · exact ⟨rfl, h⟩
  · split
    · exact ⟨rfl, rfl, List.rel_append h.queue (.cons hframe .nil), h.handle, h.senders, rfl⟩
    · exact ⟨rfl, h⟩

end Inlet

namespace Ingest

variable {tie : Tie σ σ' ρ ρ'} {g : Ingest σ ρ} {g' : Ingest σ' ρ'}

theorem Tied.attach? (h : g.Tied tie g') {x x' : String} (hx : tie.interface x x') :
    Option.Rel (fun p p' => p.1.Tied tie p'.1) (g.attach? x) (g'.attach? x') := by
  unfold Ingest.attach?
  rw [h.inlet.handle]
  split
  · exact .some { h with inlet := h.inlet.attach hx }
  · exact .none

theorem Tied.sendFrame (h : g.Tied tie g') {f f' : Frame} (hframe : tie.frame f f') :
    (g'.sendFrame f').1 = (g.sendFrame f).1 ∧ (g.sendFrame f).2.Tied tie (g'.sendFrame f').2 := by
  obtain ⟨hreply, hinlet⟩ := h.inlet.enqueue hframe
  exact ⟨hreply, { h with inlet := hinlet }⟩

theorem Tied.adapter (h : g.Tied tie g') (report : Report) :
    (g.adapter report).Tied tie (g'.adapter report) :=
  ⟨h.monitor, h.sink, rfl⟩

variable [Recorder ρ] [Recorder ρ'] [Sink σ] [Sink σ'] {moment moment' : Nat → Moment}

-- Whether raw data is a frame does not depend on its stamp or interface.
theorem Tied.send (h : g.Tied tie g') (hlasting : tie.Lasting moment moment') {s s' : Sender}
    (id : UInt32) (bytes : List UInt8) {stamp stamp' : UInt64}
    (hframe : ∀ id payload,
      tie.frame ⟨id, payload, stamp, s.interface⟩ ⟨id, payload, stamp', s'.interface⟩) :
    (g'.send s' id bytes stamp').1 = (g.send s id bytes stamp).1 ∧
      (g.send s id bytes stamp).2.1.Tied tie (g'.send s' id bytes stamp').2.1 := by
  unfold Ingest.send Frame.ofRaw
  cases ArbitrationId.ofRaw id with
  | error e => exact ⟨rfl, { h with monitor := hlasting.reject h.monitor }⟩
  | ok id =>
    cases Payload.ofBytes bytes with
    | error e => exact ⟨rfl, { h with monitor := hlasting.reject h.monitor }⟩
    | ok payload => exact h.sendFrame (hframe id payload)

theorem Tied.finish (h : g.Tied tie g') (hlasting : tie.Lasting moment moment') :
    g.finish.Tied tie g'.finish where
  monitor := h.monitor
  sink := hlasting.release h.sink
  inlet := { h.inlet with queue := .nil, receiving := rfl }
  task := .ended

theorem Tied.settled (h : g.Tied tie g') (hlasting : tie.Lasting moment moment')
    {d : Drained σ ρ} {d' : Drained σ' ρ'} (hd : d.Tied tie d') :
    (g'.settled d').1 = (g.settled d).1 ∧ (g.settled d).2.Tied tie (g'.settled d').2 := by
  have hreport := hd.adapter.report
  have hafter {task task' : Task} (htask : task.Tied tie.frame task') :
      (g.after d task).Tied tie (g'.after d' task') :=
    ⟨hd.adapter.monitor, hd.adapter.sink, { h.inlet with queue := hd.rest }, htask⟩
  have hfinish := (hafter h.task).finish hlasting
  have hhalt := hd.halt
  unfold Ingest.settled
  rw [hreport, h.inlet.isOpen]
  generalize d.halt = halt at hhalt
  generalize d'.halt = halt' at hhalt
  cases hhalt with
  | drained =>
    dsimp only
    split
    · exact ⟨rfl, hafter (.waiting _ .none)⟩
    · exact ⟨rfl, hfinish⟩
  | held hframe => exact ⟨rfl, hafter (.waiting _ (.some hframe))⟩
  | closed => exact ⟨rfl, hfinish⟩

theorem Tied.poll (h : g.Tied tie g') (hlasting : tie.Lasting moment moment') :
    (g'.poll moment').1 = (g.poll moment).1 ∧
      (g.poll moment).2.1.Tied tie (g'.poll moment').2.1 := by
  have hgo {report : Report} {kept kept' : Option Frame} (hkept : Option.Rel tie.frame kept kept')
      (hstage : g.task.stage? = some (report, kept))
      (hstage' : g'.task.stage? = some (report, kept')) :
      (g'.poll moment').1 = (g.poll moment).1 ∧
        (g.poll moment).2.1.Tied tie (g'.poll moment').2.1 := by
    have hrun := (h.adapter report).resume hlasting hkept h.inlet.queue
    have hsettled := h.settled hlasting hrun
    rw [← poll_of_stage moment hstage, ← poll_of_stage moment' hstage'] at hsettled
    exact hsettled
  have htask := h.task
  generalize hg : g.task = task at htask
  generalize hg' : g'.task = task' at htask
  cases htask with
  | fresh => exact hgo .none (by rw [hg]; rfl) (by rw [hg']; rfl)
  | waiting report hkept => exact hgo hkept (by rw [hg]; rfl) (by rw [hg']; rfl)
  | ended =>
    rw [poll_of_ended moment hg, poll_of_ended moment' hg']
    exact ⟨rfl, h⟩

end Ingest

/-! ## Sessions -/

/-- The tie of ingests that write their deliveries down: they also gave the same answers. -/
def Tie.noted (tie : Tie σ σ' ρ ρ') : Tie (Noted σ) (Noted σ') ρ ρ' where
  frame := tie.frame
  interface := tie.interface
  sink s s' := tie.sink s.sink s'.sink ∧
    List.Forall₂ (fun x x' => tie.frame x.1 x'.1 ∧ x'.2 = x.2) s.answered s'.answered
  monitor := tie.monitor

structure Session.Tied (tie : Tie σ σ' ρ ρ') (s : Session σ ρ) (s' : Session σ' ρ') : Prop where
  ingest : s.ingest.Tied tie.noted s'.ingest
  entered : List.Forall₂ (fun x x' => x'.1 = x.1 ∧ tie.frame x.2 x'.2) s.entered s'.entered
  report? : s'.report? = s.report?

/-- Turns that correspond: senders do the same, with corresponding frames. -/
inductive Turn.Tied (tie : Tie σ σ' ρ ρ') : Turn σ → Turn σ' → Prop
  | attach {x x' : String} (h : tie.interface x x') : Tied tie (.attach x) (.attach x')
  | send (i : Nat) (id : UInt32) (bytes : List UInt8) {stamp stamp' : UInt64}
    (h : ∀ x x', tie.interface x x' → ∀ id payload,
      tie.frame ⟨id, payload, stamp, x⟩ ⟨id, payload, stamp', x'⟩) :
    Tied tie (.send i id bytes stamp) (.send i id bytes stamp')
  | sendFrame (i : Nat) {f f' : Frame} (h : tie.frame f f') :
    Tied tie (.sendFrame i f) (.sendFrame i f')
  | detach (i : Nat) : Tied tie (.detach i) (.detach i)
  | dropHandle : Tied tie .dropHandle .dropHandle
  | stir {act : σ → σ} {act' : σ' → σ'} (h : ∀ s s', tie.sink s s' → tie.sink (act s) (act' s')) :
    Tied tie (.stir act) (.stir act')
  | poll : Tied tie .poll .poll

/-- What a turn returns: the answer to a sender, or how far a poll came. -/
def Session.reply? [Recorder ρ] [Sink σ] (moment : Nat → Moment) (s : Session σ ρ) :
    Turn σ → Option (Enqueued ⊕ Polled)
  | .send i id bytes timestamp =>
    (s.ingest.inlet.sender? i).map fun sender => .inl (s.ingest.send sender id bytes timestamp).1
  | .sendFrame i f => (s.ingest.inlet.sender? i).map fun _ => .inl (s.ingest.sendFrame f).1
  | .poll => some (.inr (s.ingest.poll moment).1)
  | _ => none

def Session.replies [Recorder ρ] [Sink σ] (moment : Nat → Moment) (s : Session σ ρ) :
    List (Turn σ) → List (Enqueued ⊕ Polled)
  | [] => []
  | t :: rest => (s.reply? moment t).toList ++ (s.turn moment t).replies moment rest

section Sessions

variable [Recorder ρ] [Recorder ρ'] [Sink σ] [Sink σ'] {tie : Tie σ σ' ρ ρ'}
variable {moment moment' : Nat → Moment}

theorem Tie.Lasting.noted (h : tie.Lasting moment moment') : tie.noted.Lasting moment moment' where
  judge := h.judge
  reject := h.reject
  offer {s s' f f'} hs hframe := by
    have hoffer := h.offer hs.1 hframe
    show Sink.AnswersTied _ ((Sink.offer s.sink f).map _) ((Sink.offer s'.sink f').map _)
    generalize Sink.offer s.sink f = offered at hoffer
    generalize Sink.offer s'.sink f' = offered' at hoffer
    cases hoffer with
    | none => exact .none
    | some hx =>
      refine .some ⟨hx.1, hx.2, ?_⟩
      exact List.rel_append hs.2 (.cons ⟨hframe, hx.1⟩ .nil)
  release hs := ⟨h.release hs.1, hs.2⟩

namespace Session

variable {s : Session σ ρ} {s' : Session σ' ρ'}

omit [Recorder ρ] [Recorder ρ'] [Sink σ] [Sink σ'] in
theorem tied_start {monitor : Monitor ρ} {monitor' : Monitor ρ'}
    (hmonitor : tie.monitor monitor monitor') {sink : σ} {sink' : σ'} (hsink : tie.sink sink sink')
    (capacity : Nat) : (start monitor sink capacity).Tied tie (start monitor' sink' capacity) where
  ingest := ⟨hmonitor, ⟨hsink, .nil⟩, ⟨rfl, .nil, rfl, .nil, rfl⟩, .fresh⟩
  entered := .nil
  report? := rfl

omit [Recorder ρ] [Recorder ρ'] [Sink σ] [Sink σ'] in
-- Both queues have grown by corresponding frames.
theorem Tied.sentBy (h : s.Tied tie s') (i : Nat) {ingest : Ingest (Noted σ) ρ}
    {ingest' : Ingest (Noted σ') ρ'} (hingest : ingest.Tied tie.noted ingest') :
    (s.sentBy i ingest).Tied tie (s'.sentBy i ingest') where
  ingest := hingest
  entered := by
    refine List.rel_append h.entered ?_
    rw [← h.ingest.inlet.queue.length_eq, List.forall₂_map_left_iff, List.forall₂_map_right_iff]
    have hmore := List.forall₂_drop s.ingest.inlet.queue.length hingest.inlet.queue
    exact hmore.imp fun _ _ hframe => ⟨rfl, hframe⟩
  report? := h.report?

theorem Tied.turn (h : s.Tied tie s') (hlasting : tie.Lasting moment moment') {t : Turn σ}
    {t' : Turn σ'} (ht : t.Tied tie t') :
    s'.reply? moment' t' = s.reply? moment t ∧
      (s.turn moment t).Tied tie (s'.turn moment' t') := by
  cases ht with
  | attach hx =>
    refine ⟨rfl, ?_⟩
    have hattach := h.ingest.attach? hx
    unfold Session.turn
    dsimp only
    generalize s.ingest.attach? _ = attached at hattach
    generalize s'.ingest.attach? _ = attached' at hattach
    cases hattach with
    | none => exact h
    | some hp => exact { h with ingest := hp }
  | send i id bytes hframe =>
    have hsender := h.ingest.inlet.sender? i
    unfold Session.turn Session.reply?
    dsimp only
    generalize s.ingest.inlet.sender? i = sender at hsender
    generalize s'.ingest.inlet.sender? i = sender' at hsender
    cases hsender with
    | none => exact ⟨rfl, h⟩
    | some hs =>
      obtain ⟨hreply, hingest⟩ :=
        h.ingest.send hlasting.noted id bytes (hframe _ _ hs.interface)
      rw [Option.map_some, Option.map_some, hreply]
      exact ⟨rfl, h.sentBy i hingest⟩
  | sendFrame i hframe =>
    have hsender := h.ingest.inlet.sender? i
    obtain ⟨hreply, hingest⟩ := h.ingest.sendFrame hframe
    unfold Session.turn Session.reply?
    dsimp only
    generalize s.ingest.inlet.sender? i = sender at hsender
    generalize s'.ingest.inlet.sender? i = sender' at hsender
    cases hsender with
    | none => exact ⟨rfl, h⟩
    | some _ =>
      rw [Option.map_some, Option.map_some, hreply]
      exact ⟨rfl, h.sentBy i hingest⟩
  | detach i =>
    exact ⟨rfl, { h with ingest := { h.ingest with inlet := h.ingest.inlet.detach i } }⟩
  | dropHandle =>
    have hinlet := h.ingest.inlet
    exact ⟨rfl, { h with ingest := { h.ingest with inlet := { hinlet with handle := rfl } } }⟩
  | stir hact =>
    have hsink := h.ingest.sink
    exact ⟨rfl, { h with ingest := { h.ingest with sink := ⟨hact _ _ hsink.1, hsink.2⟩ } }⟩
  | poll =>
    obtain ⟨hpolled, hingest⟩ := h.ingest.poll hlasting.noted
    unfold Session.turn Session.reply?
    dsimp only
    rw [hpolled]
    refine ⟨rfl, ?_⟩
    cases (s.ingest.poll moment).1 with
    | pending => exact { h with ingest := hingest }
    | finished report => exact ⟨hingest, h.entered, rfl⟩
    | stopped => exact { h with ingest := hingest }

theorem Tied.play (h : s.Tied tie s') (hlasting : tie.Lasting moment moment')
    {turns : List (Turn σ)} {turns' : List (Turn σ')}
    (hturns : List.Forall₂ (Turn.Tied tie) turns turns') :
    s'.replies moment' turns' = s.replies moment turns ∧
      (s.play moment turns).Tied tie (s'.play moment' turns') := by
  induction hturns generalizing s s' with
  | nil => exact ⟨rfl, h⟩
  | cons ht _ ih =>
    obtain ⟨hreply, hnext⟩ := h.turn hlasting ht
    obtain ⟨hreplies, hlast⟩ := ih hnext
    rw [replies, replies, hreply, hreplies]
    exact ⟨rfl, hlast⟩

end Session

end Sessions

end EchoFilter
