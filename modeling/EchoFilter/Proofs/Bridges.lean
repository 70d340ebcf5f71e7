import EchoFilter.Pipeline
import EchoFilter.Proofs.Alone
import EchoFilter.Proofs.Flows

/-!
# Bridges — a pipeline is a detector run alone over its queue

A bridge is a pipeline with what has gone in at its interfaces and come out at its receiver.  Its
steps are turns of a session in front of a channel that is read (`Bridge.Follows`), so the accounts
of sessions are the accounts of bridges, and their senders hear the same (`Follows.heard?`).  What
is new here is that a receiver that goes on reading brings every shutdown to its report.
-/

namespace EchoFilter

/-! ## Steps of a bridge -/

/-- A pipeline in use. -/
structure Bridge where
  pipeline : Pipeline Series
  /-- The frames that joined the queue. -/
  entered : List Frame := []
  /-- The frames that the receiver yielded. -/
  yielded : List Frame := []
  /-- How often a sender was told that its data is no frame. -/
  invalid : Nat := 0
  /-- The report that a shutdown answered with. -/
  told : Option Report := none

namespace Bridge

inductive Step where
  | attach (interface : String)
  | send (i : Nat) (id : UInt32) (bytes : List UInt8) (timestamp : UInt64)
  | sendFrame (i : Nat) (f : Frame)
  | detach (i : Nat)
  | receive
  | settle
  | shutdown

/-- The bridge after a sender's turn. -/
def sent (b : Bridge) (reply : Enqueued) (ingest : Ingest Channel Series) : Bridge :=
  { b with
    pipeline := { b.pipeline with ingest }
    entered := b.entered ++ ingest.inlet.queue.drop b.pipeline.ingest.inlet.queue.length
    invalid := b.invalid + if isFaultReply (.inl reply) then 1 else 0 }

def answered (b : Bridge) : Polled × Pipeline Series → Bridge
  | (.finished report, pipeline) => { b with pipeline, told := some report }
  | (_, pipeline) => { b with pipeline }

-- A sender that is not attached has no turn.
def step (moment : Nat → Moment) (b : Bridge) : Step → Bridge
  | .attach interface =>
    match b.pipeline.attach? interface with
    | some (pipeline, _) => { b with pipeline }
    | none => b
  | .send i id bytes timestamp =>
    match b.pipeline.ingest.inlet.sender? i with
    | some sender =>
      b.sent (b.pipeline.ingest.send sender id bytes timestamp).1
        (b.pipeline.ingest.send sender id bytes timestamp).2.1
    | none => b
  | .sendFrame i f =>
    match b.pipeline.ingest.inlet.sender? i with
    | some _ => b.sent (b.pipeline.ingest.sendFrame f).1 (b.pipeline.ingest.sendFrame f).2
    | none => b
  | .detach i =>
    { b with pipeline := { b.pipeline with ingest :=
        { b.pipeline.ingest with inlet := b.pipeline.ingest.inlet.detach i } } }
  | .receive =>
    { b with
      pipeline := { b.pipeline with ingest :=
        { b.pipeline.ingest with sink := b.pipeline.ingest.sink.receive.2 } }
      yielded := b.yielded ++ b.pipeline.ingest.sink.receive.1.frames }
  | .settle => { b with pipeline := (b.pipeline.settle moment).1 }
  | .shutdown => b.answered ((b.pipeline.shutdown moment).1, (b.pipeline.shutdown moment).2.1)

def play (moment : Nat → Moment) (b : Bridge) (steps : List Step) : Bridge :=
  steps.foldl (step moment) b

/-- What a sender hears in a step. -/
def heard? (b : Bridge) : Step → Option Heard
  | .attach interface => (b.pipeline.attach? interface).map fun _ => .attached interface
  | .send i id bytes timestamp => b.pipeline.ingest.heard? i (.raw id bytes timestamp)
  | .sendFrame i f => b.pipeline.ingest.heard? i (.frame f)
  | .detach _ | .receive | .settle | .shutdown => none

def heard (moment : Nat → Moment) (b : Bridge) : List Step → List Heard
  | [] => []
  | t :: rest => (b.heard? t).toList ++ (b.step moment t).heard moment rest

/-! ## A bridge as a session -/

end Bridge

section Reported

variable {σ ρ : Type} [Recorder ρ] [Sink σ] {moment : Nat → Moment} {monitor : Monitor ρ}
  {s : Session σ ρ}

-- A session reports once, and then nothing is left to poll.
theorem Session.Stands.poll_of_reported (h : s.Stands moment monitor)
    (hreport : s.report?.isSome = true) : s.ingest.poll moment = (.stopped, s.ingest, []) := by
  cases h with
  | ongoing _ _ _ h =>
    rw [h.unreported] at hreport
    cases hreport
  | ended _ _ _ h => exact Ingest.poll_of_ended moment h.task

theorem Session.Stands.report?_poll (h : s.Stands moment monitor) {report : Report}
    (hreport : s.report? = some report) : (s.turn moment .poll).report? = some report := by
  rw [Session.turn, h.poll_of_reported (by rw [hreport]; rfl)]
  exact hreport

end Reported

theorem Ingest.sendFrame_bare {σ ρ : Type} (g : Ingest (Noted σ) ρ) (f : Frame) :
    g.bare.sendFrame f = ((g.sendFrame f).1, (g.sendFrame f).2.bare) := rfl

theorem Ingest.send_bare {σ ρ : Type} [Recorder ρ] (g : Ingest (Noted σ) ρ) (sender : Sender)
    (id : UInt32) (bytes : List UInt8) (timestamp : UInt64) :
    g.bare.send sender id bytes timestamp =
      ((g.send sender id bytes timestamp).1, (g.send sender id bytes timestamp).2.1.bare,
        (g.send sender id bytes timestamp).2.2) := by
  unfold send
  split <;> rfl

namespace Bridge

/-- What a bridge that started with the series `before` has of a session. -/
structure Follows (before : Series) (b : Bridge) (s : Session Channel Series) : Prop where
  ingest : b.pipeline.ingest = s.ingest.bare
  entered : b.entered = s.frames
  report : b.pipeline.report = s.report?
  stopped : b.pipeline.stopped = b.told.isSome
  told : ∀ r, b.told = some r → s.report? = some r
  flows : s.ingest.sink.Flows b.yielded
  released : s.report?.isSome = true → s.ingest.sink.sink.writing = false
  rejected : s.ingest.monitor.recorder.rejected = before.rejected + UInt64.ofNat b.invalid

variable {before : Series} {b : Bridge} {s : Session Channel Series} {moment : Nat → Moment}
  {monitor : Monitor Series}

/-- What channels that are read and the count of rejections have in common: neither judging nor
delivering changes them. -/
def Flowing (yielded : List Frame) (rejected : UInt64) (m : Monitor Series) (s : Noted Channel) :
    Prop :=
  s.Flows yielded ∧ m.recorder.rejected = rejected

theorem keeps_flowing (yielded : List Frame) (rejected : UInt64) :
    Adapter.Keeps (Flowing yielded rejected) where
  judge a f moment h := by
    obtain ⟨hflows, hrejected⟩ := h
    refine ⟨?_, ?_⟩
    · rw [a.judge_sink]
      exact hflows
    · obtain ⟨more, hmeasures, hmore⟩ :=
        Note.measures_of_judged (a.monitor.detector.judge_outcome f moment)
      rw [a.judge_monitor, ← hrejected]
      refine Series.rejected_recordAll _ fun m hm => ?_
      rw [hmeasures, List.mem_cons] at hm
      rcases hm with rfl | hm
      · exact Measure.noConfusion
      · exact (hmore m hm).1
  offer _ _ _ _ _ h hoffer := ⟨h.1.offer hoffer, h.2⟩

theorem Follows.flowing (h : b.Follows before s) :
    Flowing b.yielded (before.rejected + UInt64.ofNat b.invalid) s.ingest.monitor s.ingest.sink :=
  ⟨h.flows, h.rejected⟩

theorem Follows.sent (h : b.Follows before s) (i : Nat) {interface : String} {x : Sending}
    {reply : Enqueued} {ingest : Ingest (Noted Channel) Series}
    (hsends : s.ingest.Sends interface x reply ingest) :
    (b.sent reply ingest.bare).Follows before (s.sentBy i ingest) := by
  obtain ⟨more, hqueue, -, -⟩ := hsends.queue i
  refine ⟨rfl, ?_, h.report, h.stopped, h.told, ?_, ?_, ?_⟩
  · show b.entered ++ ingest.inlet.queue.drop b.pipeline.ingest.inlet.queue.length = _
    rw [Session.frames_sentBy s i hqueue, h.entered, h.ingest, hqueue]
    exact congrArg (s.frames ++ ·) List.drop_left
  · show ingest.sink.Flows b.yielded
    rw [hsends.sink_eq]
    exact h.flows
  · show s.report?.isSome = true → ingest.sink.sink.writing = false
    rw [hsends.sink_eq]
    exact h.released
  · show ingest.monitor.recorder.rejected = before.rejected + UInt64.ofNat (b.invalid + _)
    rw [hsends.monitor_eq, hsends.isFaultReply_eq, UInt64.ofNat_add, ← UInt64.add_assoc,
      ← h.rejected]
    cases x.fault?.isSome with
    | true => rfl
    | false => exact (UInt64.add_zero _).symm

-- Polling a session and settling its pipeline come to the same, report included.
theorem Follows.settle (h : b.Follows before s) (hs : s.Stands moment monitor) :
    Follows before { b with pipeline := (b.pipeline.settle moment).1 } (s.turn moment .poll) := by
  have hpoll : b.pipeline.ingest.poll moment =
      ((s.ingest.poll moment).1, (s.ingest.poll moment).2.1.bare, (s.ingest.poll moment).2.2) := by
    rw [h.ingest, Ingest.poll_bare]
  have hflowing := (keeps_flowing b.yielded _).poll (fun _ _ hf => ⟨hf.1.release, hf.2⟩) moment
    h.flowing
  have htold : ∀ r, b.told = some r → (s.turn moment .poll).report? = some r :=
    fun r hr => hs.report?_poll (h.told r hr)
  have hreleased : ∀ r, (s.ingest.poll moment).1 = .finished r →
      (s.ingest.poll moment).2.1.sink.sink.writing = false := by
    intro r hr
    obtain ⟨sink, hsink⟩ := Ingest.sink_of_finished hr
    rw [hsink]
    rfl
  have hstill : s.report?.isSome = true → (s.ingest.poll moment).2.1.sink.sink.writing = false := by
    intro hreport
    rw [hs.poll_of_reported hreport]
    exact h.released hreport
  rw [Session.turn] at htold ⊢
  unfold Pipeline.settle
  rw [hpoll]
  generalize s.ingest.poll moment = polled at *
  obtain ⟨answer, g, events⟩ := polled
  cases answer with
  | finished report =>
    exact ⟨rfl, h.entered, rfl, h.stopped, htold, hflowing.1, fun _ => hreleased report rfl,
      hflowing.2⟩
  | pending | stopped =>
    exact ⟨rfl, h.entered, h.report, h.stopped, htold, hflowing.1, hstill, hflowing.2⟩

/-- The bridge once its pipeline's own handle is gone. -/
def dropped (b : Bridge) : Bridge :=
  { b with pipeline := { b.pipeline with ingest :=
      { b.pipeline.ingest with inlet := b.pipeline.ingest.inlet.dropHandle } } }

def tell (b : Bridge) : Bridge :=
  match b.pipeline.report with
  | some report => { b with pipeline := { b.pipeline with stopped := true }, told := some report }
  | none => b

theorem step_of_stopped (hstopped : b.pipeline.stopped = true) : b.step moment .shutdown = b := by
  rw [step]
  unfold Pipeline.shutdown
  rw [if_pos hstopped]
  rfl

theorem step_of_not_stopped (hstopped : b.pipeline.stopped = false) :
    b.step moment .shutdown = (b.dropped.step moment .settle).tell := by
  have hnot : ¬b.pipeline.stopped = true := by simp [hstopped]
  rw [step, step]
  unfold Pipeline.shutdown tell
  rw [if_neg hnot]
  dsimp only [dropped]
  generalize (Pipeline.settle _ moment : Pipeline Series × List Event) = settled
  cases settled.1.report with
  | none => rfl
  | some report => rfl

theorem Follows.tell (h : b.Follows before s) : b.tell.Follows before s := by
  unfold Bridge.tell
  cases hreport : b.pipeline.report with
  | none => exact h
  | some report =>
    have hsame := hreport.symm.trans h.report
    refine ⟨h.ingest, h.entered, hreport.trans hsame, rfl, fun r hr => ?_, h.flows, h.released,
      h.rejected⟩
    cases hr
    exact hsame.symm

/-- The turns of a session that make a step. -/
def turns (b : Bridge) : Step → List (Turn Channel)
  | .attach interface => [.attach interface]
  | .send i id bytes timestamp => [.send i id bytes timestamp]
  | .sendFrame i f => [.sendFrame i f]
  | .detach i => [.detach i]
  | .receive => [.stir fun c => c.receive.2]
  | .settle => [.poll]
  | .shutdown => if b.pipeline.stopped then [] else [.dropHandle, .poll]

theorem Follows.shutdown (h : b.Follows before s) (hs : s.Stands moment monitor) :
    Follows before (b.step moment .shutdown) (s.play moment (b.turns .shutdown)) := by
  rw [turns]
  cases hstopped : b.pipeline.stopped with
  | true =>
    rw [step_of_stopped hstopped]
    exact h
  | false =>
    have hdropped : Follows before b.dropped (s.turn moment .dropHandle) := by
      rw [dropped, h.ingest]
      exact ⟨rfl, h.entered, h.report, h.stopped, h.told, h.flows, h.released, h.rejected⟩
    have hsettled := hdropped.settle (hs.turn .dropHandle)
    rw [step_of_not_stopped hstopped]
    exact hsettled.tell

theorem Follows.handle (h : b.Follows before s) :
    b.pipeline.ingest.inlet.handle = s.ingest.inlet.handle := by
  rw [h.ingest]
  rfl

theorem Follows.sender? (h : b.Follows before s) (i : Nat) :
    b.pipeline.ingest.inlet.sender? i = s.ingest.inlet.sender? i := by
  rw [h.ingest]
  rfl

theorem Follows.step (h : b.Follows before s) (hs : s.Stands moment monitor) (t : Step) :
    Follows before (b.step moment t) (s.play moment (b.turns t)) := by
  cases t with
  | attach interface =>
    show Follows before _ (s.turn moment (.attach interface))
    rw [Bridge.step, Session.turn, Pipeline.attach?, Ingest.attach?, Ingest.attach?, h.handle]
    cases s.ingest.inlet.handle with
    | true =>
      rw [h.ingest]
      exact ⟨rfl, h.entered, h.report, h.stopped, h.told, h.flows, h.released, h.rejected⟩
    | false => exact h
  | send i id bytes timestamp =>
    show Follows before _ (s.turn moment (.send i id bytes timestamp))
    rw [Bridge.step, Session.turn, h.sender?]
    cases s.ingest.inlet.sender? i with
    | none => exact h
    | some sender =>
      have hsent := h.sent i (s.ingest.sends_send sender id bytes timestamp)
      dsimp only
      rw [h.ingest, Ingest.send_bare]
      exact hsent
  | sendFrame i f =>
    show Follows before _ (s.turn moment (.sendFrame i f))
    rw [Bridge.step, Session.turn, h.sender?]
    cases s.ingest.inlet.sender? i with
    | none => exact h
    | some sender =>
      have hsent := h.sent i (s.ingest.sends_sendFrame sender.interface f)
      dsimp only
      rw [h.ingest, Ingest.sendFrame_bare]
      exact hsent
  | detach i =>
    show Follows before _ (s.turn moment (.detach i))
    rw [Bridge.step, h.ingest]
    exact ⟨rfl, h.entered, h.report, h.stopped, h.told, h.flows, h.released, h.rejected⟩
  | receive =>
    show Follows before _ (s.turn moment (.stir fun c => c.receive.2))
    rw [Bridge.step, h.ingest]
    refine ⟨rfl, h.entered, h.report, h.stopped, h.told, h.flows.receive, fun hreport => ?_,
      h.rejected⟩
    rw [← h.released hreport]
    exact s.ingest.sink.sink.writing_receive
  | settle => exact h.settle hs
  | shutdown => exact h.shutdown hs

-- Senders hear the same at the session: the rest of a bridge is silent to them.
theorem Follows.heard? (h : b.Follows before s) (moment : Nat → Moment) (t : Step) :
    s.heard moment (b.turns t) = (b.heard? t).toList := by
  cases t with
  | attach interface =>
    show (s.heard? (.attach interface)).toList ++ [] = _
    rw [List.append_nil, Session.heard?, Bridge.heard?, Pipeline.attach?, Ingest.attach?,
      Ingest.attach?, h.handle]
    cases s.ingest.inlet.handle <;> rfl
  | send i id bytes timestamp =>
    show (s.heard? (.send i id bytes timestamp)).toList ++ [] = _
    rw [List.append_nil, Session.heard?, Bridge.heard?, Ingest.heard?, Ingest.heard?, h.sender?,
      h.ingest]
    simp only [Ingest.send_bare]
  | sendFrame i f =>
    show (s.heard? (.sendFrame i f)).toList ++ [] = _
    rw [List.append_nil, Session.heard?, Bridge.heard?, h.ingest]
    rfl
  | detach | receive | settle => rfl
  | shutdown =>
    rw [turns]
    cases b.pipeline.stopped <;> rfl

theorem Follows.play (h : b.Follows before s) (hs : s.Stands moment monitor)
    (steps : List Step) :
    ∃ turns, Follows before (b.play moment steps) (s.play moment turns) ∧
      s.heard moment turns = b.heard moment steps := by
  induction steps generalizing b s with
  | nil => exact ⟨[], h, rfl⟩
  | cons t rest ih =>
    obtain ⟨more, hlast, hheard⟩ := ih (h.step hs t) (hs.play (b.turns t))
    refine ⟨b.turns t ++ more, ?_, ?_⟩
    · rw [Session.play, List.foldl_append]
      exact hlast
    · rw [Session.heard_append, h.heard?, hheard]
      rfl

/-! ## What the senders have heard -/

/-- The queue was fed as the senders have heard: what was answered with `sent`, and nothing else,
has joined, each as the frame that its sender makes of it; and what is no frame was counted. -/
structure FedBy (b : Bridge) (heard : List Heard) : Prop where
  entered : List.Forall₂ (fun x f => Sending.Enters (Heard.interfaces heard) x (x.1, f))
    (Heard.accepted heard) b.entered
  invalid : b.invalid = heard.countP Heard.isFault

theorem reply_of_heard? {t : Step} {i : Nat} {x : Sending} {reply : Enqueued}
    (h : b.heard? t = some (.answered i x reply)) :
    reply = b.pipeline.ingest.inlet.answerTo x := by
  cases t with
  | attach interface =>
    obtain ⟨_, -, hheard⟩ := Option.map_eq_some_iff.1 h
    cases hheard
  | send j id bytes timestamp =>
    have hheard : b.pipeline.ingest.heard? j (.raw id bytes timestamp) = _ := h
    exact Ingest.reply_of_heard? hheard
  | sendFrame j f =>
    have hheard : b.pipeline.ingest.heard? j (.frame f) = _ := h
    exact Ingest.reply_of_heard? hheard
  | detach | receive | settle | shutdown => cases h

theorem entered_answered (b : Bridge) (x : Polled × Pipeline Series) :
    (b.answered x).entered = b.entered := by
  obtain ⟨answer, pipeline⟩ := x
  cases answer <;> rfl

theorem invalid_answered (b : Bridge) (x : Polled × Pipeline Series) :
    (b.answered x).invalid = b.invalid := by
  obtain ⟨answer, pipeline⟩ := x
  cases answer <;> rfl

theorem invalid_sent {interface : String} {x : Sending} {reply : Enqueued}
    {ingest : Ingest Channel Series} (hsends : b.pipeline.ingest.Sends interface x reply ingest)
    (i : Nat) :
    (b.sent reply ingest).invalid = b.invalid + [.answered i x reply].countP Heard.isFault := by
  show b.invalid + (if isFaultReply (.inl reply) then 1 else 0) = _
  rw [hsends.isFaultReply_eq, List.countP_singleton]
  rfl

theorem invalid_step (b : Bridge) (moment : Nat → Moment) (t : Step) :
    (b.step moment t).invalid = b.invalid + (b.heard? t).toList.countP Heard.isFault := by
  cases t with
  | attach interface =>
    rw [step, heard?]
    cases b.pipeline.attach? interface <;> rfl
  | send i id bytes timestamp =>
    rw [step, heard?, Ingest.heard?]
    cases b.pipeline.ingest.inlet.sender? i with
    | none => rfl
    | some sender => exact invalid_sent (b.pipeline.ingest.sends_send sender id bytes timestamp) i
  | sendFrame i f =>
    rw [step, heard?, Ingest.heard?]
    cases b.pipeline.ingest.inlet.sender? i with
    | none => rfl
    | some sender => exact invalid_sent (b.pipeline.ingest.sends_sendFrame sender.interface f) i
  | detach | receive | settle => rfl
  | shutdown => exact b.invalid_answered _

theorem invalid_play (b : Bridge) (moment : Nat → Moment) (steps : List Step) :
    (b.play moment steps).invalid = b.invalid + (b.heard moment steps).countP Heard.isFault := by
  induction steps generalizing b with
  | nil => rfl
  | cons t rest ih =>
    have hrest := ih (b.step moment t)
    rw [invalid_step, Nat.add_assoc, ← List.countP_append] at hrest
    exact hrest

theorem Follows.forall₂_entered (h : b.Follows before s) {heard : List Heard}
    (hfed : s.FedBy heard) :
    List.Forall₂ (fun x f => Sending.Enters (Heard.interfaces heard) x (x.1, f))
      (Heard.accepted heard) b.entered := by
  rw [h.entered, Session.frames, List.forall₂_map_right_iff]
  refine hfed.entered.imp fun x y henters => ?_
  obtain ⟨hsender, hmakes⟩ := henters
  exact ⟨rfl, hmakes⟩

/-! ## What a bridge has carried -/

/-- What the series show. -/
def series (b : Bridge) : Series :=
  b.pipeline.ingest.monitor.recorder

/-- The detector `d` by itself, after the frames that joined the queue. -/
def alone (d : Detector) (b : Bridge) : Detector :=
  (d.run (b.entered.map .frame)).2

/-- A bridge that was shut down, told by a detector run alone: what was read or can still be read
are the frames it lets pass, and report and series count what it counts. -/
structure Carried (d : Detector) (before : Series) (b : Bridge) (report : Report) : Prop where
  yielded : b.yielded ++ b.pipeline.ingest.sink.buffer = d.firsts b.entered
  received : report.received = b.entered.length
  forwarded : report.forwarded = (d.firsts b.entered).length
  suppressed : report.suppressed = b.entered.length - (d.firsts b.entered).length
  sinkErrors : report.sinkErrors = 0
  shown : (b.alone d).window.Shown before b.series b.entered
  rejected : b.series.rejected = before.rejected + UInt64.ofNat b.invalid

variable {d d₀ : Detector}

theorem Follows.carried (h : b.Follows before s) (hs : s.Stands moment ⟨d₀, before⟩)
    (halike : d₀.Alike d) (hbase : d₀.config.timeBase = .frameArrival)
    (hfresh : d₀.window = .empty) {report : Report} (htold : b.told = some report) :
    b.Carried d before report := by
  have hacc := hs.accounts (h.told report htold)
  -- A channel that takes everything has closed no run.
  have hcause : report.received = s.entered.length ∧
      report.received = report.forwarded + report.suppressed + report.sinkErrors := by
    rcases hacc.cause with ⟨hlength, -, hsum⟩ | ⟨f, -, ⟨answers, hanswered, -⟩, -⟩
    · exact ⟨hlength, hsum⟩
    · have hclosed := h.flows.taken (f, .error .closed) (by simp [hanswered])
      cases hclosed
  have hlength : s.entered.length = b.entered.length := by
    rw [h.entered]
    exact (List.length_map _).symm
  have hall : s.entered.take report.received = s.entered := by
    rw [hcause.1, List.take_length]
  have hnotes : s.notes moment ⟨d₀, before⟩ report = (d₀.watch moment 0 b.entered).1 := by
    rw [Session.notes, Session.frames, ← List.map_take, hall, h.entered]
    rfl
  have hfirsts : s.ingest.sink.answered.map Prod.fst = d.firsts b.entered := by
    rw [hacc.handed, Session.due, hall, ← passed_map, hnotes, halike.firsts_eq hbase moment,
      h.entered]
    rfl
  have hforwarded : report.forwarded = (d.firsts b.entered).length := by
    rw [hacc.forwarded, List.countP_eq_length.2 h.flows.taken, ← hfirsts, List.length_map]
  have hnoerrors : report.sinkErrors = 0 := by
    rw [hacc.sinkErrors, List.countP_eq_zero]
    intro x hx
    have htaken := h.flows.taken x hx
    obtain ⟨f, answer⟩ := x
    cases answer with
    | ok => exact Bool.false_ne_true
    | error e => cases htaken
  have hwindow : (b.alone d).window = (d₀.watch moment 0 b.entered).2.window :=
    (halike.run_frames hbase moment 0 b.entered).2.window
  have hseries : b.series = s.ingest.monitor.recorder := by
    rw [series, h.ingest]
    rfl
  have hrecorder := hacc.recorder
  rw [hnotes] at hrecorder
  exact
    { yielded := by
        rw [← hfirsts, h.flows.order, h.ingest]
        rfl
      received := hcause.1.trans hlength
      forwarded := hforwarded
      suppressed := by omega
      sinkErrors := hnoerrors
      shown := by
        rw [hwindow, hseries]
        exact hrecorder.shown hfresh moment
      rejected := by
        rw [hseries]
        exact h.rejected }

/-! ## Reading to the end -/

/-- A reader that reads and asks for the report, so many times. -/
def rounds : Nat → List Step
  | 0 => []
  | n + 1 => .receive :: .shutdown :: rounds n

/-- Nobody is left to send. -/
def Deserted (b : Bridge) : Prop :=
  b.pipeline.ingest.inlet.senders.any Sender.attached = false

/-- The report is told, and the reader was told that there is no more to read. -/
structure Over (b : Bridge) (report : Report) : Prop where
  told : b.told = some report
  read : b.pipeline.ingest.sink.receive.1 = .disconnected

theorem Over.buffer {report : Report} (h : b.Over report) :
    b.pipeline.ingest.sink.buffer = [] := by
  have hread := h.read
  unfold Channel.receive at hread
  cases hbuffer : b.pipeline.ingest.sink.buffer with
  | nil => rfl
  | cons f rest =>
    rw [hbuffer] at hread
    cases hread

-- Once the report is told, every round is one reading.
theorem Follows.exists_over_of_told (h : b.Follows before s) (hs : s.Stands moment monitor)
    {report : Report} (htold : b.told = some report) :
    ∃ n, (b.play moment (rounds n)).Over report ∧
      (b.play moment (rounds n)).entered = b.entered := by
  generalize hbuffer : b.pipeline.ingest.sink.buffer = buffer
  induction buffer generalizing b s with
  | nil =>
    have hreleased : b.pipeline.ingest.sink.writing = false := by
      rw [h.ingest]
      exact h.released (by rw [h.told report htold]; rfl)
    refine ⟨0, ⟨htold, ?_⟩, rfl⟩
    show b.pipeline.ingest.sink.receive.1 = .disconnected
    unfold Channel.receive
    rw [hbuffer, hreleased]
    rfl
  | cons f rest ih =>
    have hread := h.step hs .receive
    have hstopped : (b.step moment .receive).pipeline.stopped = true := by
      rw [hread.stopped]
      show b.told.isSome = true
      rw [htold]
      rfl
    have hrest : (b.step moment .receive).pipeline.ingest.sink.buffer = rest := by
      show b.pipeline.ingest.sink.receive.2.buffer = rest
      unfold Channel.receive
      rw [hbuffer]
    obtain ⟨n, hover, hentered⟩ := ih hread (hs.play _) htold hrest
    refine ⟨n + 1, ?_⟩
    show ((((b.step moment .receive).step moment .shutdown).play moment (rounds n)).Over report) ∧
      (((b.step moment .receive).step moment .shutdown).play moment (rounds n)).entered = b.entered
    rw [step_of_stopped hstopped]
    exact ⟨hover, hentered⟩

theorem ingest_settle (p : Pipeline Series) :
    (p.settle moment).1.ingest = (p.ingest.poll moment).2.1 := by
  unfold Pipeline.settle
  generalize p.ingest.poll moment = polled
  obtain ⟨answer, g, events⟩ := polled
  cases answer <;> rfl

theorem report_settle (p : Pipeline Series) :
    (p.settle moment).1.report = match (p.ingest.poll moment).1 with
      | .finished report => some report
      | .pending | .stopped => p.report := by
  unfold Pipeline.settle
  generalize p.ingest.poll moment = polled
  obtain ⟨answer, g, events⟩ := polled
  cases answer <;> rfl

theorem ingest_tell (b : Bridge) : b.tell.pipeline.ingest = b.pipeline.ingest := by
  unfold tell
  cases b.pipeline.report <;> rfl

theorem told_tell {report : Report} (h : b.pipeline.report = some report) :
    b.tell.told = some report := by
  unfold tell
  rw [h]

-- The frame in hand finds room, so a shutdown ends the run or takes another frame off the queue.
theorem Follows.told_or_shorter (h : b.Follows before s) (hs : s.Stands moment monitor)
    (hgone : b.Deserted) (hstopped : b.pipeline.stopped = false)
    (hfree : b.pipeline.ingest.sink.buffer.length < b.pipeline.ingest.sink.capacity) :
    (∃ report, (b.step moment .shutdown).told = some report) ∨
      (b.step moment .shutdown).pipeline.ingest.inlet.queue.length <
        b.pipeline.ingest.inlet.queue.length := by
  have hreading : b.pipeline.ingest.sink.reading = true := by
    rw [h.ingest]
    exact h.flows.reading
  have htakes : ∀ (a : Adapter Channel Series) f, a.sink = b.dropped.pipeline.ingest.sink →
      a.deliver f ≠ .busy := by
    intro a f ha
    have hsink : a.sink = b.pipeline.ingest.sink := ha
    have hoffer : Sink.offer a.sink f =
        some (.ok (), { a.sink with buffer := a.sink.buffer ++ [f] }) := by
      rw [hsink]
      show (if _ then _ else _) = _
      rw [if_neg (by simp [hreading]), if_pos hfree]
    unfold Adapter.deliver
    rw [hoffer]
    exact fun hbusy => nomatch hbusy
  have hclosed : b.dropped.pipeline.ingest.inlet.isOpen = false := hgone
  rw [step_of_not_stopped hstopped, ingest_tell, Bridge.step, ingest_settle]
  rcases Ingest.poll_shrinks moment hclosed htakes with ⟨report, hfinished⟩ | htask | hshorter
  · refine Or.inl ⟨report, told_tell ?_⟩
    rw [report_settle, hfinished]
  · -- The run had ended before, and the report was kept.
    have hended : s.ingest.task = .ended := by
      have htask' : b.pipeline.ingest.task = .ended := htask
      rw [h.ingest] at htask'
      exact htask'
    cases hs with
    | ongoing _ _ _ hongoing =>
      have hstage := hongoing.stage
      rw [hended] at hstage
      cases hstage
    | ended report _ _ hended' =>
      refine Or.inl ⟨report, told_tell ?_⟩
      rw [report_settle, Ingest.poll_of_ended moment htask]
      exact h.report.trans hended'.reported
  · exact Or.inr hshorter

theorem Deserted.shutdown (h : b.Deserted) : (b.step moment .shutdown).Deserted := by
  cases hstopped : b.pipeline.stopped with
  | true =>
    rw [step_of_stopped hstopped]
    exact h
  | false =>
    rw [step_of_not_stopped hstopped, Deserted, ingest_tell, step, ingest_settle,
      Ingest.senders_poll]
    exact h

/-- A reader that goes on reading brings a bridge that nobody sends to any more to its end. -/
theorem Follows.exists_over (h : b.Follows before s) (hs : s.Stands moment monitor)
    (hgone : b.Deserted) :
    ∃ n report, (b.play moment (rounds n)).Over report ∧
      (b.play moment (rounds n)).entered = b.entered := by
  induction hqueue : b.pipeline.ingest.inlet.queue.length using Nat.strong_induction_on
    generalizing b s with
  | _ m ih =>
    cases htold : b.told with
    | some report =>
      obtain ⟨n, hover⟩ := h.exists_over_of_told hs htold
      exact ⟨n, report, hover⟩
    | none =>
      have hread := h.step hs .receive
      have hs₁ := hs.play (b.turns .receive)
      have hasked := hread.step hs₁ .shutdown
      have hs₂ := hs₁.play ((b.step moment .receive).turns .shutdown)
      have hstopped : (b.step moment .receive).pipeline.stopped = false := by
        rw [hread.stopped]
        show b.told.isSome = false
        rw [htold]
        rfl
      have hfree : (b.step moment .receive).pipeline.ingest.sink.buffer.length <
          (b.step moment .receive).pipeline.ingest.sink.capacity := by
        have hroom := h.flows.free
        rw [show s.ingest.sink.sink = b.pipeline.ingest.sink by rw [h.ingest]; rfl] at hroom
        exact hroom
      have hgone' : (b.step moment .receive).Deserted := hgone
      have hentered : ((b.step moment .receive).step moment .shutdown).entered = b.entered :=
        (b.step moment .receive).entered_answered _
      rcases hread.told_or_shorter hs₁ hgone' hstopped hfree with ⟨report, htold'⟩ | hshorter
      · obtain ⟨n, hover, hsame⟩ := hasked.exists_over_of_told hs₂ htold'
        exact ⟨n + 1, report, hover, hsame.trans hentered⟩
      · subst hqueue
        obtain ⟨n, report, hover, hsame⟩ := ih _ hshorter hasked hs₂ hgone'.shutdown rfl
        exact ⟨n + 1, report, hover, hsame.trans hentered⟩

end Bridge

/-! ## Starting from settings -/

/-- The configuration that settings make for a detector in a pipeline, where frames bring the
time. -/
def Settings.detectorConfig (s : Settings) : Config where
  windowMs := s.windowMs
  maxCacheSize := s.maxCacheSize
  width := s.width
  policy := s.policy
  timeBase := .frameArrival

namespace Pipeline

variable {ρ : Type}

theorem start_of_invalid {s : Settings} (h : s.windowMs = 0 ∨ s.maxCacheSize = 0)
    (channel : Channel) (recorder : ρ) : ∃ e, start s channel recorder = .error e := by
  unfold start
  rw [s.filterConfig_eq]
  by_cases hwindow : s.windowMs = 0
  · rw [if_pos hwindow]
    exact ⟨_, rfl⟩
  · rw [if_neg hwindow, if_pos (h.resolve_left hwindow)]
    exact ⟨_, rfl⟩

theorem start_of_valid {s : Settings} (h : ¬(s.windowMs = 0 ∨ s.maxCacheSize = 0))
    (channel : Channel) (recorder : ρ) :
    ∃ (hvalid : s.detectorConfig.Valid) (p : Pipeline ρ) (events : List Event),
      start s channel recorder = .ok (p, events) ∧
        p = { ingest := .create { detector := .initial s.detectorConfig hvalid default, recorder }
                channel s.ingestQueue.toNat } := by
  rw [not_or] at h
  have hvalid : s.detectorConfig.Valid := by
    rw [← Config.validate_eq_ok_iff]
    show (if s.windowMs = 0 then _ else if s.maxCacheSize = 0 then _ else _) = _
    rw [if_neg h.1, if_neg h.2]
  have hcreate :
      Detector.create {
        windowMs := s.windowMs, maxCacheSize := s.maxCacheSize, width := s.width
        policy := s.policy, timeBase := .frameArrival } =
      .ok (.initial s.detectorConfig hvalid default) :=
    Detector.create_of_valid s.detectorConfig default hvalid
  unfold start
  rw [s.filterConfig_eq, if_neg h.1, if_neg h.2]
  dsimp only
  rw [hcreate]
  exact ⟨hvalid, _, _, rfl, rfl⟩

end Pipeline

namespace Bridge

def opened (p : Pipeline Series) : Bridge where
  pipeline := p

theorem follows_opened (monitor : Monitor Series) (capacity ingestQueue : Nat) :
    (opened { ingest := .create monitor (.ofCapacity capacity) ingestQueue }).Follows
      monitor.recorder (Session.start monitor (.ofCapacity capacity) ingestQueue) where
  ingest := rfl
  entered := rfl
  report := rfl
  stopped := rfl
  told _ h := nomatch h
  flows := ⟨rfl, Nat.le_max_right capacity 1, Nat.zero_le _, fun _ h => (nomatch h), rfl⟩
  released h := nomatch h
  rejected := (UInt64.add_zero _).symm

/-- **A pipeline is a detector run alone over its queue.**  It starts exactly when window and bound
are above zero.  Then, whatever its senders, its reader and the clock do, and whatever the
capacities, the frames that joined the queue are those of the sendings that were accepted, in this
order, what is no frame is counted, and any sending is answered as the queue stands.  A shutdown
that reports finds what a fresh detector with the same settings makes of those frames, judged in
order by their own stamps; and once nobody is left to send, a reader that goes on reading gets that
report and all frames. -/
theorem carries_as_detector_alone (s : Settings) :
    (∀ (channel : Channel) (before : Series),
      (∃ e, Pipeline.start s channel before = .error e) ↔ s.windowMs = 0 ∨ s.maxCacheSize = 0) ∧
    ∀ (capacity : Nat) (before : Series) (p : Pipeline Series) (events : List Event)
        (clock : Clock),
      Pipeline.start s (.ofCapacity capacity) before = .ok (p, events) →
      ∃ d, Detector.create s.detectorConfig clock = .ok d ∧
        ∀ (moment : Nat → Moment) (steps : List Step),
          ((opened p).play moment steps).FedBy ((opened p).heard moment steps) ∧
          (∀ t i x reply, ((opened p).play moment steps).heard? t = some (.answered i x reply) →
            reply = ((opened p).play moment steps).pipeline.ingest.inlet.answerTo x) ∧
          (∀ report, ((opened p).play moment steps).told = some report →
            ((opened p).play moment steps).Carried d before report) ∧
          (((opened p).play moment steps).Deserted → ∃ n report,
            ((opened p).play moment (steps ++ rounds n)).Over report ∧
            ((opened p).play moment (steps ++ rounds n)).yielded =
              d.firsts ((opened p).play moment steps).entered) := by
  refine ⟨fun channel before => ⟨fun ⟨e, he⟩ => ?_, fun h => ?_⟩,
    fun capacity before p events clock hstart => ?_⟩
  · by_contra hvalid
    obtain ⟨_, _, _, hok, -⟩ := Pipeline.start_of_valid hvalid channel before
    rw [hok] at he
    cases he
  · exact Pipeline.start_of_invalid h channel before
  · have hnonzero : ¬(s.windowMs = 0 ∨ s.maxCacheSize = 0) := by
      intro h
      obtain ⟨e, he⟩ := Pipeline.start_of_invalid h (.ofCapacity capacity) before
      rw [he] at hstart
      cases hstart
    obtain ⟨hvalid, _, _, hok, rfl⟩ :=
      Pipeline.start_of_valid hnonzero (.ofCapacity capacity) before
    rw [hok] at hstart
    cases hstart
    refine ⟨_, Detector.create_of_valid s.detectorConfig clock hvalid, fun moment steps => ?_⟩
    -- The clock that the pipeline's detector was made with is not looked at.
    have halike : Detector.Alike (.initial s.detectorConfig hvalid default)
        (.initial s.detectorConfig hvalid clock) := ⟨rfl, rfl, fun hbase => nomatch hbase⟩
    have hstart := Session.stands_start moment
      ⟨.initial s.detectorConfig hvalid default, before⟩ (Channel.ofCapacity capacity)
      s.ingestQueue.toNat
    obtain ⟨turns, hfollows, hheard⟩ := (follows_opened
      ⟨.initial s.detectorConfig hvalid default, before⟩ capacity s.ingestQueue.toNat).play
        hstart steps
    have hstands := hstart.play turns
    have hfed := (Session.fedBy_start
      ⟨.initial s.detectorConfig hvalid default, before⟩ (Channel.ofCapacity capacity)
      s.ingestQueue.toNat).play moment turns
    rw [List.nil_append, hheard] at hfed
    refine ⟨⟨hfollows.forall₂_entered hfed, (invalid_play _ moment steps).trans (Nat.zero_add _)⟩,
      fun _ _ _ _ => reply_of_heard?,
      fun report htold => hfollows.carried hstands halike rfl rfl htold, fun hgone => ?_⟩
    obtain ⟨n, report, hover, hentered⟩ := hfollows.exists_over hstands hgone
    obtain ⟨turns', hfollows', -⟩ := hfollows.play hstands (rounds n)
    have hstands' := hstands.play turns'
    have hcarried := (hfollows'.carried hstands' halike rfl rfl hover.told).yielded
    refine ⟨n, report, ?_⟩
    rw [hover.buffer, List.append_nil, hentered] at hcarried
    rw [play, List.foldl_append]
    exact ⟨hover, hcarried⟩

/-- Three frames, one a repeat, and raw data that is none, in front of a channel that holds one: the
first shutdown has to wait for the reader. -/
theorem carries_as_detector_alone_full_channel :
    ∃ p events d steps b,
      Pipeline.start ⟨50, 2, .bits32, .recency, 4, {}⟩ (.ofCapacity 1) Series.zero =
        .ok (p, events) ∧
      Detector.create ⟨50, 2, .bits32, .recency, .frameArrival⟩ ⟨7⟩ = .ok d ∧
      steps = [.attach "can0", .send 0 0x123 [1] 100, .send 0 0x123 [1] 105,
        .send 0 0x20000000 [] 106, .attach "can1", .send 1 0x124 [2] 110, .detach 0, .detach 1,
        .shutdown, .receive, .shutdown, .receive] ∧
      (opened p).play (fun _ => { clock := ⟨0⟩ }) steps = b ∧
      b.FedBy ((opened p).heard (fun _ => { clock := ⟨0⟩ }) steps) ∧
      b.invalid = 1 ∧
      b.told = some ⟨3, 2, 1, 0⟩ ∧
      b.Carried d Series.zero ⟨3, 2, 1, 0⟩ ∧
      (b.yielded.map fun f => (f.id.raw, f.payload.bytes, f.timestamp, f.interface)) =
        [(0x123, [1], 100, "can0"), (0x124, [2], 110, "can1")] ∧
      ∃ n report, ((opened p).play (fun _ => { clock := ⟨0⟩ })
        (steps.take 8 ++ rounds n)).Over report := by
  obtain ⟨hvalid, p, events, hok, hp⟩ := Pipeline.start_of_valid
    (s := ⟨50, 2, .bits32, .recency, 4, {}⟩) (by decide) (.ofCapacity 1) Series.zero
  have hclosed : p = { ingest := .create ⟨.initial ⟨50, 2, .bits32, .recency, .frameArrival⟩
      (by decide) default, Series.zero⟩ (.ofCapacity 1) 4 } := hp
  obtain ⟨d, hd, hrun⟩ := (carries_as_detector_alone ⟨50, 2, .bits32, .recency, 4, {}⟩).2 1
    Series.zero p events ⟨7⟩ hok
  obtain ⟨steps, hsteps⟩ : ∃ steps : List Step, steps = [.attach "can0", .send 0 0x123 [1] 100,
      .send 0 0x123 [1] 105, .send 0 0x20000000 [] 106, .attach "can1", .send 1 0x124 [2] 110,
      .detach 0, .detach 1, .shutdown, .receive, .shutdown, .receive] := ⟨_, rfl⟩
  have htold : ((opened p).play (fun _ => { clock := ⟨0⟩ }) steps).told = some ⟨3, 2, 1, 0⟩ := by
    rw [hclosed, hsteps]
    decide +kernel
  have hgone : ((opened p).play (fun _ => { clock := ⟨0⟩ }) (steps.take 8)).Deserted := by
    rw [hclosed, hsteps]
    rfl
  obtain ⟨n, report, hover, -⟩ := (hrun _ _).2.2.2 hgone
  exact ⟨p, events, d, steps, _, hok, hd, hsteps, rfl, (hrun _ _).1,
    by rw [hclosed, hsteps]; decide +kernel, htold, (hrun _ _).2.2.1 _ htold,
    by rw [hclosed, hsteps]; decide +kernel, n, report, hover⟩

end Bridge

end EchoFilter
