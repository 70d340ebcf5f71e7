import EchoFilter.Proofs.Deliveries
import EchoFilter.Proofs.Sendings

/-!
# Sessions — nothing is lost, repeated or reordered between the queue and the sink

A session is an ingest with the world around it: senders come, send and go, the sink is stirred from
outside, and the adapter is polled, in any order of turns.  It writes down which sender each frame
of the queue came from and, by `Noted`, what the sink answered.  `Session.Stands` is what every turn
keeps, and `Session.FedBy` ties what is written down to what the senders have heard.
`loses_nothing` reads off both what a session comes to once its run has ended.
-/

namespace EchoFilter

variable {σ ρ : Type}

/-- The report and the kept frame with which a task goes on. -/
def Task.stage? : Task → Option (Report × Option Frame)
  | .fresh => some ({}, none)
  | .waiting report kept => some (report, kept)
  | .ended => none

theorem Task.eq_ended_of_stage? {t : Task} (h : t.stage? = none) : t = .ended := by
  cases t with
  | fresh | waiting _ _ => cases h
  | ended => rfl

/-! ## Polls -/

namespace Ingest

variable [Recorder ρ]

def adapter (g : Ingest σ ρ) (report : Report) : Adapter σ ρ :=
  { monitor := g.monitor, sink := g.sink, report }

variable [Sink σ]

def after (g : Ingest σ ρ) (d : Drained σ ρ) (task : Task) : Ingest σ ρ :=
  { g with
    monitor := d.adapter.monitor
    sink := d.adapter.sink
    inlet := { g.inlet with queue := d.rest }
    task }

/-- What a poll of a task that has not ended makes of a run. -/
def settled (g : Ingest σ ρ) (d : Drained σ ρ) : Polled × Ingest σ ρ :=
  match d.halt with
  -- The frame in hand is part of the task, so no frame is on the way between two polls.
  | .held f => (.pending, g.after d (.waiting d.adapter.report (some f)))
  | .closed => (.finished d.adapter.report, (g.after d g.task).finish)
  | .drained =>
    if g.inlet.isOpen then (.pending, g.after d (.waiting d.adapter.report none))
    else (.finished d.adapter.report, (g.after d g.task).finish)

theorem poll_of_stage (moment : Nat → Moment) {g : Ingest σ ρ} {report : Report}
    {kept : Option Frame} (h : g.task.stage? = some (report, kept)) :
    ((g.poll moment).1, (g.poll moment).2.1) =
      g.settled ((g.adapter report).resume moment kept g.inlet.queue) := by
  obtain ⟨monitor, sink, inlet, task⟩ := g
  -- A fresh task differs from a waiting one in its first event alone.
  cases task with
  | fresh | waiting _ _ =>
    cases h
    unfold poll settled adapter
    dsimp only
    generalize (Adapter.resume moment _ _ _ : Drained σ ρ) = d
    have hopen : ({ inlet with queue := d.rest } : Inlet).isOpen = inlet.isOpen := rfl
    rw [hopen]
    cases d.halt with
    | held f => rfl
    | closed => rfl
    | drained => cases inlet.isOpen <;> rfl
  | ended => cases h

theorem poll_of_ended (moment : Nat → Moment) {g : Ingest σ ρ} (h : g.task = .ended) :
    g.poll moment = (.stopped, g, []) := by
  unfold poll
  rw [h]

/-- What a poll can answer, and the ingest it can leave. -/
inductive Polls (moment : Nat → Moment) (g : Ingest σ ρ) : Polled → Ingest σ ρ → Prop where
  | stopped (htask : g.task = .ended) : Polls moment g .stopped g
  | waits {report : Report} {kept : Option Frame} {d : Drained σ ρ} (task : Task)
      (hrun : (g.adapter report).resume moment kept g.inlet.queue = d)
      (hhalt : (∃ f, d.halt = .held f) ∨ g.inlet.isOpen = true) :
      Polls moment g .pending (g.after d task)
  | ends {report : Report} {kept : Option Frame} {d : Drained σ ρ}
      (hrun : (g.adapter report).resume moment kept g.inlet.queue = d) :
      Polls moment g (.finished d.adapter.report) (g.after d g.task).finish

theorem polls (moment : Nat → Moment) (g : Ingest σ ρ) :
    g.Polls moment (g.poll moment).1 (g.poll moment).2.1 := by
  cases hstage : g.task.stage? with
  | none =>
    have htask := Task.eq_ended_of_stage? hstage
    rw [poll_of_ended moment htask]
    exact .stopped htask
  | some stage =>
    obtain ⟨report, kept⟩ := stage
    have hpoll := poll_of_stage moment hstage
    generalize hrun : (g.adapter report).resume moment kept g.inlet.queue = d at hpoll
    unfold settled at hpoll
    rw [Prod.ext_iff] at hpoll
    obtain ⟨hanswer, hnext⟩ := hpoll
    dsimp only at hanswer hnext
    rw [hanswer, hnext]
    cases hhalt : d.halt with
    | held f => exact .waits _ hrun (.inl ⟨f, hhalt⟩)
    | closed => exact .ends hrun
    | drained =>
      cases hopen : g.inlet.isOpen with
      | true => exact .waits _ hrun (.inr hopen)
      | false => exact .ends hrun

-- Whoever has a sender keeps it.
theorem senders_poll (moment : Nat → Moment) (g : Ingest σ ρ) :
    (g.poll moment).2.1.inlet.senders = g.inlet.senders := by
  have hpolls := g.polls moment
  generalize g.poll moment = polled at hpolls ⊢
  obtain ⟨answer, g', events⟩ := polled
  cases hpolls with
  | stopped | waits | ends => rfl

end Ingest

def Ingest.bare (g : Ingest (Noted σ) ρ) : Ingest σ ρ :=
  { monitor := g.monitor, sink := g.sink.sink, inlet := g.inlet, task := g.task }

/-- Polling goes as it goes with the sink alone, so what holds of sessions holds of any ingest. -/
theorem Ingest.poll_bare [Recorder ρ] [Sink σ] (moment : Nat → Moment) (g : Ingest (Noted σ) ρ) :
    g.bare.poll moment =
      ((g.poll moment).1, (g.poll moment).2.1.bare, (g.poll moment).2.2) := by
  obtain ⟨monitor, sink, inlet, task⟩ := g
  have hrun (report : Report) (kept : Option Frame) :
      ({ monitor, sink := sink.sink, report } : Adapter σ ρ).resume moment kept inlet.queue =
        (({ monitor, sink, report } : Adapter (Noted σ) ρ).resume moment kept inlet.queue).bare :=
    Adapter.resume_bare { monitor, sink, report } kept inlet.queue
  cases task with
  | fresh | waiting _ _ =>
    unfold poll bare
    dsimp only
    rw [hrun]
    generalize (Adapter.resume moment _ _ _ : Drained (Noted σ) ρ) = d
    have hhalt : d.bare.halt = d.halt := rfl
    have hrest : d.bare.rest = d.rest := rfl
    rw [hhalt, hrest]
    cases d.halt with
    | held f => rfl
    | closed => rfl
    | drained =>
      dsimp only
      split <;> rfl
  | ended => rfl

/-! ## Sessions -/

/-- A sink that answers from a list, and takes whatever comes after that. -/
structure Scripted where
  answers : List Answer

instance : Sink Scripted where
  offer s _ := some (s.answers.headD (.ok ()), { answers := s.answers.tail })

/-- An ingest, what has entered its queue and what it has reported. -/
structure Session (σ ρ : Type) where
  ingest : Ingest (Noted σ) ρ
  /-- The frames that entered the queue, each with the index of its sender. -/
  entered : List (Nat × Frame) := []
  report? : Option Report := none

/-- What can happen in a session. -/
inductive Turn (σ : Type) where
  | attach (interface : String)
  | send (i : Nat) (id : UInt32) (bytes : List UInt8) (timestamp : UInt64)
  | sendFrame (i : Nat) (f : Frame)
  | detach (i : Nat)
  | dropHandle
  -- Whatever happens to a sink besides deliveries: a reader reads, or goes away.
  | stir (act : σ → σ)
  | poll

namespace Session

def start (monitor : Monitor ρ) (sink : σ) (capacity : Nat) : Session σ ρ where
  ingest := .create monitor { sink } capacity

def frames (s : Session σ ρ) : List Frame :=
  s.entered.map Prod.snd

/-- The session after a turn of sender `i`: what the queue has gained came from that sender. -/
def sentBy (s : Session σ ρ) (i : Nat) (ingest : Ingest (Noted σ) ρ) : Session σ ρ :=
  { s with
    ingest
    entered := s.entered ++
      (ingest.inlet.queue.drop s.ingest.inlet.queue.length).map fun f => (i, f) }

def polled (s : Session σ ρ) : Polled × Ingest (Noted σ) ρ → Session σ ρ
  | (.finished report, ingest) => { s with ingest, report? := some report }
  | (_, ingest) => { s with ingest }

variable [Recorder ρ]

-- A sender that is not attached has no turn.
def turn [Sink σ] (moment : Nat → Moment) (s : Session σ ρ) : Turn σ → Session σ ρ
  | .attach interface =>
    match s.ingest.attach? interface with
    | some (ingest, _) => { s with ingest }
    | none => s
  | .send i id bytes timestamp =>
    match s.ingest.inlet.sender? i with
    | some sender => s.sentBy i (s.ingest.send sender id bytes timestamp).2.1
    | none => s
  | .sendFrame i f =>
    match s.ingest.inlet.sender? i with
    | some _ => s.sentBy i (s.ingest.sendFrame f).2
    | none => s
  | .detach i => { s with ingest := { s.ingest with inlet := s.ingest.inlet.detach i } }
  | .dropHandle => { s with ingest := { s.ingest with inlet := s.ingest.inlet.dropHandle } }
  | .stir act =>
    { s with ingest := { s.ingest with
        sink := { s.ingest.sink with sink := act s.ingest.sink.sink } } }
  | .poll => s.polled ((s.ingest.poll moment).1, (s.ingest.poll moment).2.1)

def play [Sink σ] (moment : Nat → Moment) (s : Session σ ρ) (turns : List (Turn σ)) :
    Session σ ρ :=
  turns.foldl (turn moment) s

/-- What a sender hears in a turn. -/
def heard? (s : Session σ ρ) : Turn σ → Option Heard
  | .attach interface => (s.ingest.attach? interface).map fun _ => .attached interface
  | .send i id bytes timestamp => s.ingest.heard? i (.raw id bytes timestamp)
  | .sendFrame i f => s.ingest.heard? i (.frame f)
  | .detach _ | .dropHandle | .stir _ | .poll => none

def heard [Sink σ] (moment : Nat → Moment) (s : Session σ ρ) : List (Turn σ) → List Heard
  | [] => []
  | t :: rest => (s.heard? t).toList ++ (s.turn moment t).heard moment rest

/-! ## What every turn keeps -/

/-- The run has not ended: the frames of the session are those taken and those in the queue. -/
structure Ongoing (moment : Nat → Moment) (monitor : Monitor ρ) (s : Session σ ρ) (report : Report)
    (kept : Option Frame) (taken : List Frame) : Prop where
  stage : s.ingest.task.stage? = some (report, kept)
  unreported : s.report? = none
  frames : s.frames = taken ++ s.ingest.inlet.queue
  books : Books moment monitor taken kept (s.ingest.adapter report)
  isOpen : s.ingest.sink.IsOpen

/-- The run has ended, on an empty queue or on a closed sink, and nothing enters any more. -/
structure Ended (moment : Nat → Moment) (monitor : Monitor ρ) (s : Session σ ρ) (report : Report)
    (taken rest : List Frame) : Prop where
  task : s.ingest.task = .ended
  reported : s.report? = some report
  receiving : s.ingest.inlet.receiving = false
  frames : s.frames = taken ++ rest
  books : Books moment monitor taken none (s.ingest.adapter report)
  cause : (rest = [] ∧ s.ingest.sink.IsOpen) ∨
    ∃ f, taken.getLast? = some f ∧ s.ingest.sink.ClosedBy f

/-- How a session stands between turns. -/
inductive Stands (moment : Nat → Moment) (monitor : Monitor ρ) (s : Session σ ρ) : Prop where
  | ongoing (report : Report) (kept : Option Frame) (taken : List Frame)
      (h : s.Ongoing moment monitor report kept taken)
  | ended (report : Report) (taken rest : List Frame)
      (h : s.Ended moment monitor report taken rest)

theorem stands_start (moment : Nat → Moment) (monitor : Monitor ρ) (sink : σ) (capacity : Nat) :
    (start monitor sink capacity).Stands moment monitor :=
  .ongoing {} none [] ⟨rfl, rfl, rfl, books_start moment monitor sink, fun _ h => nomatch h⟩

omit [Recorder ρ] in
theorem entered_sentBy (s : Session σ ρ) (i : Nat) {ingest : Ingest (Noted σ) ρ}
    {more : List Frame} (hqueue : ingest.inlet.queue = s.ingest.inlet.queue ++ more) :
    (s.sentBy i ingest).entered = s.entered ++ more.map fun f => (i, f) := by
  show s.entered ++ (ingest.inlet.queue.drop _).map _ = _
  rw [hqueue, List.drop_left]

omit [Recorder ρ] in
theorem frames_sentBy (s : Session σ ρ) (i : Nat) {ingest : Ingest (Noted σ) ρ}
    {more : List Frame} (hqueue : ingest.inlet.queue = s.ingest.inlet.queue ++ more) :
    (s.sentBy i ingest).frames = s.frames ++ more := by
  unfold frames
  rw [entered_sentBy s i hqueue, List.map_append, List.map_map]
  exact congrArg _ (List.map_id more)

variable {moment : Nat → Moment} {monitor : Monitor ρ} {s : Session σ ρ} {interface : String}
  {x : Sending} {reply : Enqueued}

theorem books_sends {ingest : Ingest (Noted σ) ρ} (hsends : s.ingest.Sends interface x reply ingest)
    {report : Report} {kept : Option Frame} {taken : List Frame}
    (hb : Books moment monitor taken kept (s.ingest.adapter report)) :
    Books moment monitor taken kept (ingest.adapter report) := by
  unfold Ingest.adapter
  rw [hsends.sink_eq, hsends.monitor_eq]
  cases x.fault?.isSome with
  | true => exact hb.reject
  | false => exact hb

theorem Stands.sentBy (h : s.Stands moment monitor) (i : Nat) {ingest : Ingest (Noted σ) ρ}
    (hsends : s.ingest.Sends interface x reply ingest) :
    (s.sentBy i ingest).Stands moment monitor := by
  obtain ⟨more, hqueue, hmore, -⟩ := hsends.queue i
  cases h with
  | ongoing report kept taken h =>
    exact .ongoing report kept taken
      { stage := (congrArg Task.stage? hsends.task_eq).trans h.stage
        unreported := h.unreported
        frames := by
          rw [frames_sentBy s i hqueue, h.frames, List.append_assoc, ← hqueue]
          rfl
        books := books_sends hsends h.books
        isOpen := by
          show ingest.sink.IsOpen
          rw [hsends.sink_eq]
          exact h.isOpen }
  | ended report taken rest h =>
    exact .ended report taken rest
      { task := hsends.task_eq.trans h.task
        reported := h.reported
        receiving := hsends.receiving_eq.trans h.receiving
        frames := by
          rw [frames_sentBy s i hqueue, hmore h.receiving, List.append_nil]
          exact h.frames
        books := books_sends hsends h.books
        cause := by
          show (_ ∧ ingest.sink.IsOpen) ∨ ∃ f, _ ∧ ingest.sink.ClosedBy f
          rw [hsends.sink_eq]
          exact h.cause }

-- Senders and the handle come and go beside the queue.
theorem Stands.inlet (h : s.Stands moment monitor) (inlet : Inlet)
    (hqueue : inlet.queue = s.ingest.inlet.queue)
    (hreceiving : inlet.receiving = s.ingest.inlet.receiving) :
    Stands moment monitor { s with ingest := { s.ingest with inlet } } := by
  cases h with
  | ongoing report kept taken h =>
    exact .ongoing report kept taken
      { h with frames := h.frames.trans (congrArg (taken ++ ·) hqueue.symm) }
  | ended report taken rest h =>
    exact .ended report taken rest { h with receiving := hreceiving.trans h.receiving }

theorem Stands.stir (h : s.Stands moment monitor) (sink : σ) :
    Stands moment monitor
      { s with ingest := { s.ingest with sink := { s.ingest.sink with sink } } } := by
  cases h with
  | ongoing report kept taken h =>
    exact .ongoing report kept taken { h with books := h.books.stir sink }
  | ended report taken rest h =>
    exact .ended report taken rest { h with books := h.books.stir sink }

theorem Stands.books (h : s.Stands moment monitor) :
    ∃ report kept n, Books moment monitor (s.frames.take n) kept (s.ingest.adapter report) := by
  cases h with
  | ongoing report kept taken h =>
    refine ⟨report, kept, taken.length, ?_⟩
    rw [h.frames, List.take_left]
    exact h.books
  | ended report taken rest h =>
    refine ⟨report, none, taken.length, ?_⟩
    rw [h.frames, List.take_left]
    exact h.books

/-! ## What the senders have heard -/

/-- The queue was fed as the senders have heard: what was answered with `sent`, and nothing else,
has entered, each as the frame that its sender makes of it. -/
structure FedBy (s : Session σ ρ) (heard : List Heard) : Prop where
  interfaces : s.ingest.inlet.senders.map Sender.interface = Heard.interfaces heard
  entered : List.Forall₂ (Sending.Enters (Heard.interfaces heard)) (Heard.accepted heard) s.entered

omit [Recorder ρ] in
theorem fedBy_start (monitor : Monitor ρ) (sink : σ) (capacity : Nat) :
    (start monitor sink capacity).FedBy [] :=
  ⟨rfl, .nil⟩

theorem reply_of_heard? {t : Turn σ} {i : Nat} (h : s.heard? t = some (.answered i x reply)) :
    reply = s.ingest.inlet.answerTo x := by
  cases t with
  | attach interface =>
    obtain ⟨_, -, hheard⟩ := Option.map_eq_some_iff.1 h
    cases hheard
  | send j id bytes timestamp =>
    have hheard : s.ingest.heard? j (.raw id bytes timestamp) = _ := h
    exact Ingest.reply_of_heard? hheard
  | sendFrame j f =>
    have hheard : s.ingest.heard? j (.frame f) = _ := h
    exact Ingest.reply_of_heard? hheard
  | detach | dropHandle | stir | poll => cases h

variable {heard : List Heard}

theorem FedBy.sentBy (h : s.FedBy heard) {i : Nat} {ingest : Ingest (Noted σ) ρ}
    (hsends : s.ingest.Sends interface x reply ingest)
    (hinterface : (Heard.interfaces heard)[i]? = some interface) :
    (s.sentBy i ingest).FedBy (heard ++ [.answered i x reply]) := by
  obtain ⟨more, hqueue, -, hmore⟩ := hsends.queue i
  have hsame : Heard.interfaces (heard ++ [.answered i x reply]) = Heard.interfaces heard := by
    rw [Heard.interfaces_append]
    exact List.append_nil _
  have hjoined : List.Forall₂ (Sending.Enters (Heard.interfaces heard))
      (Heard.accepted [.answered i x reply]) (more.map fun f => (i, f)) := by
    rw [List.forall₂_map_right_iff]
    refine hmore.imp fun a f ⟨hsender, hmakes⟩ => ?_
    exact ⟨hsender.symm, interface, by rw [hsender]; exact hinterface, hmakes⟩
  refine ⟨?_, ?_⟩
  · show ingest.inlet.senders.map Sender.interface = _
    rw [hsends.senders_eq, hsame]
    exact h.interfaces
  · rw [hsame, entered_sentBy s i hqueue, Heard.accepted_append]
    exact List.rel_append h.entered hjoined

omit [Recorder ρ] in
theorem FedBy.attach (h : s.FedBy heard) (interface : String) :
    FedBy { s with ingest := { s.ingest with inlet := s.ingest.inlet.attach interface } }
      (heard ++ [.attached interface]) := by
  have hsame : Heard.accepted (heard ++ [.attached interface]) = Heard.accepted heard := by
    rw [Heard.accepted_append]
    exact List.append_nil _
  refine ⟨?_, ?_⟩
  · show (s.ingest.inlet.senders ++ [_]).map Sender.interface = _
    rw [List.map_append, h.interfaces, Heard.interfaces_append]
    rfl
  · rw [Heard.interfaces_append, hsame]
    exact h.entered.imp fun x y henters => henters.mono [interface]

omit [Recorder ρ] in
-- Everything but attaching and sending comes in here: no sender hears of it.
theorem FedBy.unheard (h : s.FedBy heard) {s' : Session σ ρ} (hentered : s'.entered = s.entered)
    (hsenders : s'.ingest.inlet.senders.map Sender.interface =
      s.ingest.inlet.senders.map Sender.interface) : s'.FedBy (heard ++ []) := by
  rw [List.append_nil]
  exact ⟨hsenders.trans h.interfaces, by rw [hentered]; exact h.entered⟩

/-! ## Accounts -/

def notes (moment : Nat → Moment) (monitor : Monitor ρ) (s : Session σ ρ) (report : Report) :
    List Note :=
  (monitor.detector.watch moment 0 (s.frames.take report.received)).1

-- The senders go with the frames, so that each can be asked for its own.
def due (moment : Nat → Moment) (monitor : Monitor ρ) (s : Session σ ρ) (report : Report) :
    List (Nat × Frame) :=
  passed (s.entered.take report.received) (s.notes moment monitor report)

/-- What a run comes to, told from the queue: the frames received are the first ones, and the sink
was handed those of them that are no duplicates. -/
structure Accounts (moment : Nat → Moment) (monitor : Monitor ρ) (s : Session σ ρ)
    (report : Report) : Prop where
  received_le : report.received ≤ s.entered.length
  -- The frames behind those received leave the detector untouched.
  detector : s.ingest.monitor.detector =
    (monitor.detector.watch moment 0 (s.frames.take report.received)).2
  handed : s.ingest.sink.answered.map Prod.fst = (s.due moment monitor report).map Prod.snd
  inOrder : ∀ i, ((s.due moment monitor report).filter fun x => x.1 = i).Sublist
    (s.entered.filter fun x => x.1 = i)
  forwarded : report.forwarded = s.ingest.sink.answered.countP fun x => x.2.isTaken
  suppressed : report.suppressed = (s.notes moment monitor report).countP Note.isDuplicate
  sinkErrors : report.sinkErrors = s.ingest.sink.answered.countP fun x => x.2.isRejected
  -- The run ended on an empty queue, or with the frame that the sink answered to be closed.
  cause : (report.received = s.entered.length ∧ s.ingest.sink.IsOpen ∧
      report.received = report.forwarded + report.suppressed + report.sinkErrors) ∨
    ∃ f, s.frames[report.received - 1]? = some f ∧ s.ingest.sink.ClosedBy f ∧
      report.received = report.forwarded + report.suppressed + report.sinkErrors + 1
  -- With what the recorder was told: a check for each frame received, and no other.
  length_notes : (s.notes moment monitor report).length = report.received
  recorder : Measured (s.notes moment monitor report) monitor.recorder s.ingest.monitor.recorder

theorem Ended.accounts {report : Report} {taken rest : List Frame}
    (h : s.Ended moment monitor report taken rest) : s.Accounts moment monitor report := by
  have hb := h.books
  have hreceived : report.received = taken.length := hb.received
  have htaken : s.frames.take report.received = taken := by
    rw [h.frames, hreceived, List.take_left]
  have hlength : s.entered.length = taken.length + rest.length := by
    rw [← List.length_append, ← h.frames]
    exact (List.length_map _).symm
  have hnotes : s.notes moment monitor report = (monitor.detector.watch moment 0 taken).1 := by
    rw [notes, htaken]
  have hhanded : s.ingest.sink.answered.map Prod.fst =
      passed taken (s.notes moment monitor report) := by
    rw [hnotes, ← hb.handed]
    exact (List.append_nil _).symm
  have hsuppressed : report.suppressed =
      (s.notes moment monitor report).countP Note.isDuplicate := by
    rw [hnotes]
    exact hb.suppressed
  have hforwarded : report.forwarded = s.ingest.sink.answered.countP fun x => x.2.isTaken :=
    hb.forwarded
  have hsinkErrors : report.sinkErrors = s.ingest.sink.answered.countP fun x => x.2.isRejected :=
    hb.sinkErrors
  have hjudged : (s.notes moment monitor report).length = report.received := by
    rw [hnotes, Detector.length_watch, hreceived]
  -- What was received was passed or suppressed, and what was passed was answered.
  have htotal := length_passed (hreceived.symm.trans hjudged.symm)
  rw [← hhanded, ← hsuppressed, List.length_map, Noted.length_answered, ← hreceived] at htotal
  exact
    { received_le := by omega
      detector := by
        rw [htaken]
        exact hb.detector
      handed := by
        rw [hhanded, due, ← passed_map, List.map_take]
        exact congrArg (passed · _) htaken.symm
      inOrder := fun i => ((passed_sublist _ _).trans (List.take_sublist _ _)).filter _
      forwarded := hforwarded
      suppressed := hsuppressed
      sinkErrors := hsinkErrors
      cause := by
        rcases h.cause with ⟨hrest, hopen⟩ | ⟨f, hlast, hclosed⟩
        · have hzero := hopen.countP_isClosed
          rw [hrest, List.length_nil] at hlength
          exact Or.inl ⟨by omega, hopen, by omega⟩
        · have hone := hclosed.countP_isClosed
          have hpos : report.received - 1 < taken.length := by omega
          refine Or.inr ⟨f, ?_, hclosed, by omega⟩
          rw [h.frames, List.getElem?_append_left hpos, hreceived, ← List.getLast?_eq_getElem?]
          exact hlast
      length_notes := hjudged
      recorder := by
        rw [hnotes]
        exact hb.recorder }

theorem Stands.accounts (h : s.Stands moment monitor) {report : Report}
    (hreport : s.report? = some report) : s.Accounts moment monitor report := by
  cases h with
  | ongoing _ _ _ h =>
    rw [h.unreported] at hreport
    cases hreport
  | ended report' taken rest h =>
    rw [h.reported] at hreport
    cases hreport
    exact h.accounts

/-! ## Runs of turns -/

variable [Sink σ]

theorem Ongoing.poll {report : Report} {kept : Option Frame} {taken : List Frame}
    (h : s.Ongoing moment monitor report kept taken) :
    (s.turn moment .poll).Stands moment monitor := by
  obtain ⟨more, hqueue, hhalted, hrest⟩ := h.books.resume h.isOpen s.ingest.inlet.queue
  have hframes := h.frames
  rw [hqueue, ← List.append_assoc] at hframes
  rw [turn, Ingest.poll_of_stage moment h.stage]
  -- What follows depends on the run alone.
  generalize (s.ingest.adapter report).resume moment kept s.ingest.inlet.queue = d at *
  unfold Ingest.settled
  cases hhalt : d.halt with
  | held f =>
    rw [hhalt] at hhalted
    exact .ongoing d.adapter.report (some f) (taken ++ more)
      ⟨rfl, h.unreported, hframes, hhalted.1, hhalted.2⟩
  | closed =>
    rw [hhalt] at hhalted
    exact .ended d.adapter.report (taken ++ more) d.rest
      ⟨rfl, rfl, rfl, hframes, hhalted.1.stir _, Or.inr hhalted.2⟩
  | drained =>
    rw [hhalt] at hhalted
    dsimp only
    split
    · exact .ongoing d.adapter.report none (taken ++ more)
        ⟨rfl, h.unreported, hframes, hhalted.1, hhalted.2⟩
    · exact .ended d.adapter.report (taken ++ more) d.rest
        ⟨rfl, rfl, rfl, hframes, hhalted.1.stir _, Or.inl ⟨hrest hhalt, hhalted.2⟩⟩

theorem Stands.turn (h : s.Stands moment monitor) (t : Turn σ) :
    (s.turn moment t).Stands moment monitor := by
  cases t with
  | attach interface =>
    rw [Session.turn, Ingest.attach?]
    cases s.ingest.inlet.handle with
    | true => exact h.inlet _ rfl rfl
    | false => exact h
  | send i id bytes timestamp =>
    rw [Session.turn]
    cases s.ingest.inlet.sender? i with
    | some sender => exact h.sentBy i (s.ingest.sends_send sender id bytes timestamp)
    | none => exact h
  | sendFrame i f =>
    rw [Session.turn]
    cases s.ingest.inlet.sender? i with
    | some sender => exact h.sentBy i (s.ingest.sends_sendFrame sender.interface f)
    | none => exact h
  | detach i => exact h.inlet _ rfl rfl
  | dropHandle => exact h.inlet _ rfl rfl
  | stir act => exact h.stir _
  | poll =>
    cases h with
    | ongoing report kept taken h => exact h.poll
    | ended report taken rest h =>
      rw [Session.turn, Ingest.poll_of_ended moment h.task]
      exact .ended report taken rest h

theorem Stands.play (h : s.Stands moment monitor) (turns : List (Turn σ)) :
    (s.play moment turns).Stands moment monitor := by
  induction turns generalizing s with
  | nil => exact h
  | cons t rest ih => exact ih (h.turn t)

theorem heard_append (moment : Nat → Moment) (s : Session σ ρ) (turns more : List (Turn σ)) :
    s.heard moment (turns ++ more) =
      s.heard moment turns ++ (s.play moment turns).heard moment more := by
  induction turns generalizing s with
  | nil => rfl
  | cons t rest ih =>
    rw [List.cons_append, heard, heard, ih, List.append_assoc]
    rfl

theorem FedBy.turn (h : s.FedBy heard) (moment : Nat → Moment) (t : Turn σ) :
    (s.turn moment t).FedBy (heard ++ (s.heard? t).toList) := by
  cases t with
  | attach interface =>
    rw [Session.turn, heard?, Ingest.attach?]
    cases s.ingest.inlet.handle with
    | true => exact h.attach interface
    | false => exact h.unheard rfl rfl
  | send i id bytes timestamp =>
    rw [Session.turn, heard?, Ingest.heard?]
    cases hsender : s.ingest.inlet.sender? i with
    | some sender =>
      have hinterface := Inlet.interface_of_sender? hsender
      rw [h.interfaces] at hinterface
      exact h.sentBy (s.ingest.sends_send sender id bytes timestamp) hinterface
    | none => exact h.unheard rfl rfl
  | sendFrame i f =>
    rw [Session.turn, heard?, Ingest.heard?]
    cases hsender : s.ingest.inlet.sender? i with
    | some sender =>
      have hinterface := Inlet.interface_of_sender? hsender
      rw [h.interfaces] at hinterface
      exact h.sentBy (s.ingest.sends_sendFrame sender.interface f) hinterface
    | none => exact h.unheard rfl rfl
  | detach i => exact h.unheard rfl Inlet.interfaces_detach
  | dropHandle | stir _ => exact h.unheard rfl rfl
  | poll =>
    rw [Session.turn]
    have hsenders := s.ingest.senders_poll moment
    generalize s.ingest.poll moment = polled at hsenders
    obtain ⟨answer, ingest, events⟩ := polled
    cases answer <;> exact h.unheard rfl (congrArg _ hsenders)

theorem FedBy.play (h : s.FedBy heard) (moment : Nat → Moment) (turns : List (Turn σ)) :
    (s.play moment turns).FedBy (heard ++ s.heard moment turns) := by
  induction turns generalizing s heard with
  | nil => exact h.unheard rfl rfl
  | cons t rest ih =>
    have hrest := ih (h.turn moment t)
    rw [List.append_assoc] at hrest
    exact hrest

/-- Once nobody can send any more, a poll in front of a prompt sink ends the run. -/
theorem Stands.exists_report (h : s.Stands moment monitor)
    (hclosed : s.ingest.inlet.isOpen = false) (hprompt : Sink.Prompt σ) :
    ∃ report, (s.turn moment .poll).report? = some report := by
  cases h with
  | ongoing report kept taken h =>
    have hheld (g : Frame) :
        ((s.ingest.adapter report).resume moment kept s.ingest.inlet.queue).halt ≠ .held g :=
      Adapter.halt_resume_ne_held (Noted.prompt hprompt) _ kept _ g
    rw [Session.turn, Ingest.poll_of_stage moment h.stage, Ingest.settled]
    generalize (s.ingest.adapter report).resume moment kept s.ingest.inlet.queue = d at *
    cases hhalt : d.halt with
    | held f => exact absurd hhalt (hheld f)
    | closed => exact ⟨_, rfl⟩
    | drained =>
      rw [hclosed]
      exact ⟨_, rfl⟩
  | ended report taken rest h =>
    rw [Session.turn, Ingest.poll_of_ended moment h.task]
    exact ⟨report, h.reported⟩

/-- **Ingest loses, repeats and reorders nothing that it accepts.**  Whatever the detector, the sink
and the turns, the frames that entered the queue are those of the sendings that were accepted, in
this order; any sending is answered as the queue stands.  A run that has ended is accounted for by
them, and the sink was handed the frames of a sender in the order in which it sent them.  A run does
end at the next poll once the senders are gone, if the sink answers every delivery. -/
theorem loses_nothing (monitor : Monitor ρ) (sink : σ) (capacity : Nat) (moment : Nat → Moment)
    (turns : List (Turn σ)) {s : Session σ ρ} {heard : List Heard}
    (hs : (start monitor sink capacity).play moment turns = s)
    (hheard : (start monitor sink capacity).heard moment turns = heard) :
    s.FedBy heard ∧
    (∀ t i x reply, s.heard? t = some (.answered i x reply) → reply = s.ingest.inlet.answerTo x) ∧
    (∀ report, s.report? = some report → s.Accounts moment monitor report ∧
      ∀ i, List.SublistForall₂ (fun y x => Sending.Enters (Heard.interfaces heard) (i, x) y)
        ((s.due moment monitor report).filter fun y => y.1 = i) (Heard.sentBy i heard)) ∧
    (s.ingest.inlet.isOpen = false → Sink.Prompt σ →
      ∃ report, (s.turn moment .poll).report? = some report) := by
  have hstands := (stands_start moment monitor sink capacity).play turns
  have hfed := (fedBy_start monitor sink capacity).play moment turns
  rw [hs] at hstands hfed
  rw [List.nil_append, hheard] at hfed
  refine ⟨hfed, fun _ _ _ _ => reply_of_heard?, fun report hreport => ?_, hstands.exists_report⟩
  have hdue : (s.due moment monitor report).Sublist s.entered :=
    (passed_sublist _ _).trans (List.take_sublist _ _)
  exact ⟨hstands.accounts hreport, Heard.sublistForall₂_sentBy hfed.entered hdue⟩

/-- Two senders, a frame too long and one too many; the second delivery finds the sink closed, with
a frame still in the queue. -/
theorem loses_nothing_two_senders :
    ∃ (monitor : Monitor Counters) (turns : List (Turn Scripted)) (s : Session Scripted Counters)
        (heard : List Heard),
      turns = [.attach "can0", .attach "can1", .dropHandle, .send 0 0x123 [1] 100, .poll,
        .send 1 0x123 [1] 105, .send 1 0x123 [0, 1, 2, 3, 4, 5, 6, 7, 8] 106,
        .send 1 0x124 [2] 110, .send 0 0x125 [3] 120, .send 0 0x126 [4] 130, .detach 0, .detach 1,
        .poll] ∧
      (start monitor ⟨[.ok (), .error .closed]⟩ 3).play (fun _ => { clock := ⟨0⟩ }) turns = s ∧
      (start monitor ⟨[.ok (), .error .closed]⟩ 3).heard (fun _ => { clock := ⟨0⟩ }) turns = heard ∧
      Heard.accepted heard = [(0, .raw 0x123 [1] 100), (1, .raw 0x123 [1] 105),
        (1, .raw 0x124 [2] 110), (0, .raw 0x125 [3] 120)] ∧
      s.FedBy heard ∧
      s.report? = some ⟨3, 1, 1, 0⟩ ∧
      s.Accounts (fun _ => { clock := ⟨0⟩ }) monitor ⟨3, 1, 1, 0⟩ ∧
      (s.ingest.sink.answered.map fun x =>
        (x.1.id.raw, x.1.payload.bytes, x.1.timestamp, x.1.interface)) =
          [(0x123, [1], 100, "can0"), (0x124, [2], 110, "can1")] ∧
      ∃ report, (((start monitor (⟨[]⟩ : Scripted) 3).play (fun _ => { clock := ⟨0⟩ })
        [.attach "can0", .dropHandle, .send 0 0x123 [1] 100, .detach 0]).turn
          (fun _ => { clock := ⟨0⟩ }) .poll).report? = some report := by
  refine ⟨⟨.initial ⟨50, 2, .bits32, .recency, .frameArrival⟩ (by decide) ⟨0⟩, .zero⟩, _, _, _, rfl,
    rfl, rfl, ?_⟩
  refine ⟨by decide +kernel, (loses_nothing _ _ 3 _ _ rfl rfl).1, by decide +kernel,
    ((loses_nothing _ _ 3 _ _ rfl rfl).2.2.1 _ (by decide +kernel)).1, by decide +kernel,
    (loses_nothing _ _ 3 _ _ rfl rfl).2.2.2 (by decide +kernel) fun _ _ => rfl⟩

end Session

end EchoFilter
