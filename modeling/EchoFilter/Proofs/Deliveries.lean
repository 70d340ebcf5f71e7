import Mathlib.Data.List.Basic
import EchoFilter.Proofs.Watch

/-!
# Deliveries — the books of an adapter

An adapter, the detector behind it and the sink before it each keep count of the frames that the
adapter takes.  `Books` says that the counts agree: what the sink has answered for is what the
detector let pass, and every counter of the report, and every measure of the recorder, is one of the
frames taken.  A frame that the sink has not answered for yet is on the books as kept.

`Books.judge` and `Books.deliver` are the two halves of a step, `Books.drain` and `Books.resume` a
run over a queue.
-/

namespace EchoFilter

/-! ## Sinks that are written down -/

/-- What a sink says to a delivery. -/
abbrev Answer : Type :=
  Except SinkError Unit

namespace Answer

def isTaken : Answer → Bool
  | .ok () => true
  | .error _ => false

def isRejected : Answer → Bool
  | .error (.rejected _) => true
  | _ => false

def isClosed : Answer → Bool
  | .error .closed => true
  | _ => false

theorem kinds (answer : Answer) :
    (if isTaken answer then 1 else 0) + (if isRejected answer then 1 else 0) +
      (if isClosed answer then 1 else 0) = 1 :=
  match answer with
  | .ok () => rfl
  | .error .closed => rfl
  | .error (.rejected _) => rfl

end Answer

/-- A sink with the deliveries it has answered, in order. -/
structure Noted (σ : Type) where
  sink : σ
  answered : List (Frame × Answer) := []

namespace Noted

variable {σ : Type}

/-- The sink goes its own way, and what it answers is written down. -/
instance [Sink σ] : Sink (Noted σ) where
  announce f := Sink.announce σ f
  offer s f :=
    (Sink.offer s.sink f).map fun (answer, sink) =>
      (answer, { sink, answered := s.answered ++ [(f, answer)] })
  release s := { s with sink := Sink.release s.sink }

/-- No answer so far was that the sink is closed. -/
def IsOpen (s : Noted σ) : Prop :=
  ∀ x ∈ s.answered, x.2.isClosed = false

/-- The last answer, and no other, was that the sink is closed. -/
def ClosedBy (s : Noted σ) (f : Frame) : Prop :=
  ∃ before, s.answered = before ++ [(f, .error .closed)] ∧ ∀ x ∈ before, x.2.isClosed = false

theorem length_answered (s : Noted σ) :
    s.answered.length = (s.answered.countP fun x => x.2.isTaken) +
      (s.answered.countP fun x => x.2.isRejected) + s.answered.countP fun x => x.2.isClosed := by
  induction s.answered with
  | nil => rfl
  | cons x rest ih =>
    have hkinds := Answer.kinds x.2
    rw [List.length_cons, List.countP_cons, List.countP_cons, List.countP_cons, ih]
    omega

theorem IsOpen.countP_isClosed {s : Noted σ} (h : s.IsOpen) :
    (s.answered.countP fun x => x.2.isClosed) = 0 := by
  rw [List.countP_eq_zero]
  intro x hx
  rw [h x hx]
  exact Bool.false_ne_true

theorem ClosedBy.countP_isClosed {s : Noted σ} {f : Frame} (h : s.ClosedBy f) :
    (s.answered.countP fun x => x.2.isClosed) = 1 := by
  obtain ⟨before, hs, hbefore⟩ := h
  have hopen := IsOpen.countP_isClosed (s := { s with answered := before }) hbefore
  rw [hs, List.countP_append, hopen]
  rfl

variable [Sink σ]

theorem offer_eq_some {s s' : Noted σ} {f : Frame} {answer : Answer}
    (h : Sink.offer s f = some (answer, s')) : s'.answered = s.answered ++ [(f, answer)] := by
  obtain ⟨_, -, hs⟩ := Option.map_eq_some_iff.1 h
  cases hs
  rfl

end Noted

/-! ## What the recorder was told -/

/-- The answer of the check that a measure tells of. -/
def Measure.answer? : Measure → Option Bool
  | .check _ duplicate => some duplicate
  | _ => none

-- What was judged is measured by one check first, and then by no other check or rejection.
theorem Note.measures_of_judged {n : Note} {id : ArbitrationId} {v : Verdict Signature}
    (h : n.outcome = .judged id v) :
    ∃ more, n.measures = .check n.elapsed v.duplicate :: more ∧
      ∀ m ∈ more, m ≠ .rejected ∧ m.answer? = none := by
  refine ⟨(if 0 < v.expired then [.expired v.expired] else []) ++
    (if v.evicted.isSome then [.evicted 1] else []) ++ [.cacheSize n.size], ?_, fun m hm => ?_⟩
  · unfold measures
    rw [h]
    rfl
  · simp only [List.mem_append, List.mem_ite_nil_right, List.mem_singleton] at hm
    rcases hm with (⟨-, rfl⟩ | ⟨-, rfl⟩) | rfl
    · exact ⟨Measure.noConfusion, rfl⟩
    · exact ⟨Measure.noConfusion, rfl⟩
    · exact ⟨Measure.noConfusion, rfl⟩

variable {σ ρ : Type} [Recorder ρ]

/-- From `r` to `r'` a recorder took the measures of the notes, one check for each, and rejections
anywhere in between. -/
def Measured (notes : List Note) (r r' : ρ) : Prop :=
  ∃ measures : List Measure, r' = recordAll r measures ∧
    measures.filter (fun m => m ≠ .rejected) = notes.flatMap Note.measures ∧
    measures.filterMap Measure.answer? = notes.map Note.isDuplicate

variable {notes : List Note} {r r' : ρ}

theorem Measured.reject (h : Measured notes r r') : Measured notes r (record r' .rejected) := by
  obtain ⟨measures, hrecorder, hfilter, hanswers⟩ := h
  refine ⟨measures ++ [.rejected], ?_, ?_, ?_⟩
  · rw [recordAll_append, ← hrecorder]
    rfl
  · rw [List.filter_append, hfilter]
    exact List.append_nil _
  · rw [List.filterMap_append, hanswers]
    exact List.append_nil _

theorem Measured.judged (h : Measured notes r r') {n : Note} {id : ArbitrationId}
    {v : Verdict Signature} (hn : n.outcome = .judged id v) :
    Measured (notes ++ [n]) r (recordAll r' n.measures) := by
  obtain ⟨measures, hrecorder, hfilter, hanswers⟩ := h
  obtain ⟨more, hmeasures, hmore⟩ := Note.measures_of_judged hn
  have hkept : n.measures.filter (fun m => m ≠ .rejected) = n.measures := by
    rw [hmeasures, List.filter_eq_self]
    intro m hm
    rcases List.mem_cons.1 hm with rfl | hm
    · rfl
    · exact decide_eq_true (hmore m hm).1
  have hanswer : n.measures.filterMap Measure.answer? = [n.isDuplicate] := by
    have hnone : more.filterMap Measure.answer? = [] :=
      List.filterMap_eq_nil_iff.2 fun m hm => (hmore m hm).2
    rw [hmeasures, List.filterMap_cons, hnone, Note.isDuplicate, hn]
    rfl
  refine ⟨measures ++ n.measures, ?_, ?_, ?_⟩
  · rw [recordAll_append, ← hrecorder]
  · rw [List.filter_append, hfilter, hkept, List.flatMap_append, List.flatMap_singleton]
  · rw [List.filterMap_append, hanswers, hanswer, List.map_append]
    rfl

/-! ## The books -/

/-- What an adapter comes to that began with `start` and has since taken the frames `taken`. -/
structure Books (moment : Nat → Moment) (start : Monitor ρ) (taken : List Frame)
    (kept : Option Frame) (a : Adapter (Noted σ) ρ) : Prop where
  detector : a.monitor.detector = (start.detector.watch moment 0 taken).2
  received : a.report.received = taken.length
  suppressed : a.report.suppressed =
    (start.detector.watch moment 0 taken).1.countP Note.isDuplicate
  handed : a.sink.answered.map Prod.fst ++ kept.toList =
    passed taken (start.detector.watch moment 0 taken).1
  last : ∀ f, kept = some f → taken.getLast? = some f
  forwarded : a.report.forwarded = a.sink.answered.countP fun x => x.2.isTaken
  sinkErrors : a.report.sinkErrors = a.sink.answered.countP fun x => x.2.isRejected
  recorder : Measured (start.detector.watch moment 0 taken).1 start.recorder a.monitor.recorder

variable {moment : Nat → Moment} {start : Monitor ρ} {taken : List Frame} {kept : Option Frame}
  {a : Adapter (Noted σ) ρ}

theorem books_start (moment : Nat → Moment) (start : Monitor ρ) (sink : σ) :
    Books moment start [] none { monitor := start, sink := { sink } } where
  detector := rfl
  received := rfl
  suppressed := rfl
  handed := rfl
  last _ hf := nomatch hf
  forwarded := rfl
  sinkErrors := rfl
  recorder := ⟨[], rfl, rfl, rfl⟩

-- What the sink is up to behind its answers is not on the books.
theorem Books.stir (hb : Books moment start taken kept a) (sink : σ) :
    Books moment start taken kept { a with sink := { a.sink with sink } } :=
  { hb with }

theorem Books.reject (hb : Books moment start taken kept a) :
    Books moment start taken kept { a with monitor := a.monitor.reject } :=
  { hb with recorder := hb.recorder.reject }

/-! ## Judging -/

namespace Adapter

theorem judge_fst (a : Adapter σ ρ) (f : Frame) (moment : Moment) :
    (a.judge f moment).1 = (a.monitor.detector.judge f moment).1.isDuplicate := by
  unfold judge
  dsimp only
  split
  next h => exact h.symm
  next h => exact (Bool.eq_false_iff.2 h).symm

theorem judge_monitor (a : Adapter σ ρ) (f : Frame) (moment : Moment) :
    (a.judge f moment).2.1.monitor =
      { detector := (a.monitor.detector.judge f moment).2
        recorder := recordAll a.monitor.recorder
          (a.monitor.detector.judge f moment).1.measures } := by
  unfold judge
  dsimp only
  split <;> rfl

theorem judge_sink (a : Adapter σ ρ) (f : Frame) (moment : Moment) :
    (a.judge f moment).2.1.sink = a.sink := by
  unfold judge
  dsimp only
  split <;> rfl

theorem judge_report (a : Adapter σ ρ) (f : Frame) (moment : Moment) :
    (a.judge f moment).2.1.report =
      { a.report with
        received := a.report.received + 1
        suppressed := a.report.suppressed +
          if (a.monitor.detector.judge f moment).1.isDuplicate then 1 else 0 } := by
  rw [← judge_fst]
  unfold judge
  dsimp only
  split <;> rfl

end Adapter

-- A frame more is taken; unless it is dropped, the sink has yet to answer for it.
theorem Books.judge (hb : Books moment start taken none a) (f : Frame) :
    Books moment start (taken ++ [f])
      (if (a.judge f (moment a.report.received)).1 then none else some f)
      (a.judge f (moment a.report.received)).2.1 := by
  -- All that a new frame adds to the books is read off the note on it.
  have hpassed := start.detector.passed_watch_concat moment taken f
  rw [← hb.handed, ← hb.detector, ← hb.received, ← a.judge_fst, Option.toList_none,
    List.append_nil] at hpassed
  have hwatch := start.detector.watch_concat moment taken f
  rw [← hb.detector, ← hb.received] at hwatch
  have hnotes := congrArg Prod.fst hwatch
  exact
    { detector := by rw [hwatch, a.judge_monitor]
      received := by
        rw [a.judge_report, List.length_append, ← hb.received]
        rfl
      suppressed := by
        rw [hnotes, a.judge_report, List.countP_append, ← hb.suppressed, List.countP_singleton]
      handed := by
        rw [hpassed, a.judge_sink]
        split <;> rfl
      last := by
        intro g hg
        split at hg
        · cases hg
        · cases hg
          exact List.getLast?_concat
      forwarded := by
        rw [a.judge_report, a.judge_sink]
        exact hb.forwarded
      sinkErrors := by
        rw [a.judge_report, a.judge_sink]
        exact hb.sinkErrors
      recorder := by
        rw [hnotes, a.judge_monitor]
        exact hb.recorder.judged (a.monitor.detector.judge_outcome f _) }

/-! ## Delivering -/

theorem Books.answer {f : Frame} (hb : Books moment start taken (some f) a) {answer : Answer}
    {s : Noted σ} (hs : s.answered = a.sink.answered ++ [(f, answer)]) {report : Report}
    (hreceived : report.received = a.report.received)
    (hsuppressed : report.suppressed = a.report.suppressed)
    (hforwarded : report.forwarded = a.report.forwarded + if answer.isTaken then 1 else 0)
    (hsinkErrors : report.sinkErrors = a.report.sinkErrors + if answer.isRejected then 1 else 0) :
    Books moment start taken none { monitor := a.monitor, sink := s, report } where
  detector := hb.detector
  received := hreceived.trans hb.received
  suppressed := hsuppressed.trans hb.suppressed
  handed := by
    rw [← hb.handed, hs, List.map_append]
    exact List.append_nil _
  last _ hg := nomatch hg
  forwarded := by
    rw [hs, List.countP_append, ← hb.forwarded, List.countP_singleton]
    exact hforwarded
  sinkErrors := by
    rw [hs, List.countP_append, ← hb.sinkErrors, List.countP_singleton]
    exact hsinkErrors
  recorder := hb.recorder

/-- How the books stand when a run comes to a halt. -/
def Halted (moment : Nat → Moment) (start : Monitor ρ) (taken : List Frame) :
    Halt → Adapter (Noted σ) ρ → Prop
  | .drained, a => Books moment start taken none a ∧ a.sink.IsOpen
  | .held f, a => Books moment start taken (some f) a ∧ a.sink.IsOpen
  | .closed, a =>
    Books moment start taken none a ∧ ∃ f, taken.getLast? = some f ∧ a.sink.ClosedBy f

variable [Sink σ]

theorem Books.deliver {f : Frame} (hb : Books moment start taken (some f) a)
    (hopen : a.sink.IsOpen) :
    (∀ a' events, a.deliver f = .done a' events → Halted moment start taken .drained a') ∧
      (∀ a', a.deliver f = .closed a' → Halted moment start taken .closed a') := by
  unfold Adapter.deliver
  cases hoffer : Sink.offer a.sink f with
  | none => exact ⟨fun _ _ h => (nomatch h), fun _ h => (nomatch h)⟩
  | some p =>
    obtain ⟨answer, s⟩ := p
    have hs := Noted.offer_eq_some hoffer
    have hstill (hanswer : Answer.isClosed answer = false) : s.IsOpen := by
      intro x hx
      rw [hs, List.mem_append, List.mem_singleton] at hx
      rcases hx with hx | rfl
      · exact hopen x hx
      · exact hanswer
    match answer with
    | .ok () =>
      refine ⟨fun a' events h => ?_, fun _ h => nomatch h⟩
      cases h
      exact ⟨hb.answer hs rfl rfl rfl rfl, hstill rfl⟩
    | .error (.rejected reason) =>
      refine ⟨fun a' events h => ?_, fun _ h => nomatch h⟩
      cases h
      exact ⟨hb.answer hs rfl rfl rfl rfl, hstill rfl⟩
    | .error .closed =>
      refine ⟨fun _ _ h => (nomatch h), fun a' h => ?_⟩
      cases h
      exact ⟨hb.answer hs rfl rfl rfl rfl, f, hb.last f rfl, a.sink.answered, hs, hopen⟩

/-! ## Runs over a queue -/

/-- Every delivery is answered at once. -/
def Sink.Prompt (σ : Type) [Sink σ] : Prop :=
  ∀ (s : σ) (f : Frame), (Sink.offer s f).isSome = true

theorem Noted.prompt (h : Sink.Prompt σ) : Sink.Prompt (Noted σ) := by
  intro s f
  show ((Sink.offer s.sink f).map _).isSome = true
  rw [Option.isSome_map]
  exact h s.sink f

namespace Adapter

variable {a b : Adapter σ ρ} {f : Frame} {events : List Event}

theorem drain_of_dropped
    (h : a.judge f (moment a.report.received) = (true, b, events)) (rest : List Frame) :
    a.drain moment (f :: rest) = (b.drain moment rest).after events := by
  rw [drain, h]

theorem drain_of_busy (h : a.judge f (moment a.report.received) = (false, b, events))
    (hd : b.deliver f = .busy) (rest : List Frame) :
    a.drain moment (f :: rest) =
      { adapter := b, rest, halt := .held f, events := events ++ Sink.announce σ f } := by
  simp only [drain, h, hd]

theorem drain_of_done (h : a.judge f (moment a.report.received) = (false, b, events))
    {c : Adapter σ ρ} {later : List Event} (hd : b.deliver f = .done c later) (rest : List Frame) :
    a.drain moment (f :: rest) =
      (c.drain moment rest).after (events ++ Sink.announce σ f ++ later) := by
  simp only [drain, h, hd]

theorem drain_of_closed (h : a.judge f (moment a.report.received) = (false, b, events))
    {c : Adapter σ ρ} (hd : b.deliver f = .closed c) (rest : List Frame) :
    a.drain moment (f :: rest) =
      { adapter := c, rest, halt := .closed
        events := events ++ Sink.announce σ f ++ [closedEvent] } := by
  simp only [drain, h, hd]

omit [Recorder ρ] in
theorem deliver_ne_busy (hprompt : Sink.Prompt σ) (a : Adapter σ ρ) (f : Frame) :
    a.deliver f ≠ .busy := by
  obtain ⟨⟨answer, s⟩, hoffer⟩ := Option.isSome_iff_exists.1 (hprompt a.sink f)
  unfold deliver
  rw [hoffer]
  match answer with
  | .ok () => exact fun h => nomatch h
  | .error .closed => exact fun h => nomatch h
  | .error (.rejected _) => exact fun h => nomatch h

-- A prompt sink never makes the run wait.
theorem halt_drain_ne_held (hprompt : Sink.Prompt σ) (a : Adapter σ ρ) (queue : List Frame)
    (g : Frame) : (a.drain moment queue).halt ≠ .held g := by
  induction queue generalizing a with
  | nil => exact Halt.noConfusion
  | cons f rest ih =>
    rcases hj : a.judge f (moment a.report.received) with ⟨dropped, b, events⟩
    cases dropped with
    | true =>
      rw [drain_of_dropped hj]
      exact ih b
    | false =>
      cases hd : b.deliver f with
      | busy => exact absurd hd (deliver_ne_busy hprompt b f)
      | done c later =>
        rw [drain_of_done hj hd]
        exact ih c
      | closed c =>
        rw [drain_of_closed hj hd]
        exact Halt.noConfusion

theorem halt_resume_ne_held (hprompt : Sink.Prompt σ) (a : Adapter σ ρ) (kept : Option Frame)
    (queue : List Frame) (g : Frame) : (a.resume moment kept queue).halt ≠ .held g := by
  cases kept with
  | none => exact halt_drain_ne_held hprompt a queue g
  | some f =>
    rw [resume]
    cases hd : a.deliver f with
    | busy => exact absurd hd (deliver_ne_busy hprompt a f)
    | done b events => exact halt_drain_ne_held hprompt b queue g
    | closed b => exact Halt.noConfusion

end Adapter

/-- A run takes frames from the head of the queue, and the books are kept to its halt. -/
theorem Books.drain (hb : Books moment start taken none a) (hopen : a.sink.IsOpen)
    (queue : List Frame) :
    ∃ more, queue = more ++ (a.drain moment queue).rest ∧
      Halted moment start (taken ++ more) (a.drain moment queue).halt
        (a.drain moment queue).adapter ∧
      ((a.drain moment queue).halt = .drained → (a.drain moment queue).rest = []) := by
  induction queue generalizing taken a with
  | nil =>
    refine ⟨[], rfl, ?_, fun _ => rfl⟩
    rw [List.append_nil]
    exact ⟨hb, hopen⟩
  | cons f rest ih =>
    -- One frame goes on the books, and the rest of the run starts behind it.
    have hjudged := hb.judge f
    have hopen' := hopen
    rw [← a.judge_sink f (moment a.report.received)] at hopen'
    rcases hj : a.judge f (moment a.report.received) with ⟨dropped, b, events⟩
    rw [hj] at hjudged hopen'
    cases dropped with
    | true =>
      rw [Adapter.drain_of_dropped hj]
      obtain ⟨more, hqueue, hhalted, hrest⟩ := ih hjudged hopen'
      refine ⟨f :: more, congrArg (f :: ·) hqueue, ?_, hrest⟩
      rw [← List.append_cons] at hhalted
      exact hhalted
    | false =>
      obtain ⟨hdone, hclosed⟩ := hjudged.deliver hopen'
      cases hd : b.deliver f with
      | busy =>
        rw [Adapter.drain_of_busy hj hd]
        exact ⟨[f], rfl, ⟨hjudged, hopen'⟩, fun h => nomatch h⟩
      | done c later =>
        rw [Adapter.drain_of_done hj hd]
        obtain ⟨hbooks, hopen''⟩ := hdone c later hd
        obtain ⟨more, hqueue, hhalted, hrest⟩ := ih hbooks hopen''
        refine ⟨f :: more, congrArg (f :: ·) hqueue, ?_, hrest⟩
        rw [← List.append_cons] at hhalted
        exact hhalted
      | closed c =>
        rw [Adapter.drain_of_closed hj hd]
        exact ⟨[f], rfl, hclosed c hd, fun h => nomatch h⟩

theorem Books.resume (hb : Books moment start taken kept a) (hopen : a.sink.IsOpen)
    (queue : List Frame) :
    ∃ more, queue = more ++ (a.resume moment kept queue).rest ∧
      Halted moment start (taken ++ more) (a.resume moment kept queue).halt
        (a.resume moment kept queue).adapter ∧
      ((a.resume moment kept queue).halt = .drained → (a.resume moment kept queue).rest = []) := by
  cases kept with
  | none => exact hb.drain hopen queue
  | some f =>
    -- The kept frame was judged before, so this is a delivery and no more.
    obtain ⟨hdone, hclosed⟩ := hb.deliver hopen
    rw [Adapter.resume]
    cases hd : a.deliver f with
    | busy =>
      refine ⟨[], rfl, ?_, fun h => nomatch h⟩
      rw [List.append_nil]
      exact ⟨hb, hopen⟩
    | done b events =>
      obtain ⟨hbooks, hopenb⟩ := hdone b events hd
      exact hbooks.drain hopenb queue
    | closed b =>
      refine ⟨[], rfl, ?_, fun h => nomatch h⟩
      rw [List.append_nil]
      exact hclosed b hd

/-! ## The sink by itself

Writing the deliveries down changes nothing: every run goes as it goes with the sink alone.
-/

namespace Adapter

def bare (a : Adapter (Noted σ) ρ) : Adapter σ ρ :=
  { monitor := a.monitor, sink := a.sink.sink, report := a.report }

def Delivery.bare : Delivery (Noted σ) ρ → Delivery σ ρ
  | .busy => .busy
  | .done a events => .done a.bare events
  | .closed a => .closed a.bare

end Adapter

def Drained.bare (d : Drained (Noted σ) ρ) : Drained σ ρ :=
  { adapter := d.adapter.bare, rest := d.rest, halt := d.halt, events := d.events }

namespace Adapter

omit [Recorder ρ] in
theorem deliver_bare (a : Adapter (Noted σ) ρ) (f : Frame) :
    a.bare.deliver f = (a.deliver f).bare := by
  have hnoted : Sink.offer a.sink f = (Sink.offer a.sink.sink f).map fun (answer, sink) =>
      (answer, { sink, answered := a.sink.answered ++ [(f, answer)] }) := rfl
  have hbare : Sink.offer a.bare.sink f = Sink.offer a.sink.sink f := rfl
  unfold deliver
  rw [hnoted, hbare]
  cases Sink.offer a.sink.sink f with
  | none => rfl
  | some p =>
    match p with
    | (.ok (), _) => rfl
    | (.error .closed, _) => rfl
    | (.error (.rejected _), _) => rfl

omit [Sink σ] in
theorem judge_bare (a : Adapter (Noted σ) ρ) (f : Frame) (moment : Moment) :
    a.bare.judge f moment =
      ((a.judge f moment).1, (a.judge f moment).2.1.bare, (a.judge f moment).2.2) := by
  unfold judge bare
  dsimp only
  split <;> rfl

theorem drain_bare (a : Adapter (Noted σ) ρ) (queue : List Frame) :
    a.bare.drain moment queue = (a.drain moment queue).bare := by
  induction queue generalizing a with
  | nil => rfl
  | cons f rest ih =>
    have hbare := a.judge_bare f (moment a.report.received)
    rcases hj : a.judge f (moment a.report.received) with ⟨dropped, b, events⟩
    rw [hj] at hbare
    cases dropped with
    | true =>
      rw [drain_of_dropped hj, drain_of_dropped hbare, ih]
      rfl
    | false =>
      have hdeliver := b.deliver_bare f
      cases hd : b.deliver f with
      | busy =>
        rw [hd] at hdeliver
        rw [drain_of_busy hj hd, drain_of_busy hbare hdeliver]
        rfl
      | done c later =>
        rw [hd] at hdeliver
        rw [drain_of_done hj hd, drain_of_done hbare hdeliver, ih]
        rfl
      | closed c =>
        rw [hd] at hdeliver
        rw [drain_of_closed hj hd, drain_of_closed hbare hdeliver]
        rfl

theorem resume_bare (a : Adapter (Noted σ) ρ) (kept : Option Frame) (queue : List Frame) :
    a.bare.resume moment kept queue = (a.resume moment kept queue).bare := by
  cases kept with
  | none => exact a.drain_bare queue
  | some f =>
    rw [resume, resume, deliver_bare]
    cases a.deliver f with
    | busy => rfl
    | done b events => exact congrArg (Drained.after events) (b.drain_bare queue)
    | closed b => rfl

end Adapter

end EchoFilter
