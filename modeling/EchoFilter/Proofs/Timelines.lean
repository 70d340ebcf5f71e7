import EchoFilter.Proofs.Halves
import EchoFilter.Proofs.Spacing
import EchoFilter.Proofs.Ties

/-!
# Timelines — a detector has one timeline

A detector takes its times from its clock or from the stamps of frames, as its time base says, and
never from both.  Frames, calls and detectors are `Alike` under a time base if they differ only in
what the base leaves out, and interfaces are left out by both.  `Detector.Alike.perform` says that
one call cannot tell alike things apart.  From it, `follows_one_timeline` says so of runs, of shared
handles and of ingests.
-/

namespace EchoFilter

/-- Observations of the same content; where frames bring the time, of the same time as well. -/
structure Frame.Alike (base : TimeBase) (f f' : Frame) : Prop where
  id : f'.id = f.id
  payload : f'.payload = f.payload
  timestamp : base = .frameArrival → f'.timestamp = f.timestamp

/-- The same call, or calls that judge alike frames. -/
inductive Call.Alike (base : TimeBase) : Call → Call → Prop
  | same (c : Call) : Alike base c c
  | frame {f f' : Frame} (h : f.Alike base f') : Alike base (.frame f) (.frame f')

/-- Whether a call can matter: where frames bring the time, moving the clock cannot. -/
def Call.isHeard (base : TimeBase) : Call → Bool
  | .setClock _ | .advanceClock _ => base = .clock
  | _ => true

/-- The calls that can matter are alike, one by one. -/
def Call.AllAlike (base : TimeBase) (calls calls' : List Call) : Prop :=
  List.Forall₂ (Call.Alike base) (calls.filter (Call.isHeard base))
    (calls'.filter (Call.isHeard base))

/-- Whether a call returns anything; moving the clock does not. -/
def Outcome.isReturned : Outcome → Bool
  | .clockMoved => false
  | _ => true

namespace Detector

/-- Detectors that differ at most in a clock that is not looked at. -/
structure Alike (d d' : Detector) : Prop where
  config : d'.config = d.config
  window : d'.window = d.window
  clock : d.config.timeBase = .clock → d'.clock = d.clock

section Alike

variable {d d' d'' : Detector}

theorem Alike.refl (d : Detector) : d.Alike d :=
  ⟨rfl, rfl, fun _ => rfl⟩

theorem Alike.symm (h : d.Alike d') : d'.Alike d :=
  ⟨h.config.symm, h.window.symm, fun hbase => (h.clock (h.config ▸ hbase)).symm⟩

theorem Alike.trans (h : d.Alike d') (h' : d'.Alike d'') : d.Alike d'' :=
  ⟨h'.config.trans h.config, h'.window.trans h.window,
    fun hbase => (h'.clock (h.config ▸ hbase)).trans (h.clock hbase)⟩

theorem Alike.limits (h : d.Alike d') : d'.limits = d.limits :=
  limits_congr h.config

theorem Alike.currentTime (h : d.Alike d') : d'.currentTime = d.currentTime := by
  unfold Detector.currentTime
  rw [h.config, h.window]
  cases hbase : d.config.timeBase with
  | clock => rw [h.clock hbase]
  | frameArrival => rfl

theorem Alike.frameTime (h : d.Alike d') {f f' : Frame} (hf : f.Alike d.config.timeBase f') :
    d'.frameTime f' = d.frameTime f := by
  unfold Detector.frameTime
  rw [h.config]
  cases hbase : d.config.timeBase with
  | clock => rw [h.clock hbase]
  | frameArrival => rw [hf.timestamp hbase]

/-! ## Calls -/

theorem Alike.decide (h : d.Alike d') (id : ArbitrationId) (payload : Payload) (now : Time) :
    (d'.decide id payload now).1 = (d.decide id payload now).1 ∧
      (d.decide id payload now).2.Alike (d'.decide id payload now).2 := by
  have hcheck : d'.window.check d'.limits (.compute d'.config.width id payload.bytes) now =
      d.window.check d.limits (.compute d.config.width id payload.bytes) now := by
    rw [h.window, h.limits, h.config]
  rw [Prod.ext_iff] at hcheck
  exact ⟨hcheck.1, h.config, hcheck.2, h.clock⟩

-- A judgement is all that raw data, a frame and a given time come to.
theorem Alike.judged (h : d.Alike d') (id : ArbitrationId) (payload : Payload) {now now' : Time}
    (hnow : now' = now) :
    Outcome.judged id (d'.decide id payload now').1 = .judged id (d.decide id payload now).1 ∧
      (d.decide id payload now).2.Alike (d'.decide id payload now').2 := by
  obtain ⟨hverdict, hnext⟩ := h.decide id payload now
  rw [hnow]
  exact ⟨congrArg _ hverdict, hnext⟩

theorem Alike.perform (h : d.Alike d') {c c' : Call} (hc : c.Alike d.config.timeBase c') :
    (d'.perform c').1 = (d.perform c).1 ∧ (d.perform c).2.Alike (d'.perform c').2 := by
  have hframe {f f' : Frame} (hf : f.Alike d.config.timeBase f') :
      (d'.perform (.frame f')).1 = (d.perform (.frame f)).1 ∧
        (d.perform (.frame f)).2.Alike (d'.perform (.frame f')).2 := by
    show Outcome.judged f'.id (d'.decide f'.id f'.payload _).1 = .judged f.id _ ∧
      (d.decide f.id f.payload _).2.Alike (d'.decide f'.id f'.payload _).2
    rw [hf.id, hf.payload]
    exact h.judged f.id f.payload (h.frameTime hf)
  cases hc with
  | frame hf => exact hframe hf
  | same =>
    cases c with
    | check id bytes at? =>
      simp only [Detector.perform, performBy]
      cases ArbitrationId.ofRaw id with
      | error e => exact ⟨rfl, h⟩
      | ok id =>
        cases Payload.ofBytes bytes with
        | error e => exact ⟨rfl, h⟩
        | ok payload => exact h.judged id payload (congrArg at?.getD h.currentTime)
    | frame f => exact hframe ⟨rfl, rfl, fun _ => rfl⟩
    | decide id payload now => exact h.judged id payload rfl
    | sweep now =>
      have hsweep : d'.window.sweep d'.limits now = d.window.sweep d.limits now := by
        rw [h.window, h.limits]
      rw [Prod.ext_iff] at hsweep
      exact ⟨congrArg Outcome.swept hsweep.1, h.config, hsweep.2, h.clock⟩
    | reset =>
      have hsize : d'.size = d.size := congrArg Window.size h.window
      exact ⟨congrArg Outcome.reset hsize, h.config, congrArg Window.reset h.window, h.clock⟩
    | setClock ms => exact ⟨rfl, h.config, h.window, fun _ => rfl⟩
    | advanceClock ms =>
      exact ⟨rfl, h.config, h.window, fun hbase => congrArg (Clock.advance · ms) (h.clock hbase)⟩

/-! ## Runs of calls -/

theorem Alike.run_of_forall₂ (h : d.Alike d') {calls calls' : List Call}
    (hcalls : List.Forall₂ (Call.Alike d.config.timeBase) calls calls') :
    (d'.run calls').1 = (d.run calls).1 ∧ (d.run calls).2.Alike (d'.run calls').2 := by
  generalize hbase : d.config.timeBase = base at hcalls
  induction hcalls generalizing d d' with
  | nil => exact ⟨rfl, h⟩
  | @cons c c' rest rest' hc _ ih =>
    rw [← hbase] at hc
    obtain ⟨hanswer, hnext⟩ := h.perform hc
    obtain ⟨hanswers, hlast⟩ := ih hnext (by rw [config_perform, hbase])
    rw [run_cons, run_cons, hanswer, hanswers]
    exact ⟨rfl, hlast⟩

-- A call that cannot matter returns nothing and leaves everything alike.
theorem Alike.of_not_heard (h : d.Alike d') {c : Call} (hc : c.isHeard d.config.timeBase = false) :
    (d.perform c).1 = .clockMoved ∧ (d.perform c).2.Alike d' := by
  have hclock (hbase : d.config.timeBase = .clock) (clock : Clock) : d'.clock = clock := by
    rw [hbase] at hc
    cases c <;> cases hc
  cases c with
  | setClock ms => exact ⟨rfl, h.config, h.window, fun hbase => hclock hbase _⟩
  | advanceClock ms => exact ⟨rfl, h.config, h.window, fun hbase => hclock hbase _⟩
  | check _ _ _ | frame _ | decide _ _ _ | sweep _ | reset => cases hc

theorem Alike.run_filter (h : d.Alike d') (calls : List Call) :
    (d'.run (calls.filter (Call.isHeard d.config.timeBase))).1.filter Outcome.isReturned =
        (d.run calls).1.filter Outcome.isReturned ∧
      (d.run calls).2.Alike (d'.run (calls.filter (Call.isHeard d.config.timeBase))).2 := by
  induction calls generalizing d d' with
  | nil => exact ⟨rfl, h⟩
  | cons c rest ih =>
    rw [run_cons]
    cases hc : c.isHeard d.config.timeBase with
    | true =>
      obtain ⟨hanswer, hnext⟩ := h.perform (.same c)
      obtain ⟨hanswers, hlast⟩ := ih hnext
      rw [config_perform] at hanswers hlast
      rw [List.filter_cons_of_pos hc, run_cons, hanswer, List.filter_cons, List.filter_cons,
        hanswers]
      exact ⟨rfl, hlast⟩
    | false =>
      obtain ⟨hanswer, hnext⟩ := h.of_not_heard hc
      obtain ⟨hanswers, hlast⟩ := ih hnext
      rw [config_perform] at hanswers hlast
      rw [List.filter_cons_of_neg (by rw [hc]; exact Bool.false_ne_true), hanswer, hanswers]
      exact ⟨rfl, hlast⟩

theorem Alike.run (h : d.Alike d') {calls calls' : List Call}
    (hcalls : Call.AllAlike d.config.timeBase calls calls') :
    (d'.run calls').1.filter Outcome.isReturned = (d.run calls).1.filter Outcome.isReturned ∧
      (d.run calls).2.Alike (d'.run calls').2 := by
  obtain ⟨hleft, hlast⟩ := (Alike.refl d).run_filter calls
  obtain ⟨hright, hlast'⟩ := (Alike.refl d').run_filter calls'
  obtain ⟨hheard, hbetween⟩ := h.run_of_forall₂ hcalls
  rw [h.config] at hright hlast'
  rw [← hleft, ← hright, hheard]
  exact ⟨rfl, hlast.trans (hbetween.trans hlast'.symm)⟩

-- A check that brings no time runs at the mark, so it cannot move it.
theorem mark_check_of_now (d : Detector) (hbase : d.config.timeBase = .frameArrival) {mark : Time}
    (hmark : d.window.mark = some mark) (id : UInt32) (bytes : List UInt8) :
    (d.perform (.check id bytes none)).2.window.mark = some mark := by
  rw [window_perform]
  unfold Detector.act? Call.act? Call.actBy?
  dsimp only
  split
  · have hnow : d.window.clamp mark = mark := by
      unfold Window.clamp
      rw [hmark]
      exact Nat.max_self mark
    show (d.window.check _ _ _).2.mark = _
    rw [Window.mark_check, Option.getD_none, Call.presentTime, hbase, hmark]
    exact congrArg some hnow
  · exact hmark

/-! ## Queues of frames -/

theorem Alike.judge (h : d.Alike d') {f f' : Frame} (hf : f.Alike d.config.timeBase f')
    {moment moment' : Moment}
    (hclock : d.config.timeBase = .clock → moment'.clock = moment.clock) :
    (d'.judge f' moment').1.outcome = (d.judge f moment).1.outcome ∧
      (d.judge f moment).2.Alike (d'.judge f' moment').2 := by
  -- The clock is set for each frame, whatever it showed before.
  have hset : Alike { d with clock := moment.clock } { d' with clock := moment'.clock } :=
    ⟨h.config, h.window, hclock⟩
  exact hset.perform (.frame hf)

theorem Alike.watch (h : d.Alike d') {moment moment' : Nat → Moment}
    (hclock : d.config.timeBase = .clock → ∀ n, (moment' n).clock = (moment n).clock)
    {frames frames' : List Frame}
    (hframes : List.Forall₂ (Frame.Alike d.config.timeBase) frames frames') (n : Nat) :
    (d'.watch moment' n frames').1.map Note.outcome =
        (d.watch moment n frames).1.map Note.outcome ∧
      (d.watch moment n frames).2.Alike (d'.watch moment' n frames').2 := by
  generalize hbase : d.config.timeBase = base at hframes
  induction hframes generalizing d d' n with
  | nil => exact ⟨rfl, h⟩
  | @cons f f' rest rest' hf _ ih =>
    rw [← hbase] at hf
    obtain ⟨houtcome, hnext⟩ := h.judge hf fun hb => hclock hb n
    have hconfig := d.config_judge f (moment n)
    obtain ⟨houtcomes, hlast⟩ := ih hnext (by rw [hconfig]; exact hclock) (n + 1)
      (by rw [hconfig, hbase])
    simp only [Detector.watch, List.map_cons, houtcome, houtcomes]
    exact ⟨trivial, hlast⟩

end Alike

end Detector

theorem passed_congr {α : Type} {notes notes' : List Note}
    (h : notes'.map Note.outcome = notes.map Note.outcome) (xs : List α) :
    passed xs notes' = passed xs notes := by
  induction xs generalizing notes notes' with
  | nil => rw [passed.eq_def, passed.eq_def]
  | cons x xs ih =>
    cases notes with
    | nil =>
      rw [List.map_nil, List.map_eq_nil_iff] at h
      rw [h]
    | cons n notes =>
      obtain ⟨n', notes', rfl, hn, hnotes⟩ := List.map_eq_cons_iff.1 h
      have hdup : n'.isDuplicate = n.isDuplicate := congrArg Outcome.isDuplicate hn
      rw [passed, passed, hdup, ih hnotes]

/-! ## Sessions -/

/-- Frames that are alike under a time base get the same answers from sinks that are alike. -/
structure Sink.Blind {σ : Type} [Sink σ] (base : TimeBase) (alike : σ → σ → Prop) : Prop where
  offer : ∀ {s s' : σ} {f f' : Frame}, alike s s' → f.Alike base f' →
    Sink.AnswersTied alike (Sink.offer s f) (Sink.offer s' f')
  release : ∀ {s s' : σ}, alike s s' → alike (Sink.release s) (Sink.release s')

-- A list of answers does not look at frames.
theorem Scripted.blind (base : TimeBase) : Sink.Blind base fun s s' : Scripted => s' = s where
  offer hs _ := by
    rw [hs]
    exact .some ⟨rfl, rfl⟩
  release hs := hs

structure Channel.Alike (base : TimeBase) (c c' : Channel) : Prop where
  capacity : c'.capacity = c.capacity
  buffer : List.Forall₂ (Frame.Alike base) c.buffer c'.buffer
  writing : c'.writing = c.writing
  reading : c'.reading = c.reading

theorem Channel.blind (base : TimeBase) : Sink.Blind base (Channel.Alike base) where
  offer {c c' f f'} hc hf := by
    have hlength := hc.buffer.length_eq
    show Sink.AnswersTied _ (ite ..) (ite ..)
    rw [hc.reading, hc.capacity, ← hlength]
    split
    · exact .some ⟨rfl, hc⟩
    · split
      · refine .some ⟨rfl, ?_⟩
        exact ⟨rfl, List.rel_append hc.buffer (.cons hf .nil), hc.writing, rfl⟩
      · exact .none
  release hc := ⟨hc.capacity, hc.buffer, rfl, hc.reading⟩

/-- Frames, detectors and sinks are alike; interfaces are whatever they are. -/
def Tie.timeline {σ : Type} (ρ ρ' : Type) (base : TimeBase) (alike : σ → σ → Prop) :
    Tie σ σ ρ ρ' where
  frame := Frame.Alike base
  interface _ _ := True
  sink := alike
  monitor m m' := m.detector.config.timeBase = base ∧ m.detector.Alike m'.detector

theorem lasting_timeline {σ ρ ρ' : Type} [Sink σ] [Recorder ρ] [Recorder ρ'] {base : TimeBase}
    {alike : σ → σ → Prop} (hblind : Sink.Blind base alike) {moment moment' : Nat → Moment}
    (hclock : base = .clock → ∀ n, (moment' n).clock = (moment n).clock) :
    (Tie.timeline ρ ρ' base alike).Lasting moment moment' where
  judge {m m' f f'} n hm hf := by
    obtain ⟨rfl, halike⟩ := hm
    obtain ⟨houtcome, hnext⟩ := halike.judge hf fun hbase => hclock hbase n
    refine ⟨congrArg Outcome.isDuplicate houtcome, ?_, hnext⟩
    exact congrArg Config.timeBase (m.detector.config_judge f (moment n))
  reject hm := hm
  offer := hblind.offer
  release := hblind.release

namespace Session

variable {σ ρ ρ' : Type}

/-- Where in the queue the frames stood that the sink was handed, in the order of the deliveries. -/
def positions (moment : Nat → Moment) (d : Detector) (s : Session σ ρ) : List Nat :=
  (passed (List.range s.entered.length) (d.watch moment 0 s.frames).1).take
    s.ingest.sink.answered.length

theorem Stands.handed_at_positions [Recorder ρ] {moment : Nat → Moment} {monitor : Monitor ρ}
    {s : Session σ ρ} (h : s.Stands moment monitor) :
    (s.positions moment monitor.detector).map (fun i => s.frames[i]?) =
      s.ingest.sink.answered.map fun x => some x.1 := by
  obtain ⟨handed, hanswered, hpassed⟩ := h.exists_handed
  have hlength := congrArg List.length hanswered
  rw [List.length_map, List.length_map] at hlength
  have hpositions : s.positions moment monitor.detector = handed.map Prod.snd := by
    have hrange : List.range s.entered.length = s.frames.zipIdx.map Prod.snd := by
      rw [List.zipIdx_map_snd, Session.frames, List.length_map, List.range_eq_range']
    rw [positions, hrange, passed_map, hlength, ← List.map_take]
    exact congrArg _ (List.prefix_iff_eq_take.1 hpassed).symm
  have hframes : s.ingest.sink.answered.map (fun x => some x.1) =
      handed.map fun x => some x.1 := by
    have hmap := congrArg (List.map some) hanswered
    rw [List.map_map, List.map_map] at hmap
    exact hmap
  rw [hpositions, hframes, List.map_map]
  refine List.map_congr_left fun x hx => ?_
  exact (getElem?_of_mem_passages (hpassed.subset hx)).1

/-- Two sessions come to the same: the sinks were handed frames from the same positions and answered
the same, and reports and detectors are the same. -/
structure SameRun (moment moment' : Nat → Moment) (d d' : Detector) (s : Session σ ρ)
    (s' : Session σ ρ') : Prop where
  positions : s'.positions moment' d' = s.positions moment d
  handed : (s.positions moment d).map (fun i => s.frames[i]?) =
    s.ingest.sink.answered.map fun x => some x.1
  handed' : (s'.positions moment' d').map (fun i => s'.frames[i]?) =
    s'.ingest.sink.answered.map fun x => some x.1
  answers : s'.ingest.sink.answered.map Prod.snd = s.ingest.sink.answered.map Prod.snd
  report? : s'.report? = s.report?
  detector : s.ingest.monitor.detector.Alike s'.ingest.monitor.detector

theorem Tied.frames {tie : Tie σ σ ρ ρ'} {s : Session σ ρ} {s' : Session σ ρ'} (h : s.Tied tie s') :
    List.Forall₂ tie.frame s.frames s'.frames := by
  unfold Session.frames
  rw [List.forall₂_map_left_iff, List.forall₂_map_right_iff]
  exact h.entered.imp fun _ _ hx => hx.2

theorem Tied.positions {base : TimeBase} {alike : σ → σ → Prop} {s : Session σ ρ}
    {s' : Session σ ρ'} (h : s.Tied (Tie.timeline ρ ρ' base alike) s') {d d' : Detector}
    (hd : d.Alike d') (hbase : d.config.timeBase = base) {moment moment' : Nat → Moment}
    (hclock : base = .clock → ∀ n, (moment' n).clock = (moment n).clock) :
    s'.positions moment' d' = s.positions moment d := by
  subst hbase
  have houtcomes := (hd.watch hclock h.frames 0).1
  have hanswered := h.ingest.sink.2.length_eq
  unfold Session.positions
  rw [passed_congr houtcomes, ← h.entered.length_eq, ← hanswered]

theorem Tied.answers {tie : Tie σ σ ρ ρ'} {s : Session σ ρ} {s' : Session σ ρ'}
    (h : s.Tied tie s') :
    s'.ingest.sink.answered.map Prod.snd = s.ingest.sink.answered.map Prod.snd := by
  have hsink := h.ingest.sink.2
  generalize s.ingest.sink.answered = answered at hsink
  generalize s'.ingest.sink.answered = answered' at hsink
  induction hsink with
  | nil => rfl
  | cons hx _ ih => rw [List.map_cons, List.map_cons, hx.2, ih]

end Session

namespace Detector

/-- What is left out by the time base of `d` shows in nothing that `d` and `d'` do. -/
structure OneTimeline (d d' : Detector) : Prop where
  run : ∀ calls calls' : List Call, Call.AllAlike d.config.timeBase calls calls' →
    (d'.run calls').1.filter Outcome.isReturned = (d.run calls).1.filter Outcome.isReturned ∧
      (d.run calls).2.Alike (d'.run calls').2
  -- Reports come at any time and go to any recorders.
  shared : ∀ (ρ ρ' : Type) [Recorder ρ] [Recorder ρ'] (recorder : ρ) (recorder' : ρ')
    (halves halves' : List Half),
    Call.AllAlike d.config.timeBase (halves.filterMap Half.call?) (halves'.filterMap Half.call?) →
    (Traffic.run ⟨⟨d', recorder'⟩, []⟩ halves').1.filter Outcome.isReturned =
        (Traffic.run ⟨⟨d, recorder⟩, []⟩ halves).1.filter Outcome.isReturned ∧
      (Traffic.run ⟨⟨d, recorder⟩, []⟩ halves).2.monitor.detector.Alike
        (Traffic.run ⟨⟨d', recorder'⟩, []⟩ halves').2.monitor.detector
  idle : d.config.timeBase = .frameArrival → ∀ (calls : List Call) (mark : Time),
    (d.run calls).2.window.mark = some mark → ∀ (id : UInt32) (bytes : List UInt8),
      ((d.run calls).2.perform (.check id bytes none)).2.window.mark = some mark
  -- Whatever the sinks: what the detector lets pass of a queue.
  queue : ∀ (moment moment' : Nat → Moment) (frames frames' : List Frame),
    (d.config.timeBase = .clock → ∀ n, (moment' n).clock = (moment n).clock) →
    List.Forall₂ (Frame.Alike d.config.timeBase) frames frames' →
    passed (List.range frames'.length) (d'.watch moment' 0 frames').1 =
      passed (List.range frames.length) (d.watch moment 0 frames).1
  -- A sink may look at all of a frame, so what it answers is the same only if it does not.
  ingest : ∀ (σ ρ ρ' : Type) [Sink σ] [Recorder ρ] [Recorder ρ'] (alike : σ → σ → Prop),
    Sink.Blind d.config.timeBase alike → ∀ (sink sink' : σ), alike sink sink' →
    ∀ (recorder : ρ) (recorder' : ρ') (capacity : Nat) (moment moment' : Nat → Moment),
    (d.config.timeBase = .clock → ∀ n, (moment' n).clock = (moment n).clock) →
    ∀ turns turns' : List (Turn σ),
    List.Forall₂ (Turn.Tied (Tie.timeline ρ ρ' d.config.timeBase alike)) turns turns' →
    (Session.start ⟨d', recorder'⟩ sink' capacity).replies moment' turns' =
        (Session.start ⟨d, recorder⟩ sink capacity).replies moment turns ∧
      Session.SameRun moment moment' d d'
        ((Session.start ⟨d, recorder⟩ sink capacity).play moment turns)
        ((Session.start ⟨d', recorder'⟩ sink' capacity).play moment' turns')

theorem Alike.oneTimeline {d d' : Detector} (h : d.Alike d') : d.OneTimeline d' where
  run _ _ hcalls := h.run hcalls
  shared ρ ρ' _ _ recorder recorder' halves halves' hcalls := by
    have hrun := Traffic.run_eq ⟨⟨d, recorder⟩, []⟩ halves
    have hrun' := Traffic.run_eq ⟨⟨d', recorder'⟩, []⟩ halves'
    rw [Prod.ext_iff] at hrun hrun'
    dsimp only at hrun hrun'
    rw [hrun.1, hrun.2, hrun'.1, hrun'.2]
    exact h.run hcalls
  idle hbase calls mark hmark id bytes :=
    (d.run calls).2.mark_check_of_now (by rw [config_run, hbase]) hmark id bytes
  queue moment moment' frames frames' hclock hframes := by
    rw [passed_congr (h.watch hclock hframes 0).1, hframes.length_eq]
  ingest σ ρ ρ' _ _ _ alike hblind sink sink' hsink recorder recorder' capacity moment moment'
      hclock turns turns' hturns := by
    have hmonitor : (Tie.timeline ρ ρ' d.config.timeBase alike).monitor ⟨d, recorder⟩
        ⟨d', recorder'⟩ := ⟨rfl, h⟩
    obtain ⟨hreplies, htied⟩ := (Session.tied_start hmonitor hsink capacity).play
      (lasting_timeline hblind hclock) hturns
    have hstands := (Session.stands_start moment ⟨d, recorder⟩ sink capacity).play turns
    have hstands' := (Session.stands_start moment' ⟨d', recorder'⟩ sink' capacity).play turns'
    refine ⟨hreplies, ?_⟩
    exact
      { positions := htied.positions h rfl hclock
        handed := hstands.handed_at_positions
        handed' := hstands'.handed_at_positions
        answers := htied.answers
        report? := htied.report?
        detector := htied.ingest.monitor.2 }

/-- **One detector has one timeline.**  A valid configuration gives detectors, and what the time
base leaves out shows in nothing that they return or keep: under the clock, the stamps and
interfaces of frames; under frame arrival, all that the clock shows, and interfaces again. -/
theorem follows_one_timeline (config : Config) (hvalid : config.Valid) (clock clock' : Clock)
    (hclock : config.timeBase = .clock → clock' = clock) :
    ∃ d d', create config clock = .ok d ∧ create config clock' = .ok d' ∧ d.OneTimeline d' :=
  ⟨_, _, create_of_valid config clock hvalid, create_of_valid config clock' hvalid,
    Alike.oneTimeline ⟨rfl, rfl, hclock⟩⟩

/-- Under the clock a repeat is found 20 ms later, whatever its stamp; under frame arrival a channel
is handed the first and the third frame, whatever the clock shows. -/
theorem follows_one_timeline_both_bases :
    (Config.Valid ⟨50, 2, .bits64, .recency, .clock⟩ ∧
      ∃ d, create ⟨50, 2, .bits64, .recency, .clock⟩ ⟨5⟩ = .ok d ∧
        ((d.run [.check 0x123 [1] none, .advanceClock 20,
          .frame ⟨⟨0x123, by decide⟩, ⟨[1], by decide⟩, 0, "can1"⟩]).1.filter
            Outcome.isReturned).map Outcome.isDuplicate = [false, true]) ∧
    (Config.Valid ⟨50, 2, .bits64, .recency, .frameArrival⟩ ∧
      ∃ d, create ⟨50, 2, .bits64, .recency, .frameArrival⟩ ⟨7⟩ = .ok d ∧
        ∃ s, s = (Session.start ⟨d, ()⟩ (Channel.ofCapacity 4) 8).play
            (fun n => { clock := ⟨UInt64.ofNat (900 - n)⟩ })
            [.attach "vcan", .dropHandle, .send 0 0x123 [1] 100, .send 0 0x123 [1] 120,
              .send 0 0x124 [] 130, .detach 0, .poll] ∧
          s.positions (fun n => { clock := ⟨UInt64.ofNat (900 - n)⟩ }) d = [0, 2] ∧
          s.report? = some ⟨3, 2, 1, 0⟩) := by
  constructor
  · obtain ⟨d, d', hd, hd', h⟩ := follows_one_timeline ⟨50, 2, .bits64, .recency, .clock⟩
      (by decide) ⟨5⟩ ⟨5⟩ fun _ => rfl
    have hrun := h.run
      [.check 0x123 [1] none, .advanceClock 20,
        .frame ⟨⟨0x123, by decide⟩, ⟨[1], by decide⟩, 999, "can0"⟩]
      [.check 0x123 [1] none, .advanceClock 20,
        .frame ⟨⟨0x123, by decide⟩, ⟨[1], by decide⟩, 0, "can1"⟩]
    cases hd
    cases hd'
    refine ⟨by decide, _, rfl, ?_⟩
    rw [(hrun (.cons (.same _) (.cons (.same _) (.cons (.frame ⟨rfl, rfl, nofun⟩) .nil)))).1]
    decide +kernel
  · obtain ⟨d, d', hd, hd', h⟩ := follows_one_timeline ⟨50, 2, .bits64, .recency, .frameArrival⟩
      (by decide) ⟨0⟩ ⟨7⟩ nofun
    have hrun := h.ingest Channel Unit Unit (Channel.Alike .frameArrival)
    cases hd
    cases hd'
    have hsame := (hrun (Channel.blind _) (Channel.ofCapacity 4) (Channel.ofCapacity 4)
      ⟨rfl, .nil, rfl, rfl⟩ () () 8 (fun _ => { clock := ⟨0⟩ })
      (fun n => { clock := ⟨UInt64.ofNat (900 - n)⟩ }) nofun
      [.attach "can0", .dropHandle, .send 0 0x123 [1] 100, .send 0 0x123 [1] 120,
        .send 0 0x124 [] 130, .detach 0, .poll]
      [.attach "vcan", .dropHandle, .send 0 0x123 [1] 100, .send 0 0x123 [1] 120,
        .send 0 0x124 [] 130, .detach 0, .poll]
      (.cons (.attach trivial) (.cons .dropHandle
        (.cons (.send 0 _ _ fun _ _ _ _ _ => ⟨rfl, rfl, fun _ => rfl⟩)
          (.cons (.send 0 _ _ fun _ _ _ _ _ => ⟨rfl, rfl, fun _ => rfl⟩)
            (.cons (.send 0 _ _ fun _ _ _ _ _ => ⟨rfl, rfl, fun _ => rfl⟩)
              (.cons (.detach 0) (.cons .poll .nil)))))))).2
    refine ⟨by decide, _, rfl, _, rfl, ?_, ?_⟩
    · rw [hsame.positions]
      decide +kernel
    · rw [hsame.report?]
      decide +kernel

end Detector

end EchoFilter
