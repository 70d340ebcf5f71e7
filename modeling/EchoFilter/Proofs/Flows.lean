import EchoFilter.Proofs.Sessions

/-!
# Flows — polls in front of a sink that takes what it is offered

From what one poll can answer and leave (`Ingest.Polls`) follows what every poll keeps
(`Adapter.Keeps`), and that a queue which nobody feeds and nothing holds up runs empty.  A channel
that is read is such a sink: it takes every frame it is offered (`Noted.Flows`).
-/

namespace EchoFilter

/-! ## One poll -/

section Polls

variable {σ ρ : Type} [Recorder ρ] [Sink σ] {moment : Nat → Moment} {g : Ingest σ ρ}
  {P : Monitor ρ → σ → Prop}

theorem Ingest.sink_of_finished {report : Report} (h : (g.poll moment).1 = .finished report) :
    ∃ s, (g.poll moment).2.1.sink = Sink.release s := by
  have hpolls := g.polls moment
  generalize g.poll moment = polled at hpolls h ⊢
  obtain ⟨answer, g', events⟩ := polled
  cases hpolls with
  | stopped | waits => cases h
  | ends => exact ⟨_, rfl⟩

/-! ## What judgements and deliveries keep -/

/-- Whatever judging a frame and delivering it keep. -/
structure Adapter.Keeps (P : Monitor ρ → σ → Prop) : Prop where
  judge : ∀ (a : Adapter σ ρ) f moment, P a.monitor a.sink →
    P (a.judge f moment).2.1.monitor (a.judge f moment).2.1.sink
  offer : ∀ m s f answer s', P m s → Sink.offer s f = some (answer, s') → P m s'

theorem Adapter.Keeps.deliver (h : Adapter.Keeps P) {a : Adapter σ ρ} (ha : P a.monitor a.sink)
    (f : Frame) :
    (∀ b events, a.deliver f = .done b events → P b.monitor b.sink) ∧
      (∀ b, a.deliver f = .closed b → P b.monitor b.sink) := by
  unfold Adapter.deliver
  cases hoffer : Sink.offer a.sink f with
  | none => exact ⟨fun _ _ hd => (nomatch hd), fun _ hd => (nomatch hd)⟩
  | some p =>
    obtain ⟨answer, s⟩ := p
    have hs := h.offer a.monitor a.sink f answer s ha hoffer
    match answer with
    | .ok () | .error (.rejected _) =>
      refine ⟨fun b events hd => ?_, fun _ hd => (nomatch hd)⟩
      cases hd
      exact hs
    | .error .closed =>
      refine ⟨fun _ _ hd => (nomatch hd), fun b hd => ?_⟩
      cases hd
      exact hs

theorem Adapter.Keeps.drain (h : Adapter.Keeps P) (moment : Nat → Moment) {a : Adapter σ ρ}
    (ha : P a.monitor a.sink) (queue : List Frame) :
    P (a.drain moment queue).adapter.monitor (a.drain moment queue).adapter.sink := by
  induction queue generalizing a with
  | nil => exact ha
  | cons f rest ih =>
    have hb := h.judge a f (moment a.report.received) ha
    rcases hj : a.judge f (moment a.report.received) with ⟨dropped, b, events⟩
    rw [hj] at hb
    cases dropped with
    | true =>
      rw [Adapter.drain_of_dropped hj]
      exact ih hb
    | false =>
      obtain ⟨hdone, hclosed⟩ := h.deliver hb f
      cases hd : b.deliver f with
      | busy =>
        rw [Adapter.drain_of_busy hj hd]
        exact hb
      | done c later =>
        rw [Adapter.drain_of_done hj hd]
        exact ih (hdone c later hd)
      | closed c =>
        rw [Adapter.drain_of_closed hj hd]
        exact hclosed c hd

theorem Adapter.Keeps.resume (h : Adapter.Keeps P) (moment : Nat → Moment) {a : Adapter σ ρ}
    (ha : P a.monitor a.sink) (kept : Option Frame) (queue : List Frame) :
    P (a.resume moment kept queue).adapter.monitor (a.resume moment kept queue).adapter.sink := by
  cases kept with
  | none => exact h.drain moment ha queue
  | some f =>
    obtain ⟨hdone, hclosed⟩ := h.deliver ha f
    rw [Adapter.resume]
    cases hd : a.deliver f with
    | busy => exact ha
    | done b events => exact h.drain moment (hdone b events hd) queue
    | closed b => exact hclosed b hd

/-- A poll keeps it as well, if releasing the sink does. -/
theorem Adapter.Keeps.poll (h : Adapter.Keeps P) (hrelease : ∀ m s, P m s → P m (Sink.release s))
    (moment : Nat → Moment) (hg : P g.monitor g.sink) :
    P (g.poll moment).2.1.monitor (g.poll moment).2.1.sink := by
  have hresume (report : Report) (kept : Option Frame) :=
    h.resume moment (a := g.adapter report) hg kept g.inlet.queue
  have hpolls := g.polls moment
  generalize g.poll moment = polled at hpolls ⊢
  obtain ⟨answer, g', events⟩ := polled
  cases hpolls with
  | stopped => exact hg
  | waits task hrun =>
    rw [← hrun]
    exact hresume _ _
  | ends hrun =>
    rw [← hrun]
    exact hrelease _ _ (hresume _ _)

/-! ## Runs that have to wait -/

-- A run that has to wait for its sink has taken a frame.
theorem Adapter.length_drain_of_held (moment : Nat → Moment) (a : Adapter σ ρ)
    {queue : List Frame} {f : Frame} (h : (a.drain moment queue).halt = .held f) :
    (a.drain moment queue).rest.length < queue.length := by
  induction queue generalizing a with
  | nil => cases h
  | cons g rest ih =>
    rcases hj : a.judge g (moment a.report.received) with ⟨dropped, b, events⟩
    cases dropped with
    | true =>
      rw [drain_of_dropped hj] at h ⊢
      exact Nat.lt_succ_of_lt (ih b h)
    | false =>
      cases hd : b.deliver g with
      | busy =>
        rw [drain_of_busy hj hd]
        exact Nat.lt_succ_self _
      | done c later =>
        rw [drain_of_done hj hd] at h ⊢
        exact Nat.lt_succ_of_lt (ih c h)
      | closed c =>
        rw [drain_of_closed hj hd] at h
        cases h

theorem Adapter.length_resume_of_held (moment : Nat → Moment) {a : Adapter σ ρ}
    (htakes : ∀ f, a.deliver f ≠ .busy) {kept : Option Frame} {queue : List Frame} {f : Frame}
    (h : (a.resume moment kept queue).halt = .held f) :
    (a.resume moment kept queue).rest.length < queue.length := by
  cases kept with
  | none => exact a.length_drain_of_held moment h
  | some k =>
    rw [resume] at h ⊢
    cases hd : a.deliver k with
    | busy => exact absurd hd (htakes k)
    | done b events =>
      rw [hd] at h
      exact b.length_drain_of_held moment h
    | closed b =>
      rw [hd] at h
      cases h

/-- A queue that nobody can feed any more gets shorter, or the run ends, as long as the sink takes
the frame in hand. -/
theorem Ingest.poll_shrinks (moment : Nat → Moment) (hclosed : g.inlet.isOpen = false)
    (htakes : ∀ (a : Adapter σ ρ) f, a.sink = g.sink → a.deliver f ≠ .busy) :
    (∃ report, (g.poll moment).1 = .finished report) ∨ g.task = .ended ∨
      (g.poll moment).2.1.inlet.queue.length < g.inlet.queue.length := by
  have hpolls := g.polls moment
  generalize g.poll moment = polled at hpolls ⊢
  obtain ⟨answer, g', events⟩ := polled
  cases hpolls with
  | stopped htask => exact Or.inr (Or.inl htask)
  | waits task hrun hhalt =>
    rw [hclosed] at hhalt
    obtain ⟨f, hheld⟩ := hhalt.resolve_right Bool.false_ne_true
    rw [← hrun] at hheld ⊢
    exact Or.inr (Or.inr (Adapter.length_resume_of_held moment (htakes _ · rfl) hheld))
  | ends => exact Or.inl ⟨_, rfl⟩

end Polls

/-! ## Channels that are read -/

/-- A channel that is being read has taken every frame it was offered; the reader has had the first
of them, and the buffer holds the others. -/
structure Noted.Flows (s : Noted Channel) (yielded : List Frame) : Prop where
  reading : s.sink.reading = true
  capacity : 0 < s.sink.capacity
  length_le : s.sink.buffer.length ≤ s.sink.capacity
  taken : ∀ x ∈ s.answered, x.2.isTaken = true
  order : s.answered.map Prod.fst = yielded ++ s.sink.buffer

namespace Noted

variable {s s' : Noted Channel} {yielded : List Frame} {f : Frame}

theorem Flows.offer_eq (h : s.Flows yielded) (f : Frame) :
    Sink.offer s f =
      if s.sink.buffer.length < s.sink.capacity then
        some (.ok (), { sink := { s.sink with buffer := s.sink.buffer ++ [f] }
                        answered := s.answered ++ [(f, .ok ())] })
      else none := by
  have hoffer : Sink.offer s.sink f =
      if s.sink.buffer.length < s.sink.capacity then
        some (.ok (), { s.sink with buffer := s.sink.buffer ++ [f] })
      else none := by
    have hreading : ¬(!s.sink.reading) = true := by simp [h.reading]
    exact if_neg hreading
  show (Sink.offer s.sink f).map _ = _
  rw [hoffer]
  split <;> rfl

theorem Flows.offer (h : s.Flows yielded) {answer : Answer}
    (hoffer : Sink.offer s f = some (answer, s')) : s'.Flows yielded := by
  rw [h.offer_eq] at hoffer
  by_cases hfree : s.sink.buffer.length < s.sink.capacity
  · rw [if_pos hfree] at hoffer
    cases hoffer
    refine ⟨h.reading, h.capacity, ?_, fun x hx => ?_, ?_⟩
    · show (s.sink.buffer ++ [f]).length ≤ s.sink.capacity
      rw [List.length_append, List.length_singleton]
      omega
    · rw [List.mem_append, List.mem_singleton] at hx
      rcases hx with hx | rfl
      · exact h.taken x hx
      · rfl
    · rw [List.map_append, h.order, List.append_assoc]
      rfl
  · rw [if_neg hfree] at hoffer
    cases hoffer

theorem Flows.release (h : s.Flows yielded) : (Sink.release s).Flows yielded :=
  ⟨h.reading, h.capacity, h.length_le, h.taken, h.order⟩

end Noted

/-- The frames that join a reader's when it reads. -/
def Channel.Reading.frames : Channel.Reading → List Frame
  | .frame f => [f]
  | .empty | .disconnected => []

theorem Channel.writing_receive (c : Channel) : c.receive.2.writing = c.writing := by
  unfold receive
  split <;> rfl

theorem Noted.Flows.receive {s : Noted Channel} {yielded : List Frame} (h : s.Flows yielded) :
    Noted.Flows { s with sink := s.sink.receive.2 } (yielded ++ s.sink.receive.1.frames) := by
  obtain ⟨⟨capacity, buffer, writing, reading⟩, answered⟩ := s
  obtain ⟨hreading, hcapacity, hlength, htaken, horder⟩ := h
  cases buffer with
  | nil =>
    have hnothing : (if writing && reading then Channel.Reading.empty else .disconnected).frames =
        [] := by split <;> rfl
    show Noted.Flows _ (yielded ++ Channel.Reading.frames (if _ then _ else _))
    rw [hnothing, List.append_nil]
    exact ⟨hreading, hcapacity, hlength, htaken, horder⟩
  | cons f rest =>
    refine ⟨hreading, hcapacity, Nat.le_of_succ_le hlength, htaken, ?_⟩
    rw [horder]
    exact List.append_cons ..

-- Whether a frame was read or there was none, the buffer has room now.
theorem Noted.Flows.free {s : Noted Channel} {yielded : List Frame} (h : s.Flows yielded) :
    s.sink.receive.2.buffer.length < s.sink.receive.2.capacity := by
  obtain ⟨⟨capacity, buffer, writing, reading⟩, answered⟩ := s
  obtain ⟨hreading, hcapacity, hlength, htaken, horder⟩ := h
  cases buffer with
  | nil => exact hcapacity
  | cons f rest => exact hlength

end EchoFilter
