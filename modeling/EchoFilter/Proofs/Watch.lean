import EchoFilter.Ingest.Adapter
import EchoFilter.Proofs.Acts

/-!
# Watch — frames judged one after another

What the adapter asks of the detector does not depend on the sink: every frame it takes is judged,
in the order of the queue and at its own moment.  `Detector.watch` is that sequence alone, with the
note left by each frame, and `passed` picks out what is then due to the sink.
-/

namespace EchoFilter

def Note.isDuplicate (n : Note) : Bool :=
  n.outcome.isDuplicate

/-- The elements whose notes say that they are no duplicates. -/
def passed {α : Type} : List α → List Note → List α
  | x :: xs, n :: notes => if n.isDuplicate then passed xs notes else x :: passed xs notes
  | _, _ => []

section Passed

variable {α β : Type}

theorem passed_append {xs : List α} {notes : List Note} (h : xs.length = notes.length)
    (ys : List α) (notes' : List Note) :
    passed (xs ++ ys) (notes ++ notes') = passed xs notes ++ passed ys notes' := by
  induction xs generalizing notes with
  | nil =>
    rw [List.length_nil, eq_comm, List.length_eq_zero_iff] at h
    rw [h]
    rfl
  | cons x xs ih =>
    cases notes with
    | nil => cases h
    | cons n notes =>
      have hrest := ih (Nat.succ.inj h)
      simp only [List.cons_append, passed, hrest]
      split <;> rfl

theorem passed_map (f : α → β) (xs : List α) (notes : List Note) :
    passed (xs.map f) notes = (passed xs notes).map f := by
  induction xs generalizing notes with
  | nil => rfl
  | cons x xs ih =>
    cases notes with
    | nil => rfl
    | cons n notes =>
      simp only [List.map_cons, passed, ih]
      split <;> rfl

theorem passed_sublist (xs : List α) (notes : List Note) : (passed xs notes).Sublist xs := by
  induction xs generalizing notes with
  | nil => exact List.Sublist.refl _
  | cons x xs ih =>
    cases notes with
    | nil => exact List.nil_sublist _
    | cons n notes =>
      rw [passed]
      split
      · exact (ih notes).cons x
      · exact (ih notes).cons_cons x

theorem length_passed {xs : List α} {notes : List Note} (h : xs.length = notes.length) :
    (passed xs notes).length + notes.countP Note.isDuplicate = xs.length := by
  induction xs generalizing notes with
  | nil =>
    rw [List.length_nil, eq_comm, List.length_eq_zero_iff] at h
    rw [h]
    rfl
  | cons x xs ih =>
    cases notes with
    | nil => cases h
    | cons n notes =>
      have hrest := ih (Nat.succ.inj h)
      rw [passed, List.countP_cons, List.length_cons]
      split
      · omega
      · rw [List.length_cons]
        omega

theorem getElem?_of_mem_passed {xs : List α} {notes : List Note} {x : α}
    (h : x ∈ passed xs notes) :
    ∃ (i : Nat) (n : Note), xs[i]? = some x ∧ notes[i]? = some n ∧ n.isDuplicate = false := by
  induction xs generalizing notes with
  | nil => cases h
  | cons y xs ih =>
    cases notes with
    | nil => cases h
    | cons m notes =>
      rw [passed] at h
      cases hm : m.isDuplicate with
      | true =>
        rw [if_pos hm] at h
        obtain ⟨i, n, hx, hn, hnew⟩ := ih h
        exact ⟨i + 1, n, hx, hn, hnew⟩
      | false =>
        rw [if_neg (by rw [hm]; exact Bool.false_ne_true), List.mem_cons] at h
        rcases h with rfl | h
        · exact ⟨0, m, rfl, rfl, hm⟩
        · obtain ⟨i, n, hx, hn, hnew⟩ := ih h
          exact ⟨i + 1, n, hx, hn, hnew⟩

end Passed

namespace Detector

def judge (d : Detector) (f : Frame) (moment : Moment) : Note × Detector :=
  Monitor.locked { d with clock := moment.clock } (.frame f) moment.elapsed

/-- Judges frames one after another, the first at `moment n` and so on: the notes of them, and the
detector after the last. -/
def watch (moment : Nat → Moment) (n : Nat) (d : Detector) : List Frame → List Note × Detector
  | [] => ([], d)
  | f :: rest =>
    let (note, d) := d.judge f (moment n)
    let (notes, d) := d.watch moment (n + 1) rest
    (note :: notes, d)

@[simp] theorem length_watch (moment : Nat → Moment) (n : Nat) (d : Detector)
    (frames : List Frame) : (d.watch moment n frames).1.length = frames.length := by
  induction frames generalizing n d with
  | nil => rfl
  | cons f rest ih => exact congrArg (· + 1) (ih ..)

theorem watch_append (moment : Nat → Moment) (n : Nat) (d : Detector) (xs ys : List Frame) :
    d.watch moment n (xs ++ ys) =
      ((d.watch moment n xs).1 ++
          ((d.watch moment n xs).2.watch moment (n + xs.length) ys).1,
        ((d.watch moment n xs).2.watch moment (n + xs.length) ys).2) := by
  induction xs generalizing n d with
  | nil => rfl
  | cons x xs ih =>
    simp only [List.cons_append, watch, ih, List.length_cons, Nat.add_assoc, Nat.add_comm 1]

theorem watch_concat (moment : Nat → Moment) (d : Detector) (frames : List Frame) (f : Frame) :
    d.watch moment 0 (frames ++ [f]) =
      ((d.watch moment 0 frames).1 ++
          [((d.watch moment 0 frames).2.judge f (moment frames.length)).1],
        ((d.watch moment 0 frames).2.judge f (moment frames.length)).2) := by
  rw [watch_append, Nat.zero_add]
  rfl

theorem passed_watch_concat (moment : Nat → Moment) (d : Detector) (frames : List Frame)
    (f : Frame) :
    passed (frames ++ [f]) (d.watch moment 0 (frames ++ [f])).1 =
      passed frames (d.watch moment 0 frames).1 ++
        if ((d.watch moment 0 frames).2.judge f (moment frames.length)).1.isDuplicate then []
        else [f] := by
  rw [watch_concat, passed_append (length_watch ..).symm]
  rfl

-- The clock is set before each frame, so only the window carries over.
theorem config_judge (d : Detector) (f : Frame) (moment : Moment) :
    (d.judge f moment).2.config = d.config :=
  config_perform { d with clock := moment.clock } (.frame f)

theorem judge_outcome (d : Detector) (f : Frame) (moment : Moment) :
    (d.judge f moment).1.outcome =
      .judged f.id (d.window.check d.limits (.ofFrame d.config.width f)
        (Call.arrivalTime d.config moment.clock f)).1 := rfl

theorem isDuplicate_judge (d : Detector) (f : Frame) (moment : Moment) :
    (d.judge f moment).1.isDuplicate =
      (d.window.check d.limits (.ofFrame d.config.width f)
        (Call.arrivalTime d.config moment.clock f)).1.duplicate := rfl

theorem judge_window (d : Detector) (f : Frame) (moment : Moment) :
    (d.judge f moment).2.window =
      (d.window.check d.limits (.ofFrame d.config.width f)
        (Call.arrivalTime d.config moment.clock f)).2 := rfl

end Detector

end EchoFilter
