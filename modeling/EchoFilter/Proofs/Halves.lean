import EchoFilter.Monitor

/-!
# Halves — interleaved calls on a shared detector

Several listeners call one detector through their own handles.  The locked halves of their calls
exclude each other; a report may come at any later point, between the halves of other calls.  A run
here is any sequence of halves, and `run_eq` says that to the callers it is one detector, called in
the order of the locks.
-/

namespace EchoFilter

/-- One half of a call: the locked one, or the report of one of the notes that are due. -/
inductive Half where
  | lock (c : Call) (elapsed : Duration)
  | report (i : Nat)

def Half.call? : Half → Option Call
  | .lock c _ => some c
  | .report _ => none

/-- A shared detector with the notes still to be reported, oldest first. -/
structure Traffic (ρ : Type) where
  monitor : Monitor ρ
  due : List Note

namespace Traffic

variable {ρ : Type} [Recorder ρ]

def lock (s : Traffic ρ) (c : Call) (elapsed : Duration) : Outcome × Traffic ρ :=
  let (n, detector) := Monitor.locked s.monitor.detector c elapsed
  (n.outcome, { monitor := { s.monitor with detector }, due := s.due ++ [n] })

/-- Reports one note that is due, whichever it is. -/
def report (s : Traffic ρ) (i : Nat) : Traffic ρ :=
  match s.due[i]? with
  | some n => { monitor := s.monitor.report n, due := s.due.eraseIdx i }
  | none => s

/-- The answers of the calls in the order of their locks, and what is left at the end. -/
def run (s : Traffic ρ) : List Half → List Outcome × Traffic ρ
  | [] => ([], s)
  | .lock c elapsed :: rest =>
    let (o, s) := s.lock c elapsed
    let (os, s) := s.run rest
    (o :: os, s)
  | .report i :: rest => (s.report i).run rest

@[simp] theorem detector_report (s : Traffic ρ) (i : Nat) :
    (s.report i).monitor.detector = s.monitor.detector := by
  unfold report
  split <;> rfl

theorem run_eq (s : Traffic ρ) (halves : List Half) :
    ((s.run halves).1, (s.run halves).2.monitor.detector) =
      s.monitor.detector.run (halves.filterMap Half.call?) := by
  -- A report never touches the detector, so only the locked halves count.
  induction halves generalizing s with
  | nil => rfl
  | cons half rest ih =>
    cases half with
    | lock c elapsed =>
      have hrest := ih (s.lock c elapsed).2
      rw [Prod.ext_iff] at hrest ⊢
      exact ⟨congrArg (List.cons _) hrest.1, hrest.2⟩
    | report i =>
      have hrest := ih (s.report i)
      rw [detector_report] at hrest
      exact hrest

end Traffic

end EchoFilter
