import Mathlib.Data.List.Forall2
import EchoFilter.Ingest

/-!
# Sendings — what becomes of what a sender hands in

Raw data beyond the limits of a frame is refused and counted as rejected.  Anything else joins the
end of the queue, as the frame that holds it, or leaves the queue as it is: `Inlet.enqueues`,
`Ingest.sends_sendFrame` and `Ingest.sends_send` say which, and what the sender is told.  So what
senders hear (`Heard`) tells what has entered a queue, without a look at the queue
(`Sending.Enters`).
-/

namespace EchoFilter

/-! ## What is no frame -/

/-- What is wrong with raw data, if anything; the id is looked at first. -/
def Frame.fault? (id : UInt32) (bytes : List UInt8) : Option FrameError :=
  if 0x1FFFFFFF < id.toNat then some (.invalidId id.toNat)
  else if 8 < bytes.length then some (.payloadTooLong bytes.length 8)
  else none

theorem Frame.isSome_fault?_iff {id : UInt32} {bytes : List UInt8} :
    (Frame.fault? id bytes).isSome = true ↔ 0x1FFFFFFF < id.toNat ∨ 8 < bytes.length := by
  unfold Frame.fault?
  split
  next hid => simp [hid]
  next hid =>
    split
    next hlength => simp [hlength]
    next hlength => simp [hid, hlength]

section Reading

variable {id : UInt32} {bytes : List UInt8} {e : FrameError}

theorem Frame.reads_of_none (h : Frame.fault? id bytes = none) :
    ∃ i p, ArbitrationId.ofRaw id = .ok i ∧ Payload.ofBytes bytes = .ok p := by
  unfold Frame.fault? at h
  split at h
  · cases h
  next hid =>
    split at h
    · cases h
    next hlength =>
      have hle := Nat.not_lt.1 hid
      have hshort := Nat.not_lt.1 hlength
      exact ⟨⟨id, hle⟩, ⟨bytes, hshort⟩, dif_pos hle, dif_pos hshort⟩

theorem Frame.stops_of_fault (h : Frame.fault? id bytes = some e) :
    ArbitrationId.ofRaw id = .error e ∨
      ∃ i, ArbitrationId.ofRaw id = .ok i ∧ Payload.ofBytes bytes = .error e := by
  unfold Frame.fault? at h
  split at h
  next hid =>
    cases h
    exact Or.inl (ArbitrationId.ofRaw_eq_error_iff.2 ⟨hid, rfl⟩)
  next hid =>
    split at h
    next hlength =>
      cases h
      have hle := Nat.not_lt.1 hid
      exact Or.inr ⟨⟨id, hle⟩, dif_pos hle, Payload.ofBytes_eq_error_iff.2 ⟨hlength, rfl⟩⟩
    · cases h

theorem Frame.ofRaw_of_none (h : Frame.fault? id bytes = none) (timestamp : UInt64)
    (interface : String) : ∃ f, Frame.ofRaw id bytes timestamp interface = .ok f := by
  obtain ⟨i, p, hid, hbytes⟩ := Frame.reads_of_none h
  unfold Frame.ofRaw
  simp only [hid, hbytes]
  exact ⟨_, rfl⟩

theorem Frame.ofRaw_of_fault (h : Frame.fault? id bytes = some e) (timestamp : UInt64)
    (interface : String) : Frame.ofRaw id bytes timestamp interface = .error e := by
  unfold Frame.ofRaw
  rcases Frame.stops_of_fault h with hid | ⟨i, hid, hbytes⟩
  · simp only [hid]
  · simp only [hid, hbytes]

end Reading

/-! ## One sending -/

/-- What a sender hands in: raw data, or a frame that is one already. -/
inductive Sending where
  | raw (id : UInt32) (bytes : List UInt8) (timestamp : UInt64)
  | frame (f : Frame)
  deriving DecidableEq, Repr

namespace Sending

def fault? : Sending → Option FrameError
  | .raw id bytes _ => Frame.fault? id bytes
  | .frame _ => none

/-- The frame has all that was handed in, and raw data comes from the interface of its sender. -/
def Makes (interface : String) : Sending → Frame → Prop
  | .raw id bytes timestamp, f => f.HasFields id bytes timestamp interface
  | .frame g, f => f = g

end Sending

/-- The answer to a sending, as the queue stands. -/
def Inlet.answerTo (q : Inlet) (x : Sending) : Enqueued :=
  match x.fault? with
  | some e => .refused (.invalidFrame e)
  | none =>
    if q.receiving = false then .refused .queueClosed
    else if q.queue.length < q.capacity then .sent
    else .blocked

theorem Inlet.answerTo_of_none {q : Inlet} {x : Sending} (h : x.fault? = none) :
    q.answerTo x =
      if q.receiving = false then .refused .queueClosed
      else if q.queue.length < q.capacity then .sent
      else .blocked := by
  unfold answerTo
  rw [h]

/-- What enqueuing a frame comes to: the answer, and the inlet after it. -/
inductive Inlet.Enqueues (q : Inlet) (f : Frame) : Enqueued → Inlet → Prop
  | closed (hreceiving : q.receiving = false) : Enqueues q f (.refused .queueClosed) q
  | blocked (hreceiving : q.receiving = true) (hfull : q.capacity ≤ q.queue.length) :
    Enqueues q f .blocked q
  | sent (hreceiving : q.receiving = true) (hroom : q.queue.length < q.capacity) :
    Enqueues q f .sent { q with queue := q.queue ++ [f] }

theorem Inlet.enqueues (q : Inlet) (f : Frame) : q.Enqueues f (q.enqueue f).1 (q.enqueue f).2 := by
  unfold enqueue
  split
  next hclosed =>
    have hreceiving : q.receiving = false := by simpa using hclosed
    exact .closed hreceiving
  next hopen =>
    have hreceiving : q.receiving = true := by simpa using hopen
    split
    next hroom => exact .sent hreceiving hroom
    next hfull => exact .blocked hreceiving (Nat.le_of_not_lt hfull)

namespace Ingest

variable {σ ρ : Type} [Recorder ρ]

/-- What a sending at an interface comes to: the answer, and the ingest after it. -/
inductive Sends (g : Ingest σ ρ) (interface : String) (x : Sending) :
    Enqueued → Ingest σ ρ → Prop
  | refused {e : FrameError} (hfault : x.fault? = some e) :
    Sends g interface x (.refused (.invalidFrame e)) { g with monitor := g.monitor.reject }
  | closed (hfault : x.fault? = none) (hreceiving : g.inlet.receiving = false) :
    Sends g interface x (.refused .queueClosed) g
  | blocked (hfault : x.fault? = none) (hreceiving : g.inlet.receiving = true)
      (hfull : g.inlet.capacity ≤ g.inlet.queue.length) :
    Sends g interface x .blocked g
  | sent {f : Frame} (hfault : x.fault? = none) (hmakes : x.Makes interface f)
      (hreceiving : g.inlet.receiving = true)
      (hroom : g.inlet.queue.length < g.inlet.capacity) :
    Sends g interface x .sent { g with inlet := { g.inlet with queue := g.inlet.queue ++ [f] } }

variable (g : Ingest σ ρ) (interface : String)

theorem sends_of_makes {x : Sending} {f : Frame} (hfault : x.fault? = none)
    (hmakes : x.Makes interface f) :
    g.Sends interface x (g.sendFrame f).1 (g.sendFrame f).2 := by
  have henqueues := g.inlet.enqueues f
  show g.Sends interface x (g.inlet.enqueue f).1 { g with inlet := (g.inlet.enqueue f).2 }
  generalize (g.inlet.enqueue f).1 = reply at henqueues
  generalize (g.inlet.enqueue f).2 = inlet at henqueues
  cases henqueues with
  | closed hreceiving => exact .closed hfault hreceiving
  | blocked hreceiving hfull => exact .blocked hfault hreceiving hfull
  | sent hreceiving hroom => exact .sent hfault hmakes hreceiving hroom

theorem sends_sendFrame (f : Frame) :
    g.Sends interface (.frame f) (g.sendFrame f).1 (g.sendFrame f).2 :=
  g.sends_of_makes interface rfl rfl

theorem sends_send (sender : Sender) (id : UInt32) (bytes : List UInt8) (timestamp : UInt64) :
    g.Sends sender.interface (.raw id bytes timestamp) (g.send sender id bytes timestamp).1
      (g.send sender id bytes timestamp).2.1 := by
  unfold send
  cases hfault : Frame.fault? id bytes with
  | some e =>
    rw [Frame.ofRaw_of_fault hfault]
    exact .refused hfault
  | none =>
    obtain ⟨f, hf⟩ := Frame.ofRaw_of_none hfault timestamp sender.interface
    rw [hf]
    exact g.sends_of_makes sender.interface hfault (Frame.ofRaw_eq_ok_iff.1 hf)

variable {g} {interface} {g' : Ingest σ ρ} {x : Sending} {reply : Enqueued}

theorem Sends.reply_eq (h : g.Sends interface x reply g') : reply = g.inlet.answerTo x := by
  cases h with
  | refused hfault =>
    unfold Inlet.answerTo
    rw [hfault]
  | closed hfault hreceiving => rw [Inlet.answerTo_of_none hfault, if_pos hreceiving]
  | blocked hfault hreceiving hfull =>
    rw [Inlet.answerTo_of_none hfault, if_neg (by simp [hreceiving]), if_neg (Nat.not_lt.2 hfull)]
  | sent hfault _ hreceiving hroom =>
    rw [Inlet.answerTo_of_none hfault, if_neg (by simp [hreceiving]), if_pos hroom]

-- Whatever the answer, the rest of an ingest is left alone.
theorem Sends.sink_eq (h : g.Sends interface x reply g') : g'.sink = g.sink := by
  cases h <;> rfl

theorem Sends.task_eq (h : g.Sends interface x reply g') : g'.task = g.task := by
  cases h <;> rfl

theorem Sends.senders_eq (h : g.Sends interface x reply g') :
    g'.inlet.senders = g.inlet.senders := by
  cases h <;> rfl

theorem Sends.receiving_eq (h : g.Sends interface x reply g') :
    g'.inlet.receiving = g.inlet.receiving := by
  cases h <;> rfl

theorem Sends.monitor_eq (h : g.Sends interface x reply g') :
    g'.monitor = if x.fault?.isSome then g.monitor.reject else g.monitor := by
  cases h with
  | refused hfault => rw [hfault]; rfl
  | closed hfault | blocked hfault | sent hfault => rw [hfault]; rfl

end Ingest

/-! ## Senders -/

namespace Inlet

variable {q : Inlet} {i : Nat}

theorem interface_of_sender? {sender : Sender} (h : q.sender? i = some sender) :
    (q.senders.map Sender.interface)[i]? = some sender.interface := by
  have hsender : q.senders[i]? = some sender := (Option.filter_eq_some_iff.1 h).1
  rw [List.getElem?_map, hsender]
  rfl

-- A sender that is gone keeps its place.
theorem interfaces_detach :
    (q.detach i).senders.map Sender.interface = q.senders.map Sender.interface := by
  refine List.ext_getElem? fun j => ?_
  rw [List.getElem?_map, List.getElem?_map, detach, List.getElem?_modify, Option.map_eq_map,
    Option.map_map]
  refine congrArg (Option.map · _) (funext fun sender => ?_)
  show (if i = j then _ else sender).interface = sender.interface
  split <;> rfl

end Inlet

/-! ## What senders hear -/

/-- A sender is given out, or what sender `i` hands in is answered. -/
inductive Heard where
  | attached (interface : String)
  | answered (i : Nat) (x : Sending) (reply : Enqueued)
  deriving DecidableEq, Repr

namespace Heard

def interface? : Heard → Option String
  | .attached interface => some interface
  | .answered .. => none

/-- What sender `i` hands in, whatever the answer. -/
def sentBy? (i : Nat) : Heard → Option Sending
  | .attached _ => none
  | .answered j x _ => if j = i then some x else none

/-- What is handed in and answered with `sent`. -/
def accepted? : Heard → Option (Nat × Sending)
  | .answered i x .sent => some (i, x)
  | _ => none

/-- Whether what is handed in is no frame. -/
def isFault : Heard → Bool
  | .attached _ => false
  | .answered _ x _ => x.fault?.isSome

def interfaces (heard : List Heard) : List String :=
  heard.filterMap interface?

def sentBy (i : Nat) (heard : List Heard) : List Sending :=
  heard.filterMap (sentBy? i)

def accepted (heard : List Heard) : List (Nat × Sending) :=
  heard.filterMap accepted?

theorem interfaces_append (heard more : List Heard) :
    interfaces (heard ++ more) = interfaces heard ++ interfaces more :=
  List.filterMap_append

theorem accepted_append (heard more : List Heard) :
    accepted (heard ++ more) = accepted heard ++ accepted more :=
  List.filterMap_append

end Heard

/-- What sender `i` hears when it hands something in, as long as it is attached. -/
def Ingest.heard? {σ ρ : Type} [Recorder ρ] (g : Ingest σ ρ) (i : Nat) : Sending → Option Heard
  | .raw id bytes timestamp => (g.inlet.sender? i).map fun sender =>
    .answered i (.raw id bytes timestamp) (g.send sender id bytes timestamp).1
  | .frame f => (g.inlet.sender? i).map fun _ => .answered i (.frame f) (g.sendFrame f).1

theorem Ingest.reply_of_heard? {σ ρ : Type} [Recorder ρ] {g : Ingest σ ρ} {i j : Nat}
    {x y : Sending} {reply : Enqueued} (h : g.heard? i x = some (.answered j y reply)) :
    reply = g.inlet.answerTo y := by
  cases x with
  | raw id bytes timestamp =>
    obtain ⟨sender, -, hheard⟩ := Option.map_eq_some_iff.1 h
    cases hheard
    exact (g.sends_send sender id bytes timestamp).reply_eq
  | frame f =>
    obtain ⟨sender, -, hheard⟩ := Option.map_eq_some_iff.1 h
    cases hheard
    exact (g.sends_sendFrame sender.interface f).reply_eq

/-- The frame is that of a sending, where senders have these interfaces. -/
def Sending.Enters (interfaces : List String) (x : Nat × Sending) (y : Nat × Frame) : Prop :=
  y.1 = x.1 ∧ ∃ interface, interfaces[x.1]? = some interface ∧ x.2.Makes interface y.2

-- Senders that come later leave the interfaces of the others alone.
theorem Sending.Enters.mono {interfaces : List String} {x : Nat × Sending} {y : Nat × Frame}
    (h : Enters interfaces x y) (more : List String) : Enters (interfaces ++ more) x y := by
  obtain ⟨hsender, interface, hinterface, hmakes⟩ := h
  obtain ⟨hlt, -⟩ := List.getElem?_eq_some_iff.1 hinterface
  refine ⟨hsender, interface, ?_, hmakes⟩
  rw [List.getElem?_append_left hlt]
  exact hinterface

/-- What a sending adds to a queue, told by the answer. -/
theorem Ingest.Sends.queue {σ ρ : Type} [Recorder ρ] {g g' : Ingest σ ρ} {interface : String}
    {x : Sending} {reply : Enqueued} (h : g.Sends interface x reply g') (i : Nat) :
    ∃ more, g'.inlet.queue = g.inlet.queue ++ more ∧
      (g.inlet.receiving = false → more = []) ∧
      List.Forall₂ (fun a f => a.1 = i ∧ a.2.Makes interface f)
        (Heard.accepted [.answered i x reply]) more := by
  cases h with
  | refused | closed | blocked => exact ⟨[], (List.append_nil _).symm, fun _ => rfl, .nil⟩
  | sent _ hmakes hreceiving _ =>
    refine ⟨[_], rfl, fun hnot => ?_, .cons ⟨rfl, hmakes⟩ .nil⟩
    rw [hreceiving] at hnot
    cases hnot

theorem Heard.sublistForall₂_cons {R : Nat × Frame → Sending → Prop} {due : List (Nat × Frame)}
    {i : Nat} {heard : List Heard} (h : List.SublistForall₂ R due (sentBy i heard)) (e : Heard) :
    List.SublistForall₂ R due (sentBy i (e :: heard)) := by
  unfold sentBy
  rw [List.filterMap_cons]
  cases sentBy? i e with
  | none => exact h
  | some x => exact h.cons_right

/-- Of the frames of a queue, those of one sender are a subsequence of what it handed in. -/
theorem Heard.sublistForall₂_sentBy {interfaces : List String} {heard : List Heard}
    {entered due : List (Nat × Frame)}
    (h : List.Forall₂ (Sending.Enters interfaces) (accepted heard) entered)
    (hdue : due.Sublist entered) (i : Nat) :
    List.SublistForall₂ (fun y x => Sending.Enters interfaces (i, x) y)
      (due.filter fun y => y.1 = i) (sentBy i heard) := by
  induction heard generalizing entered due with
  | nil =>
    cases h
    cases hdue
    exact .nil
  | cons e rest ih =>
    cases e with
    | attached interface => exact ih h hdue
    | answered j x reply =>
      cases reply with
      | blocked | refused => exact sublistForall₂_cons (ih h hdue) _
      | sent =>
        -- Only here has a frame entered, and it is in `due` or it is not.
        cases h with
        | cons henters hrest =>
          cases hdue with
          | cons _ hdue => exact sublistForall₂_cons (ih hrest hdue) _
          | cons_cons y hdue =>
            by_cases hj : j = i
            · subst hj
              rw [List.filter_cons_of_pos (by simpa using henters.1)]
              have hsent : sentBy j (.answered j x .sent :: rest) = x :: sentBy j rest := by
                simp [sentBy, sentBy?]
              rw [hsent]
              exact .cons henters (ih hrest hdue)
            · rw [List.filter_cons_of_neg (by simpa [henters.1] using hj)]
              exact sublistForall₂_cons (ih hrest hdue) _

end EchoFilter
