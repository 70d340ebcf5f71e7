import EchoFilter.Detector

/-!
# Acts — what a call asks of the window

Whatever its form, a call reaches the window of a detector as one of three acts, or not at all.
`Call.act?` reads the act off the call, the configuration, the clock and the latest time processed,
without the window.  `Detector.perform_snd` and `Detector.perform_fst` say that the act is all a
call does and all its outcome reports, so what holds of acts on any window holds of calls on any
detector; `Detector.Answered` has the cases.  What keys the acts have is open: they may be
signatures by any hash, or what a signature is made of.
-/

namespace EchoFilter

/-- What a window can be asked to do. -/
inductive Act (K : Type) where
  | check (k : K) (t : Time)
  | sweep (t : Time)
  | reset
  deriving DecidableEq, Repr

/-- The same act on another key. -/
def Act.map {K L : Type} (f : K → L) : Act K → Act L
  | .check k t => .check (f k) t
  | .sweep t => .sweep t
  | .reset => .reset

namespace Window

variable {K : Type} [Ord K] [Std.TransOrd K] [Std.LawfulEqOrd K] [DecidableEq K]

def act (lim : Limits) (w : Window K) : Act K → Window K
  | .check k t => (w.check lim k t).2
  | .sweep t => (w.sweep lim t).2
  | .reset => w.reset

def actOn? (lim : Limits) (w : Window K) : Option (Act K) → Window K
  | some a => w.act lim a
  | none => w

end Window

/-! ## The act of a call -/

namespace Call

def tick (clock : Clock) : Call → Clock
  | .setClock ms => clock.set ms
  | .advanceClock ms => clock.advance ms
  | _ => clock

/-- The time of a call that brings none: the clock, or the latest time processed. -/
def presentTime (config : Config) (clock : Clock) (latest : Option Time) : Time :=
  match config.timeBase with
  | .clock => clock.now.toNat
  | .frameArrival => latest.getD 0

def arrivalTime (config : Config) (clock : Clock) (f : Frame) : Time :=
  match config.timeBase with
  | .clock => clock.now.toNat
  | .frameArrival => f.timestamp.toNat

/-- The act of a call, keyed by what `key` makes of id and payload; raw data beyond the limits of a
frame has none. -/
def actBy? {K : Type} (key : ArbitrationId → Payload → K) (config : Config) (clock : Clock)
    (latest : Option Time) : Call → Option (Act K)
  | .check id bytes at? =>
    match ArbitrationId.ofRaw id, Payload.ofBytes bytes with
    | .ok id, .ok payload =>
      some (.check (key id payload) (at?.getD (presentTime config clock latest)))
    | _, _ => none
  | .frame f => some (.check (key f.id f.payload) (arrivalTime config clock f))
  | .decide id payload now => some (.check (key id payload) now)
  | .sweep now => some (.sweep now)
  | .reset => some .reset
  | .setClock _ | .advanceClock _ => none

theorem actBy?_map {K L : Type} (f : K → L) (key : ArbitrationId → Payload → K) (config : Config)
    (clock : Clock) (latest : Option Time) (c : Call) :
    (c.actBy? key config clock latest).map (Act.map f) =
      c.actBy? (fun id payload => f (key id payload)) config clock latest := by
  cases c with
  | check id bytes at? =>
    simp only [actBy?]
    split <;> rfl
  | _ => rfl

/-- Whether a call needs neither a clock nor the latest time: it brings its own time, or no time
matters to it. -/
def isTimed : Call → Bool
  | .check _ _ at? => at?.isSome
  | .decide .. | .sweep _ | .reset => true
  | .frame _ | .setClock _ | .advanceClock _ => false

theorem actBy?_of_isTimed {K : Type} (key : ArbitrationId → Payload → K) {c : Call}
    (hc : c.isTimed = true) (config config' : Config) (clock clock' : Clock)
    (latest latest' : Option Time) :
    c.actBy? key config clock latest = c.actBy? key config' clock' latest' := by
  cases c with
  | check id bytes at? =>
    obtain ⟨t, rfl⟩ := Option.isSome_iff_exists.1 hc
    rfl
  | decide id payload now => rfl
  | sweep now => rfl
  | reset => rfl
  | frame f => cases hc
  | setClock ms => cases hc
  | advanceClock ms => cases hc

/-- The act of a call, keyed by signatures. -/
def act? (config : Config) (clock : Clock) (latest : Option Time) (c : Call) :
    Option (Act Signature) :=
  c.actBy? (fun id payload => .compute config.width id payload.bytes) config clock latest

end Call

/-- How an outcome reports an act on a window. -/
def Outcome.Reports (lim : Limits) (w : Window Signature) : Option (Act Signature) → Outcome → Prop
  | some (.check s t), o => ∃ id, o = .judged id (w.check lim s t).1
  | some (.sweep t), o => o = .swept (w.sweep lim t).1
  | some .reset, o => o = .reset w.size
  | none, o => o = .clockMoved ∨ ∃ e, o = .refused e

namespace Detector

def actBy? (hash : Hash) (d : Detector) (c : Call) : Option (Act Signature) :=
  c.actBy? (fun id payload => .computeBy hash d.config.width id payload.bytes) d.config d.clock
    d.window.mark

def act? (d : Detector) (c : Call) : Option (Act Signature) :=
  c.act? d.config d.clock d.window.mark

/-- A call does its act, and moves the clock if that is its business. -/
theorem performBy_snd (hash : Hash) (d : Detector) (c : Call) :
    (d.performBy hash c).2 =
      { d with clock := c.tick d.clock, window := d.window.actOn? d.limits (d.actBy? hash c) } := by
  -- Raw data is read twice, id first; every other call shows its act in its constructor.
  cases c with
  | check id bytes at? =>
    cases hid : ArbitrationId.ofRaw id with
    | error e => simp only [performBy, actBy?, Call.actBy?, hid]; rfl
    | ok id =>
      cases hp : Payload.ofBytes bytes with
      | error e => simp only [performBy, actBy?, Call.actBy?, hid, hp]; rfl
      | ok payload => simp only [performBy, actBy?, Call.actBy?, hid, hp]; rfl
  | _ => rfl

theorem performBy_fst (hash : Hash) (d : Detector) (c : Call) :
    (d.performBy hash c).1.Reports d.limits d.window (d.actBy? hash c) := by
  -- Only raw data can be refused, and then there is no act to report.
  cases c with
  | check id bytes at? =>
    cases hid : ArbitrationId.ofRaw id with
    | error e => simp only [performBy, actBy?, Call.actBy?, hid]; exact Or.inr ⟨e, rfl⟩
    | ok id =>
      cases hp : Payload.ofBytes bytes with
      | error e => simp only [performBy, actBy?, Call.actBy?, hid, hp]; exact Or.inr ⟨e, rfl⟩
      | ok payload => simp only [performBy, actBy?, Call.actBy?, hid, hp]; exact ⟨id, rfl⟩
  | frame f => exact ⟨f.id, rfl⟩
  | decide id payload now => exact ⟨id, rfl⟩
  | sweep now => rfl
  | reset => rfl
  | setClock ms => exact Or.inl rfl
  | advanceClock ms => exact Or.inl rfl

theorem perform_snd (d : Detector) (c : Call) :
    (d.perform c).2 =
      { d with clock := c.tick d.clock, window := d.window.actOn? d.limits (d.act? c) } :=
  d.performBy_snd SipHash.digest c

theorem perform_fst (d : Detector) (c : Call) :
    (d.perform c).1.Reports d.limits d.window (d.act? c) :=
  d.performBy_fst SipHash.digest c

@[simp] theorem config_performBy (hash : Hash) (d : Detector) (c : Call) :
    (d.performBy hash c).2.config = d.config := by
  rw [performBy_snd]

@[simp] theorem config_perform (d : Detector) (c : Call) : (d.perform c).2.config = d.config := by
  rw [perform_snd]

@[simp] theorem clock_perform (d : Detector) (c : Call) :
    (d.perform c).2.clock = c.tick d.clock := by
  rw [perform_snd]

theorem window_perform (d : Detector) (c : Call) :
    (d.perform c).2.window = d.window.actOn? d.limits (d.act? c) := by
  rw [perform_snd]

theorem limits_congr {d d' : Detector} (h : d'.config = d.config) : d'.limits = d.limits := by
  rw [limits, h, limits]

@[simp] theorem limits_perform (d : Detector) (c : Call) : (d.perform c).2.limits = d.limits :=
  limits_congr (config_perform d c)

/-- The five ways a call comes out: what it is answered with, and the window after it. -/
inductive Answered (lim : Limits) (w : Window Signature) :
    Option (Act Signature) → Outcome → Window Signature → Prop
  | check (id : ArbitrationId) (s : Signature) (t : Time) :
    Answered lim w (some (.check s t)) (.judged id (w.check lim s t).1) (w.check lim s t).2
  | sweep (t : Time) :
    Answered lim w (some (.sweep t)) (.swept (w.sweep lim t).1) (w.sweep lim t).2
  | reset : Answered lim w (some .reset) (.reset w.size) w.reset
  | refused (e : FrameError) : Answered lim w none (.refused e) w
  | clockMoved : Answered lim w none .clockMoved w

theorem answered_perform (d : Detector) (c : Call) :
    Answered d.limits d.window (d.act? c) (d.perform c).1 (d.perform c).2.window := by
  have hreports := d.perform_fst c
  rw [window_perform]
  generalize (d.perform c).1 = o at hreports
  cases ha : d.act? c with
  | none =>
    rw [ha] at hreports
    rcases hreports with rfl | ⟨e, rfl⟩
    · exact .clockMoved
    · exact .refused e
  | some a =>
    rw [ha] at hreports
    cases a with
    | check s t =>
      obtain ⟨id, rfl⟩ := hreports
      exact .check id s t
    | sweep t =>
      cases hreports
      exact .sweep t
    | reset =>
      cases hreports
      exact .reset

theorem run_cons (d : Detector) (c : Call) (rest : List Call) :
    d.run (c :: rest) =
      ((d.perform c).1 :: ((d.perform c).2.run rest).1, ((d.perform c).2.run rest).2) := rfl

-- What every call keeps, every sequence of calls keeps.
theorem run_of_perform {P : Detector → Prop} (hstep : ∀ d c, P d → P (d.perform c).2)
    (d : Detector) (calls : List Call) (h : P d) : P (d.run calls).2 := by
  induction calls generalizing d with
  | nil => exact h
  | cons c rest ih => exact ih _ (hstep d c h)

theorem config_runBy (hash : Hash) (d : Detector) (calls : List Call) :
    (d.runBy hash calls).2.config = d.config := by
  induction calls generalizing d with
  | nil => rfl
  | cons c rest ih => exact (ih _).trans (config_performBy hash d c)

theorem config_run (d : Detector) (calls : List Call) : (d.run calls).2.config = d.config :=
  config_runBy SipHash.digest d calls

/-- The detector that a valid configuration starts with. -/
def initial (config : Config) (h : config.Valid) (clock : Clock) : Detector :=
  { config, valid := h, clock, window := .empty }

theorem create_of_valid (config : Config) (clock : Clock) (h : config.Valid) :
    create config clock = .ok (initial config h clock) := by
  have hok := Config.validate_eq_ok_iff.2 h
  unfold create
  split
  next => rfl
  next e he =>
    rw [hok] at he
    cases he

end Detector

end EchoFilter
