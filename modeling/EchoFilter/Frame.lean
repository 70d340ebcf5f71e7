import EchoFilter.Text.Hex
import EchoFilter.Text.Numeral
import EchoFilter.Text.Quoted

/-!
Bus frames.

A frame has an arbitration id of at most 29 bits, at most eight bytes of payload, the time it
arrived and the name of the interface it arrived on.  Both limits are part of the types, so a frame
that exists is a valid one; `ArbitrationId.ofRaw`, `Payload.ofBytes` and `Frame.ofRaw` are the ways
in from raw data, and their lemmas say exactly what they refuse.
-/

namespace EchoFilter

/-- Why raw data is not a frame. -/
inductive FrameError where
  | invalidId (id : Nat)
  | payloadTooLong (length limit : Nat)
  deriving DecidableEq, Repr

def FrameError.message : FrameError → String
  | .invalidId id =>
    "Invalid arbitration id: 0x" ++ String.ofList (Hex.minimal id) ++ " exceeds 29 bits"
  | .payloadTooLong length limit =>
    "Payload too long: " ++ Numeral.text length ++ " bytes > " ++ Numeral.text limit

/-! ## Arbitration ids -/

/-- An identifier of a frame's content and priority, at most 29 bits wide. -/
structure ArbitrationId where
  raw : UInt32
  raw_le : raw.toNat ≤ 0x1FFFFFFF
  deriving DecidableEq, Repr

namespace ArbitrationId

/-- The highest identifier of the 11-bit format. -/
def maxStandard : Nat := 0x7FF

/-- The highest identifier of the 29-bit format. -/
def maxExtended : Nat := 0x1FFFFFFF

def ofRaw (raw : UInt32) : Except FrameError ArbitrationId :=
  if h : raw.toNat ≤ maxExtended then .ok ⟨raw, h⟩ else .error (.invalidId raw.toNat)

@[simp] theorem ofRaw_raw (id : ArbitrationId) : ofRaw id.raw = .ok id := by
  have h : id.raw.toNat ≤ maxExtended := id.raw_le
  simp [ofRaw, h]

theorem ofRaw_eq_error_iff {raw : UInt32} {e : FrameError} :
    ofRaw raw = .error e ↔ maxExtended < raw.toNat ∧ e = .invalidId raw.toNat := by
  unfold ofRaw
  split
  · simp; omega
  · simp only [Except.error.injEq]
    constructor
    · intro h; exact ⟨by omega, h.symm⟩
    · intro h; exact h.2.symm

theorem raw_of_ofRaw {raw : UInt32} {id : ArbitrationId} (h : ofRaw raw = .ok id) :
    id.raw = raw := by
  unfold ofRaw at h
  split at h
  · cases h; rfl
  · cases h

/-- Whether the identifier needs the 29-bit format. -/
def isExtended (id : ArbitrationId) : Bool :=
  maxStandard < id.raw.toNat

/-- How many hexadecimal digits the identifier is shown with: three in the 11-bit format and eight
in the 29-bit format. -/
def displayWidth (id : ArbitrationId) : Nat :=
  if id.isExtended then 8 else 3

def display (id : ArbitrationId) : String :=
  String.ofList ('0' :: 'x' :: Hex.fixed id.displayWidth id.raw.toNat)

/-- The form for diagnostics. -/
def describe (id : ArbitrationId) : String :=
  "ArbitrationId(" ++ Numeral.text id.raw.toNat ++ ")"

end ArbitrationId

/-! ## Payloads -/

/-- The data bytes of a frame, at most eight. -/
structure Payload where
  bytes : List UInt8
  length_le : bytes.length ≤ 8
  deriving DecidableEq, Repr

namespace Payload

def maxLength : Nat := 8

def empty : Payload := ⟨[], by decide⟩

def ofBytes (bytes : List UInt8) : Except FrameError Payload :=
  if h : bytes.length ≤ maxLength then .ok ⟨bytes, h⟩
  else .error (.payloadTooLong bytes.length maxLength)

@[simp] theorem ofBytes_bytes (p : Payload) : ofBytes p.bytes = .ok p := by
  have h : p.bytes.length ≤ maxLength := p.length_le
  simp [ofBytes, h]

theorem ofBytes_eq_error_iff {bytes : List UInt8} {e : FrameError} :
    ofBytes bytes = .error e ↔
      maxLength < bytes.length ∧ e = .payloadTooLong bytes.length maxLength := by
  unfold ofBytes
  split
  · simp; omega
  · simp only [Except.error.injEq]
    constructor
    · intro h; exact ⟨by omega, h.symm⟩
    · intro h; exact h.2.symm

theorem bytes_of_ofBytes {bytes : List UInt8} {p : Payload} (h : ofBytes bytes = .ok p) :
    p.bytes = bytes := by
  unfold ofBytes at h
  split at h
  · cases h; rfl
  · cases h

/-- The form for diagnostics: the bytes in decimal, in brackets. -/
def describe (p : Payload) : String :=
  "[" ++ ", ".intercalate (p.bytes.map fun b => Numeral.text b.toNat) ++ "]"

end Payload

/-! ## Frames -/

/-- One observation of a frame.  A frame that is bridged over several interfaces is observed once
on each, with the same id and payload. -/
structure Frame where
  id : ArbitrationId
  payload : Payload
  timestamp : UInt64
  interface : String
  deriving DecidableEq, Repr

namespace Frame

/-- A frame from raw data.  The id is judged before the payload. -/
def ofRaw (id : UInt32) (bytes : List UInt8) (timestamp : UInt64) (interface : String) :
    Except FrameError Frame :=
  match ArbitrationId.ofRaw id with
  | .error e => .error e
  | .ok id =>
    match Payload.ofBytes bytes with
    | .error e => .error e
    | .ok payload => .ok { id, payload, timestamp, interface }

@[simp] theorem ofRaw_fields (f : Frame) :
    ofRaw f.id.raw f.payload.bytes f.timestamp f.interface = .ok f := by
  simp [ofRaw]

/-- The fields of a frame are raw data as it was given. -/
structure HasFields (f : Frame) (id : UInt32) (bytes : List UInt8) (timestamp : UInt64)
    (interface : String) : Prop where
  raw_eq : f.id.raw = id
  bytes_eq : f.payload.bytes = bytes
  timestamp_eq : f.timestamp = timestamp
  interface_eq : f.interface = interface

/-- Raw data is made into the frame that holds it, and into no other. -/
theorem ofRaw_eq_ok_iff {id : UInt32} {bytes : List UInt8} {timestamp : UInt64}
    {interface : String} {f : Frame} :
    ofRaw id bytes timestamp interface = .ok f ↔ f.HasFields id bytes timestamp interface := by
  constructor
  · intro h
    unfold ofRaw at h
    cases hid : ArbitrationId.ofRaw id with
    | error e =>
      rw [hid] at h
      cases h
    | ok i =>
      cases hbytes : Payload.ofBytes bytes with
      | error e =>
        rw [hid, hbytes] at h
        cases h
      | ok p =>
        rw [hid, hbytes] at h
        cases h
        exact ⟨ArbitrationId.raw_of_ofRaw hid, Payload.bytes_of_ofBytes hbytes, rfl, rfl⟩
  · intro h
    rw [← h.raw_eq, ← h.bytes_eq, ← h.timestamp_eq, ← h.interface_eq]
    exact ofRaw_fields f

/-- Whether two observations have the same id and payload, wherever and whenever they were made. -/
def sameContent (f g : Frame) : Bool :=
  f.id = g.id ∧ f.payload = g.payload

/-- The form for diagnostics. -/
def describe (f : Frame) : String :=
  "CanFrame \x7b id: " ++ f.id.describe ++ ", payload: " ++ f.payload.describe
    ++ ", timestamp_ms: " ++ Numeral.text f.timestamp.toNat
    ++ ", interface: InterfaceId(" ++ Quoted.quote f.interface ++ ") \x7d"

end Frame

end EchoFilter
