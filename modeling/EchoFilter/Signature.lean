import EchoFilter.Frame
import EchoFilter.SipHash

/-!
Content signatures: a digest of id and payload, cut to a stored width.

The hash sees the four id bytes, most significant first, and then the payload, so frames with the
same content have the same signature.  A signature keeps its width, and its value stays below two
to that many bits by construction.
-/

namespace EchoFilter

/-- How many bits of the digest are kept. -/
inductive Width where
  | bits32
  | bits64
  | bits128
  deriving DecidableEq, Repr

namespace Width

def bits : Width → Nat
  | .bits32 => 32
  | .bits64 => 64
  | .bits128 => 128

def ofBits? : Nat → Option Width
  | 32 => some .bits32
  | 64 => some .bits64
  | 128 => some .bits128
  | _ => none

@[simp] theorem ofBits?_bits (w : Width) : ofBits? w.bits = some w := by
  cases w <;> rfl

/-- How many values a signature of the width can have. -/
def modulus : Width → Nat
  | .bits32 => UInt32.size
  | .bits64 => UInt64.size
  | .bits128 => UInt64.size * UInt64.size

theorem modulus_pos (w : Width) : 0 < w.modulus := by
  cases w <;> decide

theorem eq_of_bits_eq {v w : Width} (h : v.bits = w.bits) : v = w := by
  rw [← Option.some.injEq, ← ofBits?_bits v, h, ofBits?_bits]

instance : Inhabited Width := ⟨.bits64⟩

/-- The name in written configurations. -/
def name : Width → String
  | .bits32 => "bits32"
  | .bits64 => "bits64"
  | .bits128 => "bits128"

end Width

/-- A digest of byte strings, before it is cut to a width. -/
abbrev Hash : Type :=
  List UInt8 → BitVec 128

/-- The identity of a frame's content at a width. -/
structure Signature where
  width : Width
  value : Nat
  value_lt : value < width.modulus
  deriving DecidableEq, Repr

namespace Signature

/-- Signatures in the order of their widths and, at one width, of their values. -/
instance : Ord Signature where
  compare := compareLex (compareOn fun s => s.width.bits) (compareOn value)

instance : Std.TransOrd Signature :=
  inferInstanceAs (Std.TransCmp (compareLex (compareOn fun s => s.width.bits) (compareOn value)))

instance : Std.LawfulEqOrd Signature where
  eq_of_compare {a b} h := by
    obtain ⟨v, m, _⟩ := a
    obtain ⟨w, n, _⟩ := b
    have hbits := Nat.compare_eq_eq.1 (Ordering.then_eq_eq.1 h).1
    have hvalue : m = n := Nat.compare_eq_eq.1 (Ordering.then_eq_eq.1 h).2
    have hwidth : v = w := Width.eq_of_bits_eq hbits
    subst hwidth hvalue
    rfl

/-- The low bits of a digest. -/
def truncate (w : Width) (digest : BitVec 128) : Signature :=
  ⟨w, digest.toNat % w.modulus, Nat.mod_lt _ w.modulus_pos⟩

/-- What the hash sees of a frame. -/
def content (id : ArbitrationId) (payload : List UInt8) : List UInt8 :=
  Hex.bigEndian 4 id.raw.toNat ++ payload

/-- The signature of an id with a payload of any length, by any hash. -/
def computeBy (hash : Hash) (w : Width) (id : ArbitrationId) (payload : List UInt8) : Signature :=
  truncate w (hash (content id payload))

/-- The signature of an id with a payload of any length. -/
def compute (w : Width) (id : ArbitrationId) (payload : List UInt8) : Signature :=
  computeBy SipHash.digest w id payload

@[simp] theorem width_compute (w : Width) (id : ArbitrationId) (payload : List UInt8) :
    (compute w id payload).width = w := rfl

def ofFrame (w : Width) (f : Frame) : Signature :=
  compute w f.id f.payload.bytes

/-- The bytes of the value, most significant first, as many as the width has. -/
def bytes (s : Signature) : List UInt8 :=
  Hex.bigEndian (s.width.bits / 8) s.value

def display (s : Signature) : String :=
  String.ofList (Hex.ofBytes s.bytes)

/-- The form for diagnostics. -/
def describe (s : Signature) : String :=
  "FrameSignature(" ++ s.display ++ ")"

end Signature

end EchoFilter
