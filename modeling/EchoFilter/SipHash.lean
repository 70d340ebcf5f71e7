/-!
The keyed hash SipHash-1-3 with a digest of 128 bits, under the key zero.

The input is taken as little-endian words of eight bytes.  One round mixes in each word and three
rounds close each half of the digest; the last word carries the length modulo 256 in its top byte.
-/

namespace EchoFilter.SipHash

/-- The four words of the running state. -/
structure State where
  v0 : UInt64
  v1 : UInt64
  v2 : UInt64
  v3 : UInt64
  deriving DecidableEq, Repr

/-- The state before any input, set up for a digest of 128 bits. -/
def initial : State where
  v0 := 0x736f6d6570736575
  v1 := 0x646f72616e646f6d ^^^ 0xee
  v2 := 0x6c7967656e657261
  v3 := 0x7465646279746573

def rotateLeft (x k : UInt64) : UInt64 :=
  (x <<< k) ||| (x >>> (64 - k))

/-- One round. -/
def round (s : State) : State :=
  let v0 := s.v0 + s.v1
  let v1 := rotateLeft s.v1 13 ^^^ v0
  let v0 := rotateLeft v0 32
  let v2 := s.v2 + s.v3
  let v3 := rotateLeft s.v3 16 ^^^ v2
  let v0 := v0 + v3
  let v3 := rotateLeft v3 21 ^^^ v0
  let v2 := v2 + v1
  let v1 := rotateLeft v1 17 ^^^ v2
  let v2 := rotateLeft v2 32
  { v0, v1, v2, v3 }

/-- Mixes one word of input into the state. -/
def absorb (s : State) (word : UInt64) : State :=
  let s := round { s with v3 := s.v3 ^^^ word }
  { s with v0 := s.v0 ^^^ word }

/-- The word that bytes, least significant first, stand for. -/
def littleEndian (bytes : List UInt8) : UInt64 :=
  bytes.foldr (fun b acc => (acc <<< 8) ||| b.toUInt64) 0

/-- Mixes in all whole words, then the bytes left over together with the length. -/
def absorbAll (s : State) (length : Nat) : List UInt8 → State
  | b0 :: b1 :: b2 :: b3 :: b4 :: b5 :: b6 :: b7 :: r =>
    absorbAll (absorb s (littleEndian [b0, b1, b2, b3, b4, b5, b6, b7])) length r
  | tail => absorb s ((UInt64.ofNat length <<< 56) ||| littleEndian tail)

def close (s : State) : State :=
  round (round (round s))

def fold (s : State) : UInt64 :=
  s.v0 ^^^ s.v1 ^^^ s.v2 ^^^ s.v3

/-- The digest of a byte string; the half computed first is the lower one. -/
def digest (bytes : List UInt8) : BitVec 128 :=
  let s := absorbAll initial bytes.length bytes
  let s := close { s with v2 := s.v2 ^^^ 0xee }
  let low := fold s
  let s := close { s with v1 := s.v1 ^^^ 0xdd }
  let high := fold s
  high.toBitVec ++ low.toBitVec

end EchoFilter.SipHash
