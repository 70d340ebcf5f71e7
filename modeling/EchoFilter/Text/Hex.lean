/-!
Hexadecimal numerals and big-endian bytes.

Writing is always in lower case: `fixed n v` gives exactly `n` digits and `minimal v` as many as
the number needs.  Reading takes either case.  Bytes are written most significant first, and the
two digits of each byte in turn are the digits of the number the bytes stand for.
-/

namespace EchoFilter.Hex

/-- The value of one hexadecimal digit, in either case. -/
def digitValue? (c : Char) : Option Nat :=
  if '0' ≤ c ∧ c ≤ '9' then some (c.toNat - 48)
  else if 'a' ≤ c ∧ c ≤ 'f' then some (c.toNat - 87)
  else if 'A' ≤ c ∧ c ≤ 'F' then some (c.toNat - 55)
  else none

theorem digitValue?_digitChar {d : Nat} (hd : d < 16) : digitValue? d.digitChar = some d := by
  revert d
  decide

/-- The last `n` hexadecimal digits of `v`, with leading zeros. -/
def fixed : Nat → Nat → List Char
  | 0, _ => []
  | n + 1, v => fixed n (v / 16) ++ [(v % 16).digitChar]

@[simp] theorem length_fixed (n v : Nat) : (fixed n v).length = n := by
  induction n generalizing v with
  | zero => rfl
  | succ n ih => simp [fixed, ih]

/-- The hexadecimal digits of `v` without leading zeros; zero is one digit. -/
def minimal (v : Nat) : List Char :=
  Nat.toDigits 16 v

/-- Continues reading digits after a part that read as `acc`. -/
def readFrom (acc : Nat) : List Char → Option Nat
  | [] => some acc
  | c :: r =>
    match digitValue? c with
    | some d => readFrom (acc * 16 + d) r
    | none => none

/-- The number a run of hexadecimal digits stands for; the empty run stands for zero. -/
def read? (digits : List Char) : Option Nat :=
  readFrom 0 digits

theorem readFrom_append (acc : Nat) (s t : List Char) :
    readFrom acc (s ++ t) = (readFrom acc s).bind fun v => readFrom v t := by
  induction s generalizing acc with
  | nil => rfl
  | cons c r ih =>
    simp only [List.cons_append, readFrom]
    cases digitValue? c with
    | none => rfl
    | some d => exact ih _

/-- The last `n` bytes of `v`, most significant first. -/
def bigEndian : Nat → Nat → List UInt8
  | 0, _ => []
  | n + 1, v => bigEndian n (v / 256) ++ [UInt8.ofNat (v % 256)]

@[simp] theorem length_bigEndian (n v : Nat) : (bigEndian n v).length = n := by
  induction n generalizing v with
  | zero => rfl
  | succ n ih => simp [bigEndian, ih]

/-- The number that bytes, most significant first, stand for. -/
def ofBigEndian (bytes : List UInt8) : Nat :=
  bytes.foldl (fun acc b => acc * 256 + b.toNat) 0

/-- Two digits for each byte in turn. -/
def ofBytes (bytes : List UInt8) : List Char :=
  bytes.flatMap fun b => fixed 2 b.toNat

/-- Bytes written in pairs of digits; an odd digit or a character that is no digit reads as
nothing. -/
def toBytes? : List Char → Option (List UInt8)
  | [] => some []
  | [_] => none
  | a :: b :: r =>
    match digitValue? a, digitValue? b, toBytes? r with
    | some x, some y, some bytes => some (UInt8.ofNat (x * 16 + y) :: bytes)
    | _, _, _ => none

theorem toBytes?_ofBytes (bytes : List UInt8) : toBytes? (ofBytes bytes) = some bytes := by
  induction bytes with
  | nil => rfl
  | cons b r ih =>
    have hb : b.toNat < 256 := b.toNat_lt
    have hi : b.toNat / 16 % 16 < 16 := Nat.mod_lt _ (by decide)
    have lo : b.toNat % 16 < 16 := Nat.mod_lt _ (by decide)
    have hv : b.toNat / 16 % 16 * 16 + b.toNat % 16 = b.toNat := by omega
    have hsplit : ofBytes (b :: r) =
        (b.toNat / 16 % 16).digitChar :: (b.toNat % 16).digitChar :: ofBytes r := by
      simp [ofBytes, fixed]
    simp only [hsplit, toBytes?, digitValue?_digitChar hi, digitValue?_digitChar lo, ih, hv,
      UInt8.ofNat_toNat]

end EchoFilter.Hex
