import Mathlib
import EchoFilter.Text.Hex

/-!
Reading what was written at a fixed width: digits and bytes give the number back modulo what the
width can hold, and all digits are in lower case.  The digits of the bytes of a number are its own
digits, and fewer bytes of a number are the last of more.
-/

namespace EchoFilter.Hex

/-- Digits written at a fixed width read back as the number modulo what the width can hold. -/
theorem readFrom_fixed (acc n v : Nat) :
    readFrom acc (fixed n v) = some (acc * 16 ^ n + v % 16 ^ n) := by
  induction n generalizing v with
  | zero => simp [fixed, readFrom, Nat.mod_one]
  | succ n ih =>
    have hd : v % 16 < 16 := Nat.mod_lt _ (by decide)
    simp only [fixed, readFrom_append, ih, Option.bind_some, readFrom, digitValue?_digitChar hd]
    rw [Nat.pow_succ', Nat.mod_mul, Nat.add_mul]
    congr 1
    rw [Nat.mul_assoc, Nat.mul_comm (16 ^ n) 16]
    omega

theorem read?_fixed (n v : Nat) : read? (fixed n v) = some (v % 16 ^ n) := by
  simp [read?, readFrom_fixed]

/-- Bytes written at a fixed width stand for the number modulo what they can hold. -/
theorem ofBigEndian_bigEndian (n v : Nat) : ofBigEndian (bigEndian n v) = v % 256 ^ n := by
  induction n generalizing v with
  | zero => simp [bigEndian, ofBigEndian, Nat.mod_one]
  | succ n ih =>
    have h := ih (v / 256)
    simp only [ofBigEndian] at h
    simp only [bigEndian, ofBigEndian, List.foldl_append, List.foldl_cons, List.foldl_nil, h,
      UInt8.toNat_ofNat']
    have hp : v % 256 ^ (n + 1) = v % 256 + 256 * (v / 256 % 256 ^ n) := by
      rw [Nat.pow_succ', Nat.mod_mul]
    omega

/-! ## Lower case -/

/-- A digit as it is written, which is in lower case. -/
def IsLowerDigit (c : Char) : Prop :=
  '0' ≤ c ∧ c ≤ '9' ∨ 'a' ≤ c ∧ c ≤ 'f'

instance (c : Char) : Decidable (IsLowerDigit c) :=
  inferInstanceAs (Decidable (_ ∨ _))

theorem isLowerDigit_digitChar {d : Nat} (hd : d < 16) : IsLowerDigit d.digitChar := by
  revert d
  decide

theorem isLowerDigit_of_mem_fixed {n v : Nat} {c : Char} (h : c ∈ fixed n v) : IsLowerDigit c := by
  induction n generalizing v with
  | zero => simp [fixed] at h
  | succ n ih =>
    simp only [fixed, List.mem_append, List.mem_singleton] at h
    by_cases hc : c ∈ fixed n (v / 16)
    · exact ih hc
    · rw [h.resolve_left hc]
      apply isLowerDigit_digitChar
      exact Nat.mod_lt _ (by decide)

/-- Exactly `n` digits, all in lower case, that read as the number `v`. -/
structure Spells (n : Nat) (digits : List Char) (v : Nat) : Prop where
  length : digits.length = n
  lower : ∀ c ∈ digits, IsLowerDigit c
  read : read? digits = some v

theorem spells_fixed {n v : Nat} (h : v < 16 ^ n) : Spells n (fixed n v) v where
  length := length_fixed n v
  lower _ := isLowerDigit_of_mem_fixed
  read := by rw [read?_fixed, Nat.mod_eq_of_lt h]

/-! ## Bytes and digits of one number -/

theorem ofBytes_append (bytes bytes' : List UInt8) :
    ofBytes (bytes ++ bytes') = ofBytes bytes ++ ofBytes bytes' :=
  List.flatMap_append

/-- Two digits for each byte are the digits of the number. -/
theorem ofBytes_bigEndian (n v : Nat) : ofBytes (bigEndian n v) = fixed (2 * n) v := by
  induction n generalizing v with
  | zero => rfl
  | succ n ih =>
    have hbyte : (UInt8.ofNat (v % 256)).toNat = v % 256 := by
      rw [UInt8.toNat_ofNat']
      omega
    have hhigh : v % 256 / 16 % 16 = v / 16 % 16 := by omega
    have hlow : v % 256 % 16 = v % 16 := by omega
    have hrest : v / 16 / 16 = v / 256 := by omega
    have hlast :
        ofBytes [UInt8.ofNat (v % 256)] = [(v / 16 % 16).digitChar, (v % 16).digitChar] := by
      simp [ofBytes, fixed, hbyte, hhigh, hlow]
    show ofBytes (bigEndian n (v / 256) ++ [UInt8.ofNat (v % 256)]) = fixed (2 * n + 2) v
    rw [ofBytes_append, ih, hlast, fixed, fixed, hrest, List.append_assoc]
    rfl

/-- Fewer bytes of a number are the last of more. -/
theorem bigEndian_suffix {m n : Nat} (h : m ≤ n) (v : Nat) : bigEndian m v <:+ bigEndian n v := by
  induction m generalizing n v with
  | zero => exact List.nil_suffix
  | succ m ih =>
    cases n with
    | zero => omega
    | succ n =>
      obtain ⟨front, hfront⟩ := ih (show m ≤ n by omega) (v / 256)
      show bigEndian m (v / 256) ++ [_] <:+ bigEndian n (v / 256) ++ [_]
      rw [← hfront, List.append_assoc]
      exact List.suffix_append _ _

/-- What the bytes cannot hold does not show in them. -/
theorem bigEndian_mod (n v : Nat) : bigEndian n (v % 256 ^ n) = bigEndian n v := by
  induction n generalizing v with
  | zero => rfl
  | succ n ih =>
    have hlast : v % 256 ^ (n + 1) % 256 = v % 256 := by
      apply Nat.mod_mod_of_dvd
      exact Dvd.intro_left (256 ^ n) rfl
    have hrest : v % 256 ^ (n + 1) / 256 = v / 256 % 256 ^ n := by
      rw [Nat.pow_succ', Nat.mod_mul_right_div_self]
    rw [bigEndian, hlast, hrest, ih, bigEndian]

theorem ofBytes_suffix {bytes bytes' : List UInt8} (h : bytes <:+ bytes') :
    ofBytes bytes <:+ ofBytes bytes' := by
  obtain ⟨front, rfl⟩ := h
  rw [ofBytes_append]
  exact List.suffix_append _ _

end EchoFilter.Hex
