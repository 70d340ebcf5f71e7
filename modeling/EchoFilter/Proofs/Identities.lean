import EchoFilter.Proofs.Loosening
import EchoFilter.Text.Hex.Lemmas

/-!
# Identities — what is printed of a frame's identity

A signature at a narrower width is the end of the one at a wider width: the end of its number, of
its bytes and of its digits.  Both printed forms, of signatures and of arbitration ids, have a fixed
number of lower-case digits that read as the number they stand for, so nothing is lost in print,
leading zeros included.
-/

namespace EchoFilter

/-! ## Signatures -/

theorem Width.two_pow_bits (w : Width) : 2 ^ w.bits = 256 ^ (w.bits / 8) := by
  cases w <;> rfl

theorem Width.two_mul_bytes (w : Width) : 2 * (w.bits / 8) = w.bits / 4 := by
  cases w <;> rfl

theorem Width.eq_of_digits_eq {v w : Width} (h : v.bits / 4 = w.bits / 4) : v = w := by
  have hbits (u : Width) : 4 * (u.bits / 4) = u.bits := by cases u <;> rfl
  apply eq_of_bits_eq
  rw [← hbits v, h, hbits w]

namespace Signature

theorem value_lt_two_pow (s : Signature) : s.value < 2 ^ s.width.bits := by
  rw [← Width.modulus_eq]
  exact s.value_lt

theorem toList_display (s : Signature) :
    s.display.toList = Hex.fixed (s.width.bits / 4) s.value := by
  show (String.ofList (Hex.ofBytes (Hex.bigEndian (s.width.bits / 8) s.value))).toList = _
  rw [String.toList_ofList, Hex.ofBytes_bigEndian, Width.two_mul_bytes]

/-- The bytes and the digits of a signature both stand for its value, and have the length of its
width. -/
structure Printed (s : Signature) : Prop where
  length_bytes : s.bytes.length = s.width.bits / 8
  value_bytes : Hex.ofBigEndian s.bytes = s.value
  digits : Hex.Spells (s.width.bits / 4) s.display.toList s.value

theorem printed (s : Signature) : s.Printed where
  length_bytes := Hex.length_bigEndian _ _
  value_bytes := by
    have hlt := s.value_lt_two_pow
    rw [Width.two_pow_bits] at hlt
    rw [bytes, Hex.ofBigEndian_bigEndian, Nat.mod_eq_of_lt hlt]
  digits := by
    have hlt : s.value < 16 ^ (s.width.bits / 4) := by
      have hpow : 2 ^ s.width.bits = 16 ^ (s.width.bits / 4) := by
        cases s.width <;> rfl
      rw [← hpow]
      exact s.value_lt_two_pow
    rw [toList_display]
    exact Hex.spells_fixed hlt

theorem display_inj {s t : Signature} : s.display = t.display ↔ s = t := by
  constructor
  · intro h
    have hs := s.printed.digits
    have ht := t.printed.digits
    rw [h] at hs
    -- The number of digits gives the width away, so no two widths print alike.
    have hwidth : s.width = t.width := by
      apply Width.eq_of_digits_eq
      rw [← hs.length, ht.length]
    have hvalue : s.value = t.value := by
      have hread := hs.read
      rw [ht.read, Option.some.injEq] at hread
      exact hread.symm
    cases s
    cases t
    cases hwidth
    cases hvalue
    rfl
  · intro h
    rw [h]

/-! ## Widths -/

theorem bytes_narrow (s : Signature) {v : Width} (h : v.bits ≤ s.width.bits) :
    (s.narrow v).bytes <:+ s.bytes := by
  show Hex.bigEndian (v.bits / 8) (s.value % v.modulus) <:+ Hex.bigEndian (s.width.bits / 8) s.value
  rw [Width.modulus_eq, Width.two_pow_bits, Hex.bigEndian_mod]
  apply Hex.bigEndian_suffix
  exact Nat.div_le_div_right h

theorem display_narrow (s : Signature) {v : Width} (h : v.bits ≤ s.width.bits) :
    (s.narrow v).display.toList <:+ s.display.toList := by
  show (String.ofList (Hex.ofBytes _)).toList <:+ (String.ofList (Hex.ofBytes _)).toList
  rw [String.toList_ofList, String.toList_ofList]
  exact Hex.ofBytes_suffix (s.bytes_narrow h)

/-- One content at two widths: the narrow value is the wide one modulo what the narrow width can
hold, and the narrow text is the end of the wide one. -/
structure Ends (narrow wide : Signature) : Prop where
  value : narrow.value = wide.value % 2 ^ narrow.width.bits
  display : narrow.display.toList <:+ wide.display.toList

theorem ends_compute {v w : Width} (h : v.bits ≤ w.bits) (id : ArbitrationId)
    (payload : List UInt8) : (compute v id payload).Ends (compute w id payload) := by
  rw [← narrow_compute h]
  exact
    { value := by
        show (compute w id payload).value % v.modulus = _
        rw [Width.modulus_eq]
        rfl
      display := (compute w id payload).display_narrow h }

theorem compute_eq_of_wider {v w : Width} (h : v.bits ≤ w.bits) {id id' : ArbitrationId}
    {payload payload' : List UInt8} (hwide : compute w id payload = compute w id' payload') :
    compute v id payload = compute v id' payload' := by
  rw [← narrow_compute h, hwide, narrow_compute h]

end Signature

/-! ## Arbitration ids -/

namespace ArbitrationId

theorem toList_display (id : ArbitrationId) :
    id.display.toList = '0' :: 'x' :: Hex.fixed id.displayWidth id.raw.toNat :=
  String.toList_ofList

theorem displayWidth_eq (id : ArbitrationId) :
    id.displayWidth = if 0x7FF < id.raw.toNat then 8 else 3 := by
  unfold displayWidth isExtended maxStandard
  by_cases h : 0x7FF < id.raw.toNat <;> simp [h]

/-- The digits of an id stand for it, three of them in the 11-bit format and eight in the 29-bit
format, and the length of the text tells the format. -/
structure Printed (id : ArbitrationId) : Prop where
  digits : ∃ digits, id.display.toList = '0' :: 'x' :: digits ∧
    Hex.Spells (if 0x7FF < id.raw.toNat then 8 else 3) digits id.raw.toNat
  standard : id.isExtended = false ↔ id.display.length = 5
  extended : id.isExtended = true ↔ id.display.length = 10

theorem printed (id : ArbitrationId) : id.Printed := by
  have hlt : id.raw.toNat < 16 ^ id.displayWidth := by
    have hle := id.raw_le
    rw [displayWidth_eq]
    by_cases h : 0x7FF < id.raw.toNat
    · rw [if_pos h]
      omega
    · rw [if_neg h]
      omega
  have hlength : id.display.length = id.displayWidth + 2 := by
    rw [← String.length_toList, toList_display]
    simp
  have hformat : id.displayWidth = if id.isExtended then 8 else 3 := rfl
  exact
    { digits := ⟨_, id.toList_display, by rw [← displayWidth_eq]; exact Hex.spells_fixed hlt⟩
      standard := by
        rw [hlength, hformat]
        cases id.isExtended <;> decide
      extended := by
        rw [hlength, hformat]
        cases id.isExtended <;> decide }

theorem display_inj {id id' : ArbitrationId} : id.display = id'.display ↔ id = id' := by
  constructor
  · intro h
    obtain ⟨digits, hdigits, hspells⟩ := id.printed.digits
    obtain ⟨digits', hdigits', hspells'⟩ := id'.printed.digits
    rw [h, hdigits'] at hdigits
    cases hdigits
    have hread := hspells.read
    rw [hspells'.read, Option.some.injEq, UInt32.toNat_inj] at hread
    cases id
    cases id'
    cases hread
    rfl
  · intro h
    rw [h]

end ArbitrationId

/-- **Identities print faithfully, and widths cohere.**  The signature of any id with any payload
has as many bytes and lower-case digits as its width asks for, and both stand for its value; at a
narrower width its value is what is left of the wider one's, its text is the end of the wider one's,
and what the wider width does not tell apart it does not either.  Signatures are equal if and only
if they print alike.  An id prints as `0x` with the lower-case digits of its format, which read as
the id, and no two ids print alike. -/
theorem identities_print_faithfully :
    (∀ (id : ArbitrationId) (payload : List UInt8) (w : Width),
      (Signature.compute w id payload).Printed ∧
      ∀ v : Width, v.bits ≤ w.bits →
        (Signature.compute v id payload).Ends (Signature.compute w id payload) ∧
        ∀ (id' : ArbitrationId) (payload' : List UInt8),
          Signature.compute w id payload = Signature.compute w id' payload' →
            Signature.compute v id payload = Signature.compute v id' payload') ∧
    (∀ s t : Signature, s.display = t.display ↔ s = t) ∧
    ∀ id : ArbitrationId,
      id.Printed ∧ ∀ id' : ArbitrationId, id.display = id'.display ↔ id = id' := by
  refine ⟨fun id payload w => ⟨Signature.printed _, fun v h => ?_⟩,
    fun s t => Signature.display_inj, fun id => ⟨id.printed, fun id' => ArbitrationId.display_inj⟩⟩
  constructor
  · exact Signature.ends_compute h id payload
  · intro id' payload' hwide
    exact Signature.compute_eq_of_wider h hwide

/-- An id with a leading zero in print, and a digest whose lower half begins with a zero byte. -/
theorem identities_print_faithfully_leading_zeros :
    Width.bits32.bits ≤ Width.bits64.bits ∧ Width.bits64.bits ≤ Width.bits128.bits ∧
      ∃ id : ArbitrationId, id.raw = 0xE4 ∧ id.display = "0x0e4" ∧ id.Printed ∧
        (Signature.compute .bits64 id []).display = "0076b72c2daf1718" ∧
        (Signature.compute .bits64 id []).Printed ∧
        (Signature.compute .bits32 id []).Ends (Signature.compute .bits64 id []) ∧
        (Signature.compute .bits64 id []).Ends (Signature.compute .bits128 id []) := by
  obtain ⟨hsignatures, -, hids⟩ := identities_print_faithfully
  have hprinted := hsignatures ⟨0xE4, by decide⟩ [] .bits64
  have hnarrow := (hprinted.2 .bits32 (by decide)).1
  have hwide := ((hsignatures ⟨0xE4, by decide⟩ [] .bits128).2 .bits64 (by decide)).1
  exact ⟨by decide, by decide, ⟨0xE4, by decide⟩, rfl, by decide +kernel, (hids _).1,
    by decide +kernel, hprinted.1, hnarrow, hwide⟩

end EchoFilter
