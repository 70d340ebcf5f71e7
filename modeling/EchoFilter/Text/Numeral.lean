/-!
Decimal numerals for natural numbers.

`write` gives the shortest digits.  `read` takes an optional plus sign and at least one digit, and
refuses numbers at or above a bound; leading zeros are allowed.  Main statement: what `write` gives
for a number below the bound reads back as that number.
-/

namespace EchoFilter.Numeral

/-- Why a text is not a numeral below the bound. -/
inductive Fault where
  | empty
  | invalidDigit
  | tooLarge
  deriving DecidableEq, Repr

def Fault.message : Fault → String
  | .empty => "cannot parse integer from empty string"
  | .invalidDigit => "invalid digit found in string"
  | .tooLarge => "number too large to fit in target type"

/-- The digits of a number, without leading zeros. -/
def write (n : Nat) : List Char :=
  Nat.toDigits 10 n

def text (n : Nat) : String :=
  String.ofList (write n)

/-- The number that digits stand for, continuing a part that read as `acc`.  Digits are checked
from the left, and the first one that is no digit or that leads to the bound ends the reading. -/
def readDigits (bound acc : Nat) : List Char → Except Fault Nat
  | [] => .ok acc
  | c :: r =>
    if c.isDigit then
      let next := 10 * acc + (c.toNat - '0'.toNat)
      if next < bound then readDigits bound next r else .error .tooLarge
    else .error .invalidDigit

/-- A numeral: an optional plus sign and one or more digits. -/
def read (bound : Nat) : List Char → Except Fault Nat
  | [] => .error .empty
  | ['+'] => .error .invalidDigit
  | '+' :: r => readDigits bound 0 r
  | s => readDigits bound 0 s

/-- More digits never make a number smaller. -/
theorem le_ofDigitChars (s : List Char) (acc : Nat) : acc ≤ Nat.ofDigitChars 10 s acc := by
  induction s generalizing acc with
  | nil => exact Nat.le_refl _
  | cons c r ih =>
    rw [Nat.ofDigitChars_cons]
    exact Nat.le_trans (by omega) (ih _)

/-- Digits read as their value as long as it stays below the bound. -/
theorem readDigits_eq_ok {bound acc : Nat} {s : List Char} (hs : ∀ c ∈ s, c.isDigit = true)
    (hv : Nat.ofDigitChars 10 s acc < bound) :
    readDigits bound acc s = .ok (Nat.ofDigitChars 10 s acc) := by
  induction s generalizing acc with
  | nil => rfl
  | cons c r ih =>
    have hr : ∀ d ∈ r, d.isDigit = true := fun d hd => hs d (List.mem_cons_of_mem _ hd)
    rw [Nat.ofDigitChars_cons] at hv
    have hnext : 10 * acc + (c.toNat - '0'.toNat) < bound :=
      Nat.lt_of_le_of_lt (le_ofDigitChars r _) hv
    simp only [readDigits, hs c List.mem_cons_self, if_true, hnext, Nat.ofDigitChars_cons]
    exact ih hr hv

theorem isDigit_of_mem_write {n : Nat} {c : Char} (h : c ∈ write n) : c.isDigit = true :=
  Nat.isDigit_of_mem_toDigits (by decide) (by decide) h

theorem ofDigitChars_write (n : Nat) : Nat.ofDigitChars 10 (write n) 0 = n :=
  Nat.ofDigitChars_toDigits (by decide) (by decide)

theorem write_ne_nil (n : Nat) : write n ≠ [] :=
  Nat.toDigits_ne_nil

theorem read_write {bound n : Nat} (h : n < bound) : read bound (write n) = .ok n := by
  have hread : readDigits bound 0 (write n) = .ok n := by
    have hvalue := ofDigitChars_write n
    rw [readDigits_eq_ok (fun _ => isDigit_of_mem_write) (by omega), hvalue]
  have hplus {r : List Char} (heq : write n = '+' :: r) : False := by
    have hdigit := isDigit_of_mem_write (n := n) (c := '+') (by simp [heq])
    cases hdigit
  unfold read
  split
  next hnil => exact absurd hnil (write_ne_nil n)
  next heq => exact (hplus heq).elim
  next heq => exact (hplus heq).elim
  next => exact hread

end EchoFilter.Numeral
