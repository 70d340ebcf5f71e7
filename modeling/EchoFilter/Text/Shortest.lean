import EchoFilter.Text.Numeral

/-!
Shortest decimal text of a floating-point number.

A number is decoded into a significand and a power of two.  Every real between the midpoints to its
two neighbours rounds to it, the midpoints themselves exactly when the significand is even.  Of the
decimals in that interval one with the fewest digits is taken, and of those the nearest; the search
is exact arithmetic on natural numbers.  The text is positional, without an exponent and without a
point after a whole number.
-/

namespace EchoFilter.Shortest

/-- The natural power `10 ^ k`. -/
def tenTo (k : Nat) : Nat :=
  Nat.pow 10 k

/-- The natural power `2 ^ k`. -/
def twoTo (k : Nat) : Nat :=
  Nat.pow 2 k

/-- The reals that round to a number, and the number itself, as numerators over one denominator. -/
structure Interval where
  low : Nat
  middle : Nat
  high : Nat
  denominator : Nat
  /-- Whether the two ends belong to it. -/
  closed : Bool

/-- The interval of `m * 2 ^ q`.  Below a power of two the neighbour is only half as far. -/
def Interval.ofBinary (m : Nat) (q : Int) (halfGapBelow : Bool) : Interval :=
  let scale := twoTo (q - 2).toNat
  { low := (4 * m - if halfGapBelow then 1 else 2) * scale
    middle := 4 * m * scale
    high := (4 * m + 2) * scale
    denominator := twoTo (2 - q).toNat
    closed := m % 2 = 0 }

/-- Whether `c * 10 ^ e` lies in an interval. -/
def Interval.has (i : Interval) (c : Nat) (e : Int) : Bool :=
  let up := tenTo (-e).toNat
  let point := c * tenTo e.toNat * i.denominator
  if i.closed then i.low * up ≤ point && point ≤ i.high * up
  else i.low * up < point && point < i.high * up

/-- How many digits the whole part has. -/
def wholeDigits (i : Interval) : Nat :=
  (Nat.toDigits 10 (i.middle / i.denominator)).length

/-- How many zeros follow the point before the first digit that counts. -/
def leadingZeros (fuel n den : Nat) : Nat :=
  match fuel with
  | 0 => 0
  | fuel + 1 => if n * 10 < den then leadingZeros fuel (n * 10) den + 1 else 0

/-- The power of ten just above the number: it lies below `10 ^ k` and not below `10 ^ (k - 1)`. -/
def magnitude (i : Interval) : Int :=
  if i.denominator ≤ i.middle then wholeDigits i
  else -(leadingZeros 400 i.middle i.denominator : Int)

/-- The two neighbours of the number on the grid of multiples of `10 ^ e`: the one inside the
interval, or the nearer if both are, and the upper one of two equally near. -/
def onGrid? (i : Interval) (e : Int) : Option Nat :=
  let unit := i.denominator * tenTo e.toNat
  let scaled := i.middle * tenTo (-e).toNat
  let below := scaled / unit
  match i.has below e, i.has (below + 1) e with
  | true, true => some (if 2 * (scaled % unit) < unit then below else below + 1)
  | true, false => some below
  | false, true => some (below + 1)
  | false, false => none

/-- A digit string that has rounded up to the next power of ten is that power with one digit. -/
def carried (n : Nat) (c : Nat) (e : Int) : Nat × Int :=
  if c = tenTo n then (1, e + n) else (c, e)

/-- Tries grids of one digit, two digits and so on; seventeen digits always suffice. -/
def search (i : Interval) (k : Int) : Nat → Nat → Nat × Int
  | 0, n => (i.middle * tenTo ((n : Int) - k).toNat / i.denominator, k - n)
  | fuel + 1, n =>
    match onGrid? i (k - n) with
    | some c => carried n c (k - n)
    | none => search i k fuel (n + 1)

/-- Digits and exponent of the shortest decimal. -/
def digits (i : Interval) : Nat × Int :=
  search i (magnitude i) 17 1

/-- `c * 10 ^ e` in positional form. -/
def positional (c : Nat) (e : Int) : List Char :=
  let ds := Numeral.write c
  if 0 ≤ e then ds ++ List.replicate e.toNat '0'
  else
    let places := (-e).toNat
    let padded := List.replicate (places + 1 - ds.length) '0' ++ ds
    padded.take (padded.length - places) ++ ['.'] ++ padded.drop (padded.length - places)

/-- The text of a finite number from its exponent and fraction fields. -/
def finite (exponent fraction : Nat) : List Char :=
  if exponent = 0 ∧ fraction = 0 then ['0']
  else
    let m := if exponent = 0 then fraction else fraction + twoTo 52
    let q : Int := (if exponent = 0 then 1 else exponent) - 1075
    let (c, e) := digits (.ofBinary m q (fraction = 0 && 1 < exponent))
    positional c e

/-- The text of a number of double precision. -/
def text (x : Float) : String :=
  let bits := x.toBits.toNat
  let fraction := bits % twoTo 52
  let exponent := bits / twoTo 52 % twoTo 11
  let sign := if bits / twoTo 63 = 1 then ['-'] else []
  if exponent = 2047 then
    if fraction = 0 then String.ofList (sign ++ ['i', 'n', 'f']) else "NaN"
  else String.ofList (sign ++ finite exponent fraction)

end EchoFilter.Shortest
