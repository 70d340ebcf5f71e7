import EchoFilter.Frame

/-!
Reading JSON text as values of a known type.

A reader takes one value from the front of a text and gives the rest.  It stops at the first fault,
and the three kinds of fault are told apart: the text ends too early, the text is not JSON, or it is
JSON so far but not a value of the type.  A value that nobody asked for is skipped by its grammar
alone, without judging escapes beyond their form or numbers by their size.
-/

namespace EchoFilter.Json

/-- How a text fails to be a value of a type. -/
inductive Fault where
  /-- Well-formed so far, but not a value of the type; possibly because it breaks the limits of a
  frame. -/
  | data (cause : Option FrameError)
  /-- Not JSON. -/
  | grammar
  /-- The text ends inside a value. -/
  | ended
  deriving DecidableEq, Repr

/-- Reads one value from the front of a text and gives what is left. -/
abbrev Reader (α : Type) := List Char → Except Fault (α × List Char)

/-- The fault of a value that is not of the type: its own if it has one. -/
def Fault.ofOther {α : Type} : Except Fault α → Fault
  | .error e => e
  | .ok _ => .data none

/-! ## Spaces and words -/

def isSpace (c : Char) : Bool :=
  c = ' ' || c = '\n' || c = '\t' || c = '\r'

def skipSpace (s : List Char) : List Char :=
  s.dropWhile isSpace

/-- Takes the characters of a word. -/
def word : List Char → List Char → Except Fault (List Char)
  | [], s => .ok s
  | _ :: _, [] => .error .ended
  | c :: cs, d :: s => if c = d then word cs s else .error .grammar

/-! ## Numbers -/

/-- What a number is to a reader of natural numbers. -/
inductive Number where
  /-- Digits alone, with a value that fits 64 bits. -/
  | natural (n : Nat)
  | other
  deriving DecidableEq, Repr

/-- Whether a number is read for its value or only skipped. -/
inductive Use where
  | reading
  | skipping
  deriving DecidableEq, Repr

/-- The fault of a number that ends where a digit is due. -/
def Use.atEnd : Use → Fault
  | .reading => .ended
  | .skipping => .grammar

/-- Takes digits into a significand as long as it fits 64 bits, and counts those left out. -/
def gather (significand : Nat) : List Char → Nat × Nat
  | [] => (significand, 0)
  | c :: r =>
    let next := 10 * significand + (c.toNat - '0'.toNat)
    if next < UInt64.size then gather next r else (significand, r.length + 1)

/-- Whether a floating-point number is finite. -/
def isFinite (significand : Nat) (exponent : Int) : Bool :=
  significand = 0 || exponent ≤ 0 ||
    (exponent ≤ 308 &&
      !(significand.toUInt64.toFloat * Float.ofScientific 1 false exponent.toNat).isInf)

/-- A number that is no natural number of 64 bits; one that is read must be finite. -/
def otherNumber (use : Use) (significand : Nat) (exponent : Int) (rest : List Char) :
    Except Fault (Number × List Char) :=
  if use = .skipping || isFinite significand exponent then .ok (.other, rest) else .error .grammar

/-- What follows the letter of an exponent. -/
def exponentPart (use : Use) (significand : Nat) (exponent : Int) (s : List Char) :
    Except Fault (Number × List Char) :=
  let (negative, s) :=
    match s with
    | '+' :: r => (false, r)
    | '-' :: r => (true, r)
    | s => (false, s)
  match s with
  | [] => .error use.atEnd
  | c :: _ =>
    if c.isDigit then
      let e : Int := Nat.ofDigitChars 10 (s.takeWhile Char.isDigit) 0
      otherNumber use significand (exponent + if negative then -e else e)
        (s.dropWhile Char.isDigit)
    else .error .grammar

/-- What follows the point of a fraction. -/
def fractionPart (use : Use) (significand : Nat) (exponent : Int) (s : List Char) :
    Except Fault (Number × List Char) :=
  let ds := s.takeWhile Char.isDigit
  let rest := s.dropWhile Char.isDigit
  if ds.isEmpty then .error (if rest.isEmpty then use.atEnd else .grammar)
  else
    let (significand, left) := gather significand ds
    let exponent := exponent - (ds.length - left : Nat)
    match rest with
    | 'e' :: r => exponentPart use significand exponent r
    | 'E' :: r => exponentPart use significand exponent r
    | _ => otherNumber use significand exponent rest

/-- What follows the digits of the whole part, of which `left` did not fit. -/
def numberTail (use : Use) (significand left : Nat) (s : List Char) :
    Except Fault (Number × List Char) :=
  match s with
  | '.' :: r => fractionPart use significand left r
  | 'e' :: r => exponentPart use significand left r
  | 'E' :: r => exponentPart use significand left r
  | s => if left = 0 then .ok (.natural significand, s) else otherNumber use significand left s

/-- A number without its sign.  No digit may follow a leading zero. -/
def number (use : Use) (s : List Char) : Except Fault (Number × List Char) :=
  match s with
  | [] => .error use.atEnd
  | '0' :: r =>
    if r.head?.any Char.isDigit then .error .grammar else numberTail use 0 0 r
  | c :: _ =>
    if c.isDigit then
      let (significand, left) := gather 0 (s.takeWhile Char.isDigit)
      numberTail use significand left (s.dropWhile Char.isDigit)
    else .error .grammar

/-! ## Strings -/

/-- The character that a one-letter escape stands for. -/
def simpleEscape? : Char → Option Char
  | '"' => some '"'
  | '\\' => some '\\'
  | '/' => some '/'
  | 'b' => some '\x08'
  | 'f' => some '\x0c'
  | 'n' => some '\n'
  | 'r' => some '\r'
  | 't' => some '\t'
  | _ => none

/-- The number that four hexadecimal digits stand for. -/
def hexQuad? (a b c d : Char) : Option Nat :=
  Hex.read? [a, b, c, d]

def isHighSurrogate (n : Nat) : Bool :=
  0xD800 ≤ n && n ≤ 0xDBFF

def isLowSurrogate (n : Nat) : Bool :=
  0xDC00 ≤ n && n ≤ 0xDFFF

/-- The character of a surrogate pair. -/
def surrogatePair (high low : Nat) : Char :=
  Char.ofNat ((high - 0xD800) * 0x400 + (low - 0xDC00) + 0x10000)

/-- The fault of a numeric escape with fewer than four characters behind it: the text has ended if
fewer than four bytes are left of it. -/
def shortEscape (s : List Char) : Fault :=
  if (String.ofList s).utf8ByteSize < 4 then .ended else .grammar

/-- The fault of a high surrogate that no numeric escape follows. -/
def brokenPair : List Char → Fault
  | [] => .ended
  | ['\\'] => .ended
  | '\\' :: 'u' :: r => shortEscape r
  | _ => .grammar

/-- A character in front of what a string still holds. -/
def prepend (c : Char) (r : Except Fault (List Char × List Char)) :
    Except Fault (List Char × List Char) :=
  match r with
  | .ok (cs, rest) => .ok (c :: cs, rest)
  | .error e => .error e

/-- The characters of a string behind its opening quote, up to and without the closing one. -/
def stringBody : List Char → Except Fault (List Char × List Char)
  | [] => .error .ended
  | '"' :: r => .ok ([], r)
  | ['\\'] => .error .ended
  | '\\' :: 'u' :: a :: b :: c :: d :: r =>
    match hexQuad? a b c d with
    | none => .error .grammar
    | some n =>
      if isHighSurrogate n then
        match r with
        | '\\' :: 'u' :: a :: b :: c :: d :: r =>
          match hexQuad? a b c d with
          | none => .error .grammar
          | some m =>
            if isLowSurrogate m then prepend (surrogatePair n m) (stringBody r)
            else .error .grammar
        | r => .error (brokenPair r)
      else if isLowSurrogate n then .error .grammar
      else prepend (Char.ofNat n) (stringBody r)
  | '\\' :: 'u' :: r => .error (shortEscape r)
  | '\\' :: c :: r =>
    match simpleEscape? c with
    | some x => prepend x (stringBody r)
    | none => .error .grammar
  | c :: r => if c.toNat < 0x20 then .error .grammar else prepend c (stringBody r)

/-- Passes over a string behind its opening quote.  Numeric escapes need four digits but not a
character. -/
def skipString : List Char → Except Fault (List Char)
  | [] => .error .ended
  | '"' :: r => .ok r
  | ['\\'] => .error .ended
  | '\\' :: 'u' :: a :: b :: c :: d :: r =>
    if (hexQuad? a b c d).isSome then skipString r else .error .grammar
  | '\\' :: 'u' :: r => .error (shortEscape r)
  | '\\' :: c :: r => if (simpleEscape? c).isSome then skipString r else .error .grammar
  | c :: r => if c.toNat < 0x20 then .error .grammar else skipString r

/-! ## Values of a type -/

/-- The fault of a value that stands where one of another type is due: a scalar is read to its end
first, an array or object is not entered. -/
def mismatch : List Char → Fault
  | 'n' :: r => .ofOther (word ['u', 'l', 'l'] r)
  | 't' :: r => .ofOther (word ['r', 'u', 'e'] r)
  | 'f' :: r => .ofOther (word ['a', 'l', 's', 'e'] r)
  | '-' :: r => .ofOther (number .reading r)
  | '"' :: r => .ofOther (stringBody r)
  | '[' :: _ => .data none
  | '\x7b' :: _ => .data none
  | c :: r => if c.isDigit then .ofOther (number .reading (c :: r)) else .grammar
  | [] => .grammar

/-- A natural number below a bound. -/
def natural (bound : Nat) : Reader Nat := fun s =>
  match skipSpace s with
  | [] => .error .ended
  | c :: r =>
    if c.isDigit then
      match number .reading (c :: r) with
      | .ok (.natural n, rest) => if n < bound then .ok (n, rest) else .error (.data none)
      | .ok (.other, _) => .error (.data none)
      | .error e => .error e
    else .error (mismatch (c :: r))

def string : Reader String := fun s =>
  match skipSpace s with
  | [] => .error .ended
  | '"' :: r =>
    match stringBody r with
    | .ok (cs, rest) => .ok (String.ofList cs, rest)
    | .error e => .error e
  | s => .error (mismatch s)

def boolean : Reader Bool := fun s =>
  match skipSpace s with
  | [] => .error .ended
  | 't' :: r => (word ['r', 'u', 'e'] r).map fun rest => (true, rest)
  | 'f' :: r => (word ['a', 'l', 's', 'e'] r).map fun rest => (false, rest)
  | s => .error (mismatch s)

/-- The value `null`. -/
def null : Reader Unit := fun s =>
  match skipSpace s with
  | [] => .error .ended
  | 'n' :: r => (word ['u', 'l', 'l'] r).map fun rest => ((), rest)
  | s => .error (mismatch s)

/-! ## Arrays -/

/-- Where the next item of an array begins, or nothing at the closing bracket, which stays. -/
def nextItem (first : Bool) (s : List Char) : Except Fault (Option (List Char)) :=
  match skipSpace s with
  | [] => .error .ended
  | ']' :: _ => .ok none
  | c :: r =>
    if first then .ok (some (c :: r))
    else if c = ',' then
      match skipSpace r with
      | [] => .error .ended
      | ']' :: _ => .error .grammar
      | r => .ok (some r)
    else .error .grammar

/-- The closing bracket of an array. -/
def endArray (s : List Char) : Except Fault (List Char) :=
  match skipSpace s with
  | [] => .error .ended
  | ']' :: r => .ok r
  | _ => .error .grammar

/-- The items of an array behind its opening bracket.  Every item takes at least one character, so
as many steps as there are characters suffice. -/
def items {α : Type} (item : Reader α) : (steps : Nat) → (first : Bool) → Reader (List α)
  | 0, _, _ => .error .grammar
  | steps + 1, first, s =>
    match nextItem first s with
    | .error e => .error e
    | .ok none => (endArray s).map fun rest => ([], rest)
    | .ok (some s) =>
      match item s with
      | .error e => .error e
      | .ok (x, s) =>
        match items item steps false s with
        | .error e => .error e
        | .ok (xs, rest) => .ok (x :: xs, rest)

/-- An array of items of one type. -/
def array {α : Type} (item : Reader α) : Reader (List α) := fun s =>
  match skipSpace s with
  | [] => .error .ended
  | '[' :: r => items item (r.length + 1) true r
  | s => .error (mismatch s)

/-! ## Skipping -/

inductive Bracket where
  | square
  | curly
  deriving DecidableEq, Repr

def Bracket.closing : Bracket → Char
  | .square => ']'
  | .curly => '\x7d'

/-- What is due next while a value is skipped. -/
inductive Spot where
  | value
  /-- Behind an opening bracket. -/
  | opened
  /-- Behind an item of the innermost bracket. -/
  | item
  deriving DecidableEq, Repr

/-- A quoted key and its colon. -/
def skipKey (s : List Char) : Except Fault (List Char) :=
  match skipSpace s with
  | [] => .error .ended
  | '"' :: r =>
    match skipString r with
    | .error e => .error e
    | .ok r =>
      match skipSpace r with
      | [] => .error .ended
      | ':' :: r => .ok r
      | _ => .error .grammar
  | _ => .error .grammar

/-- Passes over one value and everything in it.  The brackets still open are listed innermost first.
Every second step takes a character, so twice as many steps as characters suffice. -/
def skipFrom : (steps : Nat) → Spot → List Bracket → List Char → Except Fault (List Char)
  | 0, _, _, _ => .error .grammar
  | steps + 1, .value, brackets, s =>
    let scalar (r : Except Fault (List Char)) : Except Fault (List Char) :=
      match r, brackets with
      | .error e, _ => .error e
      | .ok rest, [] => .ok rest
      | .ok rest, _ :: _ => skipFrom steps .item brackets rest
    match skipSpace s with
    | [] => .error .ended
    | 'n' :: r => scalar (word ['u', 'l', 'l'] r)
    | 't' :: r => scalar (word ['r', 'u', 'e'] r)
    | 'f' :: r => scalar (word ['a', 'l', 's', 'e'] r)
    | '-' :: r => scalar ((number .skipping r).map Prod.snd)
    | '"' :: r => scalar (skipString r)
    | '[' :: r => skipFrom steps .opened (.square :: brackets) r
    | '\x7b' :: r => skipFrom steps .opened (.curly :: brackets) r
    | c :: r =>
      if c.isDigit then scalar ((number .skipping (c :: r)).map Prod.snd) else .error .grammar
  | _ + 1, _, [], _ => .error .grammar
  | steps + 1, spot, b :: brackets, s =>
    let enter (s : List Char) : Except Fault (List Char) :=
      match b with
      | .square => skipFrom steps .value (b :: brackets) s
      | .curly =>
        match skipKey s with
        | .error e => .error e
        | .ok s => skipFrom steps .value (b :: brackets) s
    match skipSpace s with
    | [] => .error .ended
    | c :: r =>
      if c = b.closing then
        match brackets with
        | [] => .ok r
        | _ :: _ => skipFrom steps .item brackets r
      else if spot = .opened then enter (c :: r)
      else if c = ',' then enter r
      else .error .grammar

/-- Passes over one value of any type. -/
def skipValue (s : List Char) : Except Fault (List Char) :=
  skipFrom (2 * s.length + 2) .value [] s

/-! ## Whole texts -/

/-- Reads a text that holds one value and nothing behind it. -/
def readText {α : Type} (reader : Reader α) (text : String) : Except Fault α :=
  match reader text.toList with
  | .error e => .error e
  | .ok (a, rest) => if (skipSpace rest).isEmpty then .ok a else .error .grammar

end EchoFilter.Json
