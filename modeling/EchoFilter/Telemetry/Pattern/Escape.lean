import EchoFilter.Text.Blank
import EchoFilter.Text.Hex

/-!
The modes that a regular expression is read in, and its escapes.

Nothing here knows the properties of characters beyond ASCII: neither which are letters, digits or
spaces, nor the other case of a letter.  What would need them is not admitted.
-/

namespace EchoFilter.Pattern

/-- The modes that decide how an expression is read and what it may ask for. -/
structure Modes where
  /-- Letters match in either case. -/
  caseless : Bool := false
  /-- The expression speaks of characters and not of bytes. -/
  unicode : Bool := true
  /-- Blanks and comments count for nothing. -/
  verbose : Bool := false
  deriving DecidableEq, Repr

namespace Modes

/-- The modes after some letters are switched on, and those behind a hyphen off. -/
def set (m : Modes) (letters : List Char) : Modes :=
  let on := letters.takeWhile (· ≠ '-')
  let off := letters.dropWhile (· ≠ '-')
  let choose (letter : Char) (now : Bool) : Bool := (now || letter ∈ on) && letter ∉ off
  { caseless := choose 'i' m.caseless
    unicode := choose 'u' m.unicode
    verbose := choose 'x' m.verbose }

/-- The text behind blanks and comments; a comment goes to the end of its line. -/
def skipVerbose (comment : Bool) : List Char → List Char
  | [] => []
  | c :: r =>
    if comment then skipVerbose (c ≠ '\n') r
    else if Blank.isBlank c then skipVerbose false r
    else if c = '#' then skipVerbose true r
    else c :: r

/-- The text from the next character that counts. -/
def skip (m : Modes) (s : List Char) : List Char :=
  if m.verbose then skipVerbose false s else s

/-- The character that seems to be next: behind the sign of a comment it is the first one that is
not blank. -/
def peek? (m : Modes) (s : List Char) : Option Char :=
  if m.verbose then
    match s.dropWhile Blank.isBlank with
    | '#' :: r => (r.dropWhile Blank.isBlank).head?
    | r => r.head?
  else s.head?

/-- Whether a character may stand for itself.  A character has no other case that is known, and a
byte beyond ASCII is no text. -/
def admits (m : Modes) (c : Char) (byte : Bool) : Bool :=
  if m.unicode then !m.caseless else !byte || c.toNat < 128

/-- Whether a character may be a member of a class; a class of bytes has ASCII members only. -/
def admitsMember (m : Modes) (c : Char) : Bool :=
  if m.unicode then !m.caseless else c.toNat < 128

/-- Whether the digits, spaces or word characters may be asked for.  Those of ASCII are known, but
the other bytes are no text. -/
def admitsGroup (m : Modes) (negated : Bool) : Bool :=
  !m.unicode && !negated

end Modes

/-- What an escape stands for. -/
inductive Escape where
  /-- A character; the flag tells whether it is written as a byte. -/
  | char (c : Char) (byte : Bool)
  /-- The digits, the spaces or the word characters, or all others. -/
  | group (negated : Bool)
  /-- A place in the text, at the edge of a word or at an end. -/
  | place (ofWord : Bool)
  deriving DecidableEq, Repr

namespace Escape

/-- How many digits follow the letter of a character written by its code point. -/
def width? : Char → Option Nat
  | 'x' => some 2
  | 'u' => some 4
  | 'U' => some 8
  | _ => none

/-- Continues a code point by so many digits. -/
def codePoint? (m : Modes) : Nat → Nat → List Char → Option (Nat × List Char)
  | 0, v, s => some (v, s)
  | n + 1, v, s =>
    match m.skip s with
    | [] => none
    | c :: r => (Hex.digitValue? c).bind fun d => codePoint? m n (16 * v + d) r

/-- What one letter behind a backslash stands for. -/
def letter? : Char → Option Escape
  | 'a' => some (.char '\x07' false)
  | 't' => some (.char '\t' false)
  | 'n' => some (.char '\n' false)
  | 'v' => some (.char '\x0b' false)
  | 'f' => some (.char '\x0c' false)
  | 'r' => some (.char '\r' false)
  | 'd' => some (.group false)
  | 's' => some (.group false)
  | 'w' => some (.group false)
  | 'D' => some (.group true)
  | 'S' => some (.group true)
  | 'W' => some (.group true)
  | 'A' => some (.place false)
  | 'z' => some (.place false)
  | 'b' => some (.place true)
  | 'B' => some (.place true)
  | '<' => some (.place true)
  | '>' => some (.place true)
  | _ => none

/-- Reads what follows a backslash.  A sign of ASCII stands for itself; a letter without a meaning,
a digit and a character beyond ASCII are refused.  So is a property of characters. -/
def read? (m : Modes) : List Char → Option (Escape × List Char)
  | [] => none
  | c :: r =>
    match width? c with
    | some n =>
      match codePoint? m n 0 r with
      | some (v, r) => if v.isValidChar then some (.char (Char.ofNat v) (c = 'x'), r) else none
      | none => none
    | none =>
      match letter? c with
      | some e => some (e, r)
      | none => if c.toNat < 128 && !c.isAlphanum then some (.char c false, r) else none

end Escape

end EchoFilter.Pattern
