import EchoFilter.Telemetry.Pattern.Escape
import EchoFilter.Telemetry.Pattern.Outline

/-!
Classes of characters in square brackets: members, ranges, named classes and classes within classes,
joined by the operators of sets.
-/

namespace EchoFilter.Pattern.CharClass

/-- A bracket that is open. -/
structure Bracket where
  /-- Nothing but hyphens has been read; a hyphen stands for itself here. -/
  fresh : Bool := true
  /-- What stands before the last operator. -/
  left : Option Outline := none
  /-- The members behind it. -/
  members : List Outline := []
  deriving DecidableEq, Repr

namespace Bracket

def add (b : Bracket) (o : Outline) : Bracket :=
  { b with fresh := false, members := o :: b.members }

/-- The set so far.  Operators bind equally and to the left. -/
def content (b : Bracket) : Outline :=
  match b.left with
  | none => .ofParts b.members
  | some l => .ofParts [l, .ofParts b.members]

/-- The bracket behind an operator. -/
def operate (b : Bracket) : Bracket :=
  { fresh := false, left := some b.content }

end Bracket

/-- The names of classes of ASCII characters. -/
def names : List String :=
  ["alnum", "alpha", "ascii", "blank", "cntrl", "digit", "graph", "lower", "print", "punct",
    "space", "upper", "word", "xdigit"]

/-- Reads a named class behind its bracket, and tells whether it is negated. -/
def named? : List Char → Option (Bool × List Char)
  | ':' :: r =>
    let negated := r.head? = some '^'
    let r := if negated then r.tail else r
    match r.dropWhile (· ≠ ':') with
    | ':' :: ']' :: rest =>
      if String.ofList (r.takeWhile (· ≠ ':')) ∈ names then some (negated, rest) else none
    | _ => none
  | _ => none

/-- Whether a class may be the complement of what it holds; of bytes that is no text. -/
def admitsComplement (m : Modes) (negated : Bool) : Bool :=
  m.unicode || !negated

/-- Reads one member: a character, or a group of them that has no character to give. -/
def member? (m : Modes) : List Char → Option (Option Char × List Char)
  | [] => none
  | '\\' :: r =>
    match Escape.read? m r with
    | some (.char c _, r) => if m.admitsMember c then some (some c, r) else none
    | some (.group negated, r) => if m.admitsGroup negated then some (none, r) else none
    | _ => none
  | c :: r => if m.admitsMember c then some (some c, r) else none

/-- Reads a member or a range, and gives what is left.  A hyphen before the closing bracket or
before another hyphen makes no range. -/
def range? (m : Modes) (s : List Char) : Option (List Char) :=
  match member? m s with
  | none => none
  | some (low, r) =>
    match m.skip r with
    | '-' :: r =>
      if m.peek? r = some ']' || m.peek? r = some '-' then some ('-' :: r)
      else
        match low, member? m (m.skip r) with
        | some a, some (some b, r) => if a ≤ b then some r else none
        | _, _ => none
    | r => some r

/-- Opens a bracket. -/
def bracket? (m : Modes) (s : List Char) : Option (Bracket × List Char) :=
  match m.skip s with
  | '^' :: r => if admitsComplement m true then some ({}, r) else none
  | r => some ({}, r)

/-- Reads on in a bracket within others.  A closing bracket at the very start stands for itself. -/
def readFrom (m : Modes) : Nat → Bracket → List Bracket → List Char → Option (Outline × List Char)
  | 0, _, _, _ => none
  | fuel + 1, b, outer, s =>
    match m.skip s with
    | [] => none
    | c :: r =>
      if b.fresh && (c = '-' || (c = ']' && b.members.isEmpty)) then
        if m.admitsMember c then
          readFrom m fuel { b with fresh := c = '-', members := .leaf :: b.members } outer r
        else none
      else
        match c, r with
        | '[', r =>
          match named? r with
          | some (negated, r) =>
            if admitsComplement m negated && !(m.unicode && m.caseless) then
              readFrom m fuel (b.add .leaf) outer r
            else none
          | none =>
            match bracket? m r with
            | some (inner, r) => readFrom m fuel inner (b :: outer) r
            | none => none
        | ']', r =>
          match outer with
          | [] => some (b.content.wrap, r)
          | o :: outer => readFrom m fuel (o.add b.content.wrap) outer r
        | '&', '&' :: r => readFrom m fuel b.operate outer r
        | '-', '-' :: r => readFrom m fuel b.operate outer r
        | '~', '~' :: r => readFrom m fuel b.operate outer r
        | c, r =>
          match range? m (c :: r) with
          | some r => readFrom m fuel (b.add .leaf) outer r
          | none => none

/-- Reads a class behind its opening bracket. -/
def read? (m : Modes) (s : List Char) : Option (Outline × List Char) :=
  match bracket? m s with
  | some (b, r) => readFrom m (r.length + 1) b [] r
  | none => none

end EchoFilter.Pattern.CharClass
