import EchoFilter.Telemetry.Pattern.CharClass
import EchoFilter.Text.Alphanumeric

/-!
Regular expressions as the values of fields in log filters, checked for whether they can be used.

Such a value ends at the first closing brace, so a repetition with a count in braces is never
complete; an opening brace outside a class is a fault.  Modes that are switched on in a group last
until its end.  Deep nesting is refused, and so is a word boundary in the sense of Unicode.
-/

namespace EchoFilter.Pattern

/-- Why an expression cannot be used. -/
inductive Fault where
  | malformed
  | wordBoundary
  deriving DecidableEq, Repr

def Fault.message : Fault → String
  | .malformed => "error building NFA"
  | .wordBoundary =>
    "unsupported regex feature for DFAs: cannot build DFAs for regexes with Unicode word "
      ++ "boundaries; switch to ASCII word boundaries, or heuristically enable Unicode word "
      ++ "boundaries or use a different regex engine"

/-! ## Groups -/

/-- What an opening parenthesis begins. -/
inductive Opening where
  /-- Modes for the rest of the group around it. -/
  | modes (letters : List Char)
  /-- A group, in modes of its own. -/
  | group (letters : List Char)
  /-- A group with a name. -/
  | named (name : List Char)
  deriving DecidableEq, Repr

/-- Whether a text may name a group. -/
def isName : List Char → Bool
  | [] => false
  | c :: r =>
    (c = '_' || Alphanumeric.isAlphabetic c) &&
      r.all fun c => c ∈ ['_', '.', '[', ']'] || Alphanumeric.isAlphanumeric c

/-- The letters of the modes, and the hyphen before those that are switched off. -/
def modeLetters : List Char :=
  ['i', 'm', 's', 'U', 'u', 'R', 'x', '-']

/-- Whether letters switch modes: each at most once, and the hyphen not at the end. -/
def areModes (letters : List Char) : Bool :=
  letters.all (· ∈ modeLetters) && decide letters.Nodup && letters.getLast? ≠ some '-'

/-- Reads a name up to its closing bracket. -/
def name? (s : List Char) : Option (Opening × List Char) :=
  let name := s.takeWhile (· ≠ '>')
  match s.dropWhile (· ≠ '>') with
  | '>' :: r => if isName name then some (.named name, r) else none
  | _ => none

/-- Reads modes up to the colon of a group or up to the closing parenthesis. -/
def modes? (s : List Char) : Option (Opening × List Char) :=
  let ends (c : Char) : Bool := c = ':' || c = ')'
  let letters := s.takeWhile (!ends ·)
  if areModes letters then
    match s.dropWhile (!ends ·) with
    | ':' :: r => some (.group letters, r)
    | ')' :: r => if letters.isEmpty then none else some (.modes letters, r)
    | _ => none
  else none

/-- Reads what follows an opening parenthesis. -/
def opening? : List Char → Option (Opening × List Char)
  | '?' :: 'P' :: '<' :: r => name? r
  | '?' :: '<' :: r => name? r
  | '?' :: r => modes? r
  | r => some (.group [], r)

/-! ## Expressions -/

/-- A part of an expression, and whether it can be repeated. -/
structure Part where
  outline : Outline
  repeatable : Bool := true
  deriving DecidableEq, Repr

/-- A group that is open: the modes in force, the alternatives before the last bar, and the parts
behind it, the last one first. -/
structure Level where
  modes : Modes := {}
  alternatives : List Outline := []
  parts : List Part := []
  deriving DecidableEq, Repr

namespace Level

def add (l : Level) (o : Outline) : Level :=
  { l with parts := { outline := o } :: l.parts }

/-- The parts behind the last bar. -/
def sequence (l : Level) : Outline :=
  .ofParts (l.parts.map (·.outline))

def outline (l : Level) : Outline :=
  .ofParts (l.sequence :: l.alternatives)

end Level

/-- Reads a part that is neither group nor class, from its first character and what follows it. -/
def atom? (m : Modes) (c : Char) (r : List Char) : Option (Outline × List Char) :=
  match c with
  | '\x7b' => none
  | '^' => some (.leaf, r)
  | '$' => some (.leaf, r)
  | '.' => if m.unicode then some (.leaf, r) else none
  | '\\' =>
    match Escape.read? m r with
    | some (.char c byte, r) => if m.admits c byte then some (.leaf, r) else none
    | some (.group negated, r) => if m.admitsGroup negated then some (.leaf, r) else none
    | some (.place ofWord, r) => some ({ boundary := ofWord && m.unicode }, r)
    | none => none
  | c => if m.admits c false then some (.leaf, r) else none

/-- Reads on in a group within others; `names` are those of the groups so far. -/
def readFrom : Nat → List (List Char) → Level → List Level → List Char → Option Outline
  | 0, _, _, _, _ => none
  | fuel + 1, names, l, outer, s =>
    match l.modes.skip s with
    | [] => if outer.isEmpty then some l.outline else none
    | '(' :: r =>
      match opening? (l.modes.skip r) with
      | none => none
      | some (.modes letters, r) =>
        let set : Part := { outline := .leaf, repeatable := false }
        readFrom fuel names { l with modes := l.modes.set letters, parts := set :: l.parts } outer r
      | some (.group letters, r) =>
        readFrom fuel names { modes := l.modes.set letters } (l :: outer) r
      | some (.named name, r) =>
        if name ∈ names then none
        else readFrom fuel (name :: names) { modes := l.modes } (l :: outer) r
    | ')' :: r =>
      match outer with
      | [] => none
      | o :: outer => readFrom fuel names (o.add l.outline.wrap) outer r
    | '|' :: r =>
      readFrom fuel names { l with alternatives := l.sequence :: l.alternatives, parts := [] }
        outer r
    | '[' :: r =>
      match CharClass.read? l.modes r with
      | some (o, r) => readFrom fuel names (l.add o) outer r
      | none => none
    | c :: r =>
      if c = '?' || c = '*' || c = '+' then
        match l.parts with
        | { outline := o, repeatable := true } :: parts =>
          -- A question mark behind the sign makes the repetition lazy.
          let r := if r.head? = some '?' then r.tail else r
          readFrom fuel names { l with parts := { outline := o.wrap } :: parts } outer r
        | _ => none
      else
        match atom? l.modes c r with
        | some (o, r) => readFrom fuel names (l.add o) outer r
        | none => none

/-- The outline of a well-formed expression. -/
def read? (s : List Char) : Option Outline :=
  readFrom (s.length + 1) [] {} [] s

/-- How high the tree of an expression may be. -/
def heightLimit : Nat := 250

/-- Checks whether an expression can be used. -/
def check (s : List Char) : Except Fault Unit :=
  match read? s with
  | none => .error .malformed
  | some o =>
    if heightLimit < o.height then .error .malformed
    else if o.boundary then .error .wordBoundary
    else .ok ()

end EchoFilter.Pattern
