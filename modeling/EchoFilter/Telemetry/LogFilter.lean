import EchoFilter.Telemetry.Pattern
import EchoFilter.Text.Decimal
import EchoFilter.Text.Numeral

/-!
Log filters: comma-separated directives that say which events are logged.

A directive is a level, or a target, or a span in square brackets with a field in braces, the last
two with an optional `=` and level.  A lone word that is no level is a target, so a directive fails
only on its shape, on a level behind `=`, or on the value of its field.  White space around a
directive is skipped to find its parts, but positions count from the start of the text as it was
given, white space included.
-/

namespace EchoFilter.LogFilter

/-- Why a filter is refused. -/
inductive Fault where
  | malformed
  | unknownLevel
  | field (cause : Pattern.Fault)
  deriving DecidableEq, Repr

def Fault.message : Fault → String
  | .malformed => "invalid filter directive"
  | .unknownLevel =>
    "error parsing level filter: expected one of \"off\", \"error\", \"warn\", \"info\", "
      ++ "\"debug\", \"trace\", or a number 0-5"
  | .field cause => "invalid field filter: " ++ cause.message

/-! ## Levels and fields -/

/-- The names of levels, in lower case; the empty text counts as one. -/
def levelNames : List String :=
  ["", "off", "error", "warn", "info", "debug", "trace"]

/-- A level is a number up to five or a name in any case of its ASCII letters. -/
def isLevel (s : List Char) : Bool :=
  match Numeral.read UInt64.size s with
  | .ok n => n ≤ 5
  | .error _ => String.ofList (s.map Char.toLower) ∈ levelNames

/-- Checks a field.  Its value stands between the first and the second `=`; one that does not read
as a number is a regular expression, and the words for truth values are expressions as well. -/
def checkField (s : List Char) : Except Fault Unit :=
  match s.splitOn '=' with
  | _ :: value :: _ =>
    if Decimal.isNumeral value then .ok () else (Pattern.check value).mapError .field
  | _ => .ok ()

/-! ## Directives -/

/-- Where a directive stands while it is read. -/
inductive State where
  | start
  | levelOrTarget
  | span
  /-- Inside a field, which begins at this many bytes from the start. -/
  | field (position : Nat)
  | fields
  | target
  /-- Behind `=`, at this many bytes from the start. -/
  | level (position : Nat)
  deriving DecidableEq, Repr

/-- Whether a target may begin with a character. -/
def beginsTarget (c : Char) : Bool :=
  c = '-' || c = ':' || c = '_' || Alphanumeric.isAlphanumeric c

/-- The text behind the first `n` bytes. -/
def dropBytes (n : Nat) : List Char → List Char
  | [] => []
  | c :: r => if n < c.utf8Size then c :: r else dropBytes (n - c.utf8Size) r

/-- The text in the first `n` bytes. -/
def takeBytes (n : Nat) : List Char → List Char
  | [] => []
  | c :: r => if n < c.utf8Size then [] else c :: takeBytes (n - c.utf8Size) r

/-- Cutting a text at a number of bytes loses nothing. -/
theorem takeBytes_append_dropBytes (n : Nat) (s : List Char) :
    takeBytes n s ++ dropBytes n s = s := by
  induction s generalizing n with
  | nil => rfl
  | cons c r ih =>
    simp only [takeBytes, dropBytes]
    split
    · rfl
    · simp [ih]

/-- One character of a directive, `position` bytes into it; `given` is its text with white space. -/
def step (given : List Char) (position : Nat) (s : State) (c : Char) : Except Fault State :=
  let next := position + c.utf8Size
  match s with
  | .start =>
    if c = '[' then .ok .span else if beginsTarget c then .ok .levelOrTarget else .error .malformed
  | .levelOrTarget =>
    .ok (if c = '=' then .level next else if c = '[' then .span else .levelOrTarget)
  | .span => .ok (if c = ']' then .target else if c = '\x7b' then .field next else .span)
  | .field p =>
    if c = '\x7d' then
      if p = position then .error .malformed
      else (checkField (takeBytes (position - p) (dropBytes p given))).map fun _ => .fields
    else .ok (.field p)
  | .fields => if c = ']' then .ok .target else .error .malformed
  | .target => if c = '=' then .ok (.level next) else .error .malformed
  | .level p => .ok (.level p)

/-- The state after the characters of a directive, `position` bytes into it. -/
def scan (given : List Char) (position : Nat) (s : State) : List Char → Except Fault State
  | [] => .ok s
  | c :: r => (step given position s c).bind fun s => scan given (position + c.utf8Size) s r

/-- Checks what stands behind the last part of a directive. -/
def finish (given : List Char) : State → Except Fault Unit
  | .levelOrTarget => .ok ()
  | .target => .ok ()
  | .level p =>
    let level := dropBytes p given
    if level.isEmpty || isLevel level then .ok () else .error .unknownLevel
  | _ => .error .malformed

/-- Checks one directive. -/
def checkDirective (s : List Char) : Except Fault Unit :=
  (scan s 0 .start (Blank.trim s)).bind (finish s)

/-- Checks a filter; empty directives are skipped, and the first fault wins. -/
def check (filter : String) : Except Fault Unit :=
  ((filter.toList.splitOn ',').filter fun d => !d.isEmpty).forM checkDirective

end EchoFilter.LogFilter
