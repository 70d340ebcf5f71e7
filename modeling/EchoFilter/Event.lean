import EchoFilter.Frame

/-!
Log events and their lines.

An event is a level, a message and named values.  Its line shows the values sorted by name, so the
order in which an event is put together never shows.
-/

namespace EchoFilter

inductive Level where
  | trace
  | debug
  | info
  | warn
  | error
  deriving DecidableEq, Repr

def Level.label : Level → String
  | .trace => "TRACE"
  | .debug => "DEBUG"
  | .info => "INFO"
  | .warn => "WARN"
  | .error => "ERROR"

/-- One log event; the values are already text. -/
structure Event where
  level : Level
  message : String
  fields : List (String × String) := []
  deriving DecidableEq, Repr

namespace Event

/-- Level, message and then each value as `name=value`, sorted by name. -/
def line (e : Event) : String :=
  let sorted := e.fields.mergeSort fun a b => a.1 ≤ b.1
  sorted.foldl (fun acc f => acc ++ " " ++ f.1 ++ "=" ++ f.2) (e.level.label ++ " " ++ e.message)

/-- An event about a frame: interface and arbitration id have the same names everywhere. -/
def onFrame (level : Level) (message interface : String) (id : ArbitrationId)
    (extra : List (String × String) := []) : Event where
  level
  message
  fields := ("interface", interface) :: ("arbitration_id", id.display) :: extra

/-- An event in the life of a detector, marked with its component. -/
def onDetector (level : Level) (message : String) (extra : List (String × String) := []) :
    Event where
  level
  message
  fields := ("component", "frame-dedup") :: extra

end Event

end EchoFilter
