/-!
Outlines of regular expressions: how deep an expression nests, and whether it asks for a word
boundary in the sense of Unicode.  That is all that decides whether a well-formed expression can be
used.
-/

namespace EchoFilter.Pattern

/-- What is kept of a part of an expression. -/
structure Outline where
  /-- How many nodes lie above each other in its tree, leaves not counted. -/
  height : Nat := 0
  /-- Whether it asks for a word boundary of Unicode. -/
  boundary : Bool := false
  deriving DecidableEq, Repr

namespace Outline

/-- A part without parts. -/
def leaf : Outline := {}

/-- A node around one part. -/
def wrap (o : Outline) : Outline :=
  { o with height := o.height + 1 }

/-- Parts side by side: a node around them, unless there is only one or none. -/
def ofParts : List Outline → Outline
  | [] => leaf
  | [o] => o
  | os => wrap ⟨(os.map height).foldl max 0, os.any boundary⟩

end Outline

end EchoFilter.Pattern
