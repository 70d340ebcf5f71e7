import EchoFilter.Json.Reader

/-!
Records and enumerations in JSON.

A record is read from an object, its fields in any order and unknown fields skipped, or from an
array, its fields in the order of their declaration.  What is missing is decided at the end.  An
enumeration is read from the name of a variant, alone or as the only key of an object that holds
`null`.
-/

namespace EchoFilter.Json

/-- One field of a record that is read into an accumulator. -/
structure Field (σ : Type) where
  name : String
  /-- Whether the accumulator has the field already; an object may not give it twice. -/
  given : σ → Bool
  read : σ → Reader σ

/-- How a record is read. -/
structure Record (σ α : Type) where
  start : σ
  /-- In the order of declaration. -/
  fields : List (Field σ)
  /-- The record, if no field without a default is missing. -/
  finish : σ → Option α

/-- A field that fills one place of the accumulator. -/
def Field.of {σ β : Type} (name : String) (reader : Reader β) (get : σ → Option β)
    (set : σ → β → σ) : Field σ where
  name
  given acc := (get acc).isSome
  read acc s :=
    match reader s with
    | .ok (b, rest) => .ok (set acc b, rest)
    | .error e => .error e

/-- The colon between a key and its value. -/
def colon (s : List Char) : Except Fault (List Char) :=
  match skipSpace s with
  | [] => .error .ended
  | ':' :: r => .ok r
  | _ => .error .grammar

/-- Where the next key of an object begins, behind its quote, or nothing at the closing brace, which
stays. -/
def nextKey (first : Bool) (s : List Char) : Except Fault (Option (List Char)) :=
  match skipSpace s with
  | [] => .error .ended
  | '\x7d' :: _ => .ok none
  | '"' :: r => if first then .ok (some r) else .error .grammar
  | ',' :: r =>
    if first then .error .grammar
    else
      match skipSpace r with
      | [] => .error .ended
      | '"' :: r => .ok (some r)
      | _ => .error .grammar
  | _ => .error .grammar

/-- The closing brace of an object. -/
def endObject (s : List Char) : Except Fault (List Char) :=
  match skipSpace s with
  | [] => .error .ended
  | '\x7d' :: r => .ok r
  | _ => .error .grammar

namespace Record

variable {σ α : Type}

/-- The fields of an object behind its opening brace, up to the closing one.  Every field takes at
least one character. -/
def members (fields : List (Field σ)) : (steps : Nat) → (first : Bool) → σ → Reader σ
  | 0, _, _, _ => .error .grammar
  | steps + 1, first, acc, s =>
    match nextKey first s with
    | .error e => .error e
    | .ok none => .ok (acc, s)
    | .ok (some s) =>
      match stringBody s with
      | .error e => .error e
      | .ok (key, s) =>
        match fields.find? fun f => f.name = String.ofList key with
        | some f =>
          if f.given acc then .error (.data none)
          else
            match colon s with
            | .error e => .error e
            | .ok s =>
              match f.read acc s with
              | .error e => .error e
              | .ok (acc, s) => members fields steps false acc s
        | none =>
          match colon s with
          | .error e => .error e
          | .ok s =>
            match skipValue s with
            | .error e => .error e
            | .ok s => members fields steps false acc s

/-- The fields of an array behind its opening bracket, as many as it has. -/
def positions : List (Field σ) → (first : Bool) → σ → Reader σ
  | [], _, acc, s => .ok (acc, s)
  | f :: fields, first, acc, s =>
    match nextItem first s with
    | .error e => .error e
    | .ok none => .ok (acc, s)
    | .ok (some s) =>
      match f.read acc s with
      | .error e => .error e
      | .ok (acc, s) => positions fields false acc s

/-- The record of what was read, and then the end of the text it was read from. -/
def conclude (r : Record σ α) (close : List Char → Except Fault (List Char))
    (body : Except Fault (σ × List Char)) : Except Fault (α × List Char) :=
  match body with
  | .error e => .error e
  | .ok (acc, s) =>
    match r.finish acc with
    | none => .error (.data none)
    | some a => (close s).map fun rest => (a, rest)

def read (r : Record σ α) : Reader α := fun s =>
  match skipSpace s with
  | [] => .error .ended
  | '[' :: s => r.conclude endArray (positions r.fields true r.start s)
  | '\x7b' :: s => r.conclude endObject (members r.fields (s.length + 1) true r.start s)
  | s => .error (mismatch s)

end Record

/-- The key of an object that must have one, behind its opening brace.  Anything but a quote is a
fault of the text, even the closing brace. -/
def soleKey : Reader (List Char) := fun s =>
  match skipSpace s with
  | [] => .error .ended
  | '"' :: r => stringBody r
  | _ => .error .grammar

/-- One of several named values. -/
def variant {α : Type} (variants : List (String × α)) : Reader α := fun s =>
  match skipSpace s with
  | [] => .error .ended
  | '"' :: r =>
    match stringBody r with
    | .error e => .error e
    | .ok (name, rest) =>
      match variants.lookup (String.ofList name) with
      | some a => .ok (a, rest)
      | none => .error (.data none)
  | '\x7b' :: r =>
    match soleKey r with
    | .error e => .error e
    | .ok (name, s) =>
      match variants.lookup (String.ofList name) with
      | none => .error (.data none)
      | some a =>
        match colon s with
        | .error e => .error e
        | .ok s =>
          match null s with
          | .error e => .error e
          | .ok ((), s) => (endObject s).map fun rest => (a, rest)
  | _ => .error .grammar

end EchoFilter.Json
