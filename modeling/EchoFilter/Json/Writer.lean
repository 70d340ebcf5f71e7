import EchoFilter.Text.Hex
import EchoFilter.Text.Numeral

/-!
Writing compact JSON text: no spaces, and in strings only what must be escaped is.
-/

namespace EchoFilter.Json.Write

/-- The form of one character in a string: quote and backslash behind a backslash, control
characters by a letter or by number, everything else as it is. -/
def escape (c : Char) : List Char :=
  if c = '"' then ['\\', '"']
  else if c = '\\' then ['\\', '\\']
  else if c = '\x08' then ['\\', 'b']
  else if c = '\t' then ['\\', 't']
  else if c = '\n' then ['\\', 'n']
  else if c = '\x0c' then ['\\', 'f']
  else if c = '\r' then ['\\', 'r']
  else if c.toNat < 0x20 then ['\\', 'u'] ++ Hex.fixed 4 c.toNat
  else [c]

def string (s : String) : List Char :=
  '"' :: s.toList.flatMap escape ++ ['"']

def natural (n : Nat) : List Char :=
  Numeral.write n

def boolean : Bool → List Char
  | true => ['t', 'r', 'u', 'e']
  | false => ['f', 'a', 'l', 's', 'e']

/-- Parts with commas between them. -/
def separated : List (List Char) → List Char
  | [] => []
  | [part] => part
  | part :: rest => part ++ ',' :: separated rest

def array (items : List (List Char)) : List Char :=
  '[' :: separated items ++ [']']

/-- Named fields in the order given. -/
def object (fields : List (String × List Char)) : List Char :=
  '\x7b' :: separated (fields.map fun f => string f.1 ++ ':' :: f.2) ++ ['\x7d']

end EchoFilter.Json.Write
