import EchoFilter.Text.Hex
import EchoFilter.Text.Unprintable

/-!
Quoted text for diagnostics: a text between double quotes in which nothing is invisible.

A double quote and a backslash get a backslash before them; the tab, the two line ends and the null
character have short forms; every other unprintable character is written by its code point.
-/

namespace EchoFilter.Quoted

/-- The quoted form of one character. -/
def escape (c : Char) : List Char :=
  if c = '"' then ['\\', '"']
  else if c = '\\' then ['\\', '\\']
  else if c = '\t' then ['\\', 't']
  else if c = '\r' then ['\\', 'r']
  else if c = '\n' then ['\\', 'n']
  else if c = '\x00' then ['\\', '0']
  else if Unprintable.isUnprintable c then
    ['\\', 'u', '\x7b'] ++ Hex.minimal c.toNat ++ ['\x7d']
  else [c]

def quote (s : String) : String :=
  String.ofList ('"' :: s.toList.flatMap escape ++ ['"'])

end EchoFilter.Quoted
