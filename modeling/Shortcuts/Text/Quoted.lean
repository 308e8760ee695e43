import Shortcuts.Text.CodePoints
import Shortcuts.Text.ConcealedTable
/-!
# Quoted text

A text between double quotes in which every character can be seen: quotes and backslashes are
escaped, control characters have their short names, and a character without a glyph of its own
stands as its code point.
-/

namespace Shortcuts.Text

def isConcealed (c : Char) : Bool := inRuns concealedEnds c.toNat

def hexDigits (n : Nat) : List Char := Nat.toDigits 16 n

def escaped (c : Char) : List Char :=
  if c = '\x00' then ['\\', '0']
  else if c = '\t' then ['\\', 't']
  else if c = '\n' then ['\\', 'n']
  else if c = '\r' then ['\\', 'r']
  else if c = '"' then ['\\', '"']
  else if c = '\\' then ['\\', '\\']
  else if isConcealed c then ['\\', 'u', '\x7b'] ++ hexDigits c.toNat ++ ['\x7d']
  else [c]

def quoted (s : String) : String :=
  String.ofList ('"' :: s.toList.flatMap escaped ++ ['"'])

end Shortcuts.Text
