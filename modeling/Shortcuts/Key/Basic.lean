import Shortcuts.Text.Alphanumeric
import Shortcuts.Text.Case
/-!
# Keys

A key is a character or one of the named keys of a keyboard. Two foldings matter: `normalized`
makes keys that bindings do not tell apart equal, `unshifted` names the key cap that was pressed.
-/

namespace Shortcuts

/-- A logical key. -/
inductive Key
  | char (c : Char)
  | enter
  | escape
  | tab
  | backspace
  | delete
  | space
  | up
  | down
  | left
  | right
  | home
  | endKey
  | pageUp
  | pageDown
  | insert
  /-- A function key, `F1` and so on. -/
  | function (n : UInt8)
  /-- A digit of the numeric pad. -/
  | numpad (d : Fin 10)
  | numpadAdd
  | numpadSubtract
  | numpadMultiply
  | numpadDivide
  | numpadEnter
  | numpadDecimal
  deriving DecidableEq

namespace Key

/-- The key that bindings use for a key: capital letters and small letters are one key, and the
space character is the space bar. -/
def normalized : Key → Key
  | char c => if c = ' ' then space else char (Text.firstLower c)
  | k => k

def IsNormal (k : Key) : Prop := ∃ k' : Key, k = k'.normalized

/-- The characters that a US keyboard types with shift, each with the character that the same key
types without. -/
def shiftedSymbols : List (Char × Char) :=
  [('!', '1'), ('@', '2'), ('#', '3'), ('$', '4'), ('%', '5'), ('^', '6'), ('&', '7'), ('*', '8'),
    ('(', '9'), (')', '0'), ('_', '-'), ('+', '='), ('\x7b', '['), ('\x7d', ']'), ('|', '\\'),
    (':', ';'), ('"', '\''), ('<', ','), ('>', '.'), ('?', '/'), ('~', '\x60')]

/-- The key as typed without shift: the small letter, or the character that shares its key with a
shifted symbol. -/
def unshifted : Key → Key
  | char c =>
    if c = ' ' then space
    else
      match shiftedSymbols.lookup c with
      | some base => char base
      | none => char (Text.firstLower c)
  | k => k

/-- Whether a key is an ASCII letter or digit of the main block. -/
def isAlphanumeric : Key → Bool
  | char c => Text.isAsciiAlphanumeric c
  | _ => false

theorem isNormal_normalized (k : Key) : k.normalized.IsNormal := ⟨k, rfl⟩

end Key

end Shortcuts
