import Shortcuts.Key.Name
import Shortcuts.Modifiers
import Shortcuts.MouseButton
/-!
# Bindings

A binding is one input that a rule can wait for: a key stroke, a number of clicks, or a drag. A
pattern is a binding or a chord of two key strokes. `encode` writes each of them as the text that
keymap files use and that rules are looked up by; `label` and `spoken` are for people.
-/

namespace Shortcuts

/-- A key pressed together with modifiers. Only normal keys occur, so strokes that rules should
not tell apart are equal. -/
structure Stroke where
  key : Key
  mods : Modifiers
  isNormal : key.IsNormal
  deriving DecidableEq

namespace Stroke

def ofKey (key : Key) (mods : Modifiers) : Stroke :=
  ⟨key.normalized, mods, key.isNormal_normalized⟩

/-- The encoding of a stroke, such as `ctrl+shift+k`. -/
def encode (s : Stroke) : String := s.mods.encode ++ s.key.name

/-- The label of a stroke, such as `Ctrl+Shift+K`. -/
def label (s : Stroke) : String := s.mods.label ++ s.key.label

def spoken (s : Stroke) : String := s.mods.spoken ++ s.key.spoken

end Stroke

/-- Clicks of a mouse button in quick succession, at least one and at most 255. -/
structure Click where
  mods : Modifiers
  button : MouseButton
  count : Nat
  one_le_count : 1 ≤ count
  count_le : count ≤ Decimal.byteMax
  deriving DecidableEq

namespace Click

/-- A click with a count that may be out of range: zero counts as one. -/
def ofCount (mods : Modifiers) (button : MouseButton) (count : Nat) : Click :=
  ⟨mods, button, max 1 (min count Decimal.byteMax), by omega, by simp only [Decimal.byteMax]; omega⟩

/-- The word in front of every encoded click. -/
def mark : String := "mouse "

/-- The encoding of a click, such as `mouse ctrl+LMB*2`; a single click has no count. -/
def encode (c : Click) : String :=
  mark ++ c.mods.encode ++ c.button.name ++
    (if 1 < c.count then "*" ++ Nat.repr c.count else "")

def countWord (n : Nat) : String :=
  if n = 1 then "" else if n = 2 then "Double " else if n = 3 then "Triple "
  else Nat.repr n ++ "x "

def label (c : Click) : String := c.mods.label ++ countWord c.count ++ c.button.label

def spoken (c : Click) : String := c.mods.spoken ++ countWord c.count ++ c.button.label

end Click

/-- A press of a mouse button that becomes a drag, selecting what it passes over. -/
structure Drag where
  mods : Modifiers
  button : MouseButton
  deriving DecidableEq

namespace Drag

/-- The word in front of every encoded drag. -/
def mark : String := "selection "

/-- A shorter word that may stand for `mark`. -/
def shortMark : String := "sel "

/-- The encoding of a drag, such as `selection alt+LMB`. -/
def encode (d : Drag) : String := mark ++ d.mods.encode ++ d.button.name

/-- The label of a drag, such as `Alt+Left Click Drag`. -/
def label (d : Drag) : String := d.mods.label ++ d.button.label ++ " Drag"

def spoken (d : Drag) : String := d.mods.spoken ++ d.button.label ++ " Drag"

end Drag

inductive Binding
  | stroke (s : Stroke)
  | click (c : Click)
  | drag (d : Drag)
  deriving DecidableEq

namespace Binding

def encode : Binding → String
  | stroke s => s.encode
  | click c => c.encode
  | drag d => d.encode

def label : Binding → String
  | stroke s => s.label
  | click c => c.label
  | drag d => d.label

def spoken : Binding → String
  | stroke s => s.spoken
  | click c => c.spoken
  | drag d => d.spoken

def mods : Binding → Modifiers
  | stroke s => s.mods
  | click c => c.mods
  | drag d => d.mods

def isStroke : Binding → Bool
  | stroke _ => true
  | _ => false

end Binding

/-- What a rule waits for: one binding, or two key strokes one after the other. -/
inductive Pattern
  | single (b : Binding)
  | chord (first second : Stroke)
  deriving DecidableEq

namespace Pattern

def first : Pattern → Binding
  | single b => b
  | chord s _ => .stroke s

def second? : Pattern → Option Stroke
  | single _ => none
  | chord _ t => some t

def isChord (p : Pattern) : Bool := p.second?.isSome

def parts : Pattern → List String
  | single b => [b.encode]
  | chord s t => [s.encode, t.encode]

/-- The encoding of a pattern: its parts with a space between them. -/
def encode : Pattern → String
  | single b => b.encode
  | chord s t => s.encode ++ " " ++ t.encode

def label : Pattern → String
  | single b => b.label
  | chord s t => s.label ++ " " ++ t.label

def spoken : Pattern → String
  | single b => b.spoken
  | chord s t => s.spoken ++ " " ++ t.spoken

theorem length_parts (p : Pattern) : p.parts.length = if p.isChord then 2 else 1 := by
  cases p <;> rfl

end Pattern

end Shortcuts
