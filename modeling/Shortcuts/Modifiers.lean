/-!
# Modifier keys

The modifier keys held with a key or a mouse button form a set. `encode` writes a set in one fixed
order, so equal sets have equal encodings; `label` and `spoken` are for people. The logo key has
other names on macOS, where it is the command key as well; all definitions here are those for the
other platforms.
-/

namespace Shortcuts

/-- A set of modifier keys. The logo key is also known as meta, super or the Windows key. -/
structure Modifiers where
  ctrl : Bool
  shift : Bool
  alt : Bool
  logo : Bool
  deriving DecidableEq

namespace Modifiers

def empty : Modifiers := ⟨false, false, false, false⟩

def onlyCtrl : Modifiers := ⟨true, false, false, false⟩

def onlyShift : Modifiers := ⟨false, true, false, false⟩

def onlyAlt : Modifiers := ⟨false, false, true, false⟩

def onlyLogo : Modifiers := ⟨false, false, false, true⟩

/-- The modifier of commands. On macOS, which is not modelled, it is the logo key. -/
def command : Modifiers := onlyCtrl

def isEmpty (m : Modifiers) : Bool := !(m.ctrl || m.shift || m.alt || m.logo)

def union (m n : Modifiers) : Modifiers :=
  ⟨m.ctrl || n.ctrl, m.shift || n.shift, m.alt || n.alt, m.logo || n.logo⟩

def contains (m n : Modifiers) : Bool :=
  (m.ctrl || !n.ctrl) && (m.shift || !n.shift) && (m.alt || !n.alt) && (m.logo || !n.logo)

/-- The place of a set in the order of sets: ctrl counts one, shift two, alt four, logo eight. -/
def rank (m : Modifiers) : Nat :=
  m.ctrl.toNat + 2 * m.shift.toNat + 4 * m.alt.toNat + 8 * m.logo.toNat

def word (held : Bool) (w : String) : String := if held then w else ""

/-- The encoding in front of a key or a button, such as `ctrl+shift+`. -/
def encode (m : Modifiers) : String :=
  word m.ctrl "ctrl+" ++ word m.shift "shift+" ++ word m.alt "alt+" ++ word m.logo "meta+"

/-- The label in front of a key or a button, such as `Ctrl+Shift+`, with the words of all platforms
but macOS. -/
def label (m : Modifiers) : String :=
  word m.ctrl "Ctrl+" ++ word m.alt "Alt+" ++ word m.shift "Shift+" ++ word m.logo "Win+"

/-- The label for a screen reader, such as `Control+Shift+`, with the words of all platforms but
macOS. -/
def spoken (m : Modifiers) : String :=
  word m.ctrl "Control+" ++ word m.shift "Shift+" ++ word m.alt "Alt+" ++ word m.logo "Windows+"

/-- The names of the modifiers held, with a plus sign between them; those of all platforms but
macOS. -/
def summary (m : Modifiers) : String :=
  String.intercalate "+" (([(m.ctrl, "Ctrl"), (m.shift, "Shift"), (m.alt, "Alt"),
    (m.logo, "Win")].filter (·.1)).map (·.2))

/-- The modifier that a word of a binding names, in lower case. -/
def ofWord? (w : String) : Option Modifiers :=
  [("cmd", command), ("mod", command), ("ctrl", onlyCtrl), ("control", onlyCtrl),
    ("shift", onlyShift), ("alt", onlyAlt), ("option", onlyAlt), ("opt", onlyAlt),
    ("meta", onlyLogo), ("super", onlyLogo), ("win", onlyLogo)].lookup w

theorem union_empty (m : Modifiers) : m.union empty = m := by
  cases m; simp [union, empty]

theorem union_comm (m n : Modifiers) : m.union n = n.union m := by
  simp [union, Bool.or_comm]

theorem union_assoc (m n k : Modifiers) : (m.union n).union k = m.union (n.union k) := by
  simp [union, Bool.or_assoc]

theorem union_self (m : Modifiers) : m.union m = m := by
  simp [union]

theorem rank_inj {m n : Modifiers} : m.rank = n.rank ↔ m = n := by
  obtain ⟨a, b, c, d⟩ := m
  obtain ⟨a', b', c', d'⟩ := n
  cases a <;> cases b <;> cases c <;> cases d <;> cases a' <;> cases b' <;> cases c' <;>
    cases d' <;> simp [rank]

end Modifiers

end Shortcuts
