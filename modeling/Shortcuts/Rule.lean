import Shortcuts.Arguments
import Shortcuts.Binding.Basic
import Shortcuts.Condition.Printer
/-!
# Rules

A rule says which command a pattern runs, and under which condition. A rule without a command
takes its pattern away from the rules before it.
-/

namespace Shortcuts

/-- Which layer of keymaps a rule comes from. -/
inductive Layer
  | builtin
  | user
  deriving DecidableEq

structure Rule where
  pattern : Pattern
  /-- The rule counts only where this holds; without it, everywhere. -/
  condition : Option Condition
  /-- The command to run; without it the rule removes its pattern. -/
  command : Option String
  payload : Option Payload
  /-- Let the host handle the input too. -/
  bubbles : Bool
  /-- Wait for a second key if chords start with this one. -/
  waits : Bool
  layer : Layer

namespace Rule

def run (pattern : Pattern) (command : String) : Rule :=
  ⟨pattern, none, some command, none, false, false, .builtin⟩

def removal (pattern : Pattern) : Rule := ⟨pattern, none, none, none, false, false, .builtin⟩

/-- A rule that only opens chords. -/
def opener (pattern : Pattern) : Rule := { removal pattern with waits := true }

def firstPart (r : Rule) : String := r.pattern.first.encode

def secondPart? (r : Rule) : Option String := r.pattern.second?.map Stroke.encode

def isChord (r : Rule) : Bool := r.pattern.isChord

def isRemoval (r : Rule) : Bool := r.command.isNone

def applies (look : Lookup) (r : Rule) : Bool := r.condition.all (·.holds look)

def label (r : Rule) : String := r.pattern.label

theorem isChord_eq (r : Rule) : r.isChord = r.secondPart?.isSome := by
  simp [isChord, Pattern.isChord, secondPart?]

end Rule

end Shortcuts
