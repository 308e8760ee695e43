import Shortcuts.Binding.Basic
/-!
# Inputs

What a host reports: keys going down and up, finished clicks, and the phases of a drag. The
identity of a key pairs its presses with its releases.
-/

namespace Shortcuts

structure KeyEvent where
  key : Key
  mods : Modifiers
  /-- The press comes from a key that is held down. -/
  isRepeat : Bool
  /-- The number of the physical key, where the host knows it. -/
  physical : Option Nat

/-- Which key of the keyboard an event is about, whatever shift does to it. -/
inductive KeyIdentity
  | physical (id : Nat)
  | logical (key : Key)
  deriving DecidableEq

namespace KeyEvent

/-- The first press of a key with modifiers, without a physical number. -/
def press (key : Key) (mods : Modifiers) : KeyEvent := ⟨key, mods, false, none⟩

def stroke (e : KeyEvent) : Stroke := Stroke.ofKey e.key e.mods

def identity (e : KeyEvent) : KeyIdentity :=
  match e.physical with
  | some id => .physical id
  | none => .logical e.key.unshifted

/-- Whether a press probably types a letter or a digit: never while ctrl or the logo key is held. -/
def mayType (e : KeyEvent) : Bool :=
  if e.mods.ctrl || e.mods.logo then false else e.key.isAlphanumeric

end KeyEvent

inductive DragPhase
  | start
  | finish
  | cancel
  deriving DecidableEq

/-- One input of a host. -/
inductive Input
  | keyDown (e : KeyEvent)
  | keyUp (e : KeyEvent)
  | click (c : Click)
  | drag (phase : DragPhase) (d : Drag)

end Shortcuts
