import Shortcuts.Dispatcher.Step
/-!
# What changed in a dispatcher

A short text that tells how two states of a dispatcher differ to its user.
-/

namespace Shortcuts

structure Snapshot where
  /-- The first key of the chord in progress. -/
  chord : Option String
  selecting : Bool
  deriving DecidableEq

namespace Snapshot

def ofDispatcher (d : Dispatcher) : Snapshot := ⟨d.chord.map (·.first), d.gesture.isSome⟩

def chordText : Option String → String
  | some first => "chord(" ++ first ++ ")"
  | none => "idle"

def change? (before after : Snapshot) : Option String :=
  let chord :=
    if before.chord = after.chord then []
    else [chordText before.chord ++ " → " ++ chordText after.chord]
  let selection :=
    if before.selecting = after.selecting then []
    else ["selection " ++ (if after.selecting then "armed" else "cleared")]
  match chord ++ selection with
  | [] => none
  | changes => some (String.intercalate "; " changes)

end Snapshot

end Shortcuts
