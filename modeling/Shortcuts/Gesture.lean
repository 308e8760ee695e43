import Shortcuts.RuleTable
/-!
# Drags in progress

The command of a drag is chosen when the drag begins and runs when it ends.
-/

namespace Shortcuts

/-- A drag in progress and the command that will run at its end. -/
structure PendingGesture where
  drag : Drag
  chosen : Match

/-- The gesture that a drag begins, if a rule with a command is for it. -/
def PendingGesture.begin? (t : RuleTable) (look : Lookup) (d : Drag) : Option PendingGesture :=
  match t.resolve look none d.encode with
  | some (.execute m) => some ⟨d, m⟩
  | _ => none

end Shortcuts
