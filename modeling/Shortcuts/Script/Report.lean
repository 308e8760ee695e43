import Shortcuts.Script.Play
import Shortcuts.Text.Column
import Shortcuts.Text.Quoted
/-!
# Reports of sessions as text

A line of a report begins with the time and the step, each in its column; what became of the step
follows, and then the notices, one to a line.
-/

namespace Shortcuts

def truthText (b : Bool) : String := if b then "true" else "false"

def fieldsText (name : String) (fields : List (String × String)) : String :=
  name ++ " \x7b " ++ String.intercalate ", " (fields.map fun f => f.1 ++ ": " ++ f.2) ++ " \x7d"

def Answer.text : Answer → String
  | unhandled => "Unhandled"
  | filtered prevents => fieldsText "Filtered" [("prevent_default", truthText prevents)]
  | chordPending => "ChordPending"
  | chordAborted => "ChordAborted"
  | executed command bubbles =>
    fieldsText "Executed" [("command", Text.quoted command), ("bubble", truthText bubbles)]
  | failed command bubbles =>
    fieldsText "Failed" [("command", Text.quoted command), ("bubble", truthText bubbles)]
  | selectionArmed => "SelectionArmed"

def Notice.text : Notice → String
  | chordStarted label => fieldsText "ChordStarted" [("label", Text.quoted label)]
  | chordCleared => "ChordCleared"
  | notACommand first second =>
    fieldsText "NotACommand" [("first", Text.quoted first), ("second", Text.quoted second)]
  | commandFailed command message =>
    fieldsText "CommandFailed"
      [("command", Text.quoted command), ("message", Text.quoted message)]
  | argumentsRejected command message =>
    fieldsText "ArgumentsRejected"
      [("command", Text.quoted command), ("message", Text.quoted message)]
  | actionExecuted command =>
    fieldsText "ActionExecuted" [("command", Text.quoted command), ("source", "Keybinding")]

def ReportLine.text (l : ReportLine) : String :=
  "[" ++ Text.padStart 6 (Nat.repr l.time) ++ "ms] " ++ Text.padEnd 28 l.step ++
    (match l.answer with
      | some a => " " ++ a.text
      | none => "") ++
    (match l.change with
      | some c => "  (" ++ c ++ ")"
      | none => "") ++
    String.join (l.notices.map fun n => "\n" ++ Text.padEnd 12 "" ++ n.text)

end Shortcuts
