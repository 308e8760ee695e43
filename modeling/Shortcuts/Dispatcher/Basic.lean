import Shortcuts.Chord
import Shortcuts.Gesture
import Shortcuts.Input
/-!
# The dispatcher: types

A dispatcher turns inputs into at most one command each. It keeps the chord and the drag in
progress, which keys are held, and what it has to tell its host.

Running a command is split in two. The dispatcher forms a `Plan`, which either answers at once or
names the one command to run; `Dispatcher.settle` then asks the executor. So an executor can only
influence what is reported, never what is decided.
-/

namespace Shortcuts

/-- What became of an input. -/
inductive Answer
  /-- No rule applies. -/
  | unhandled
  /-- A repeat of a held key, dropped before any rule was asked. -/
  | filtered (preventsDefault : Bool)
  /-- The first key of a chord. -/
  | chordPending
  /-- A second key that completes no chord. -/
  | chordAborted
  | executed (command : String) (bubbles : Bool)
  /-- The command was refused, by the executor or for want of arguments. -/
  | failed (command : String) (bubbles : Bool)
  /-- A drag began whose command runs at its end. -/
  | selectionArmed
  deriving DecidableEq

def Answer.preventsDefault : Answer → Bool
  | unhandled => false
  | filtered prevents => prevents
  | chordPending | chordAborted | selectionArmed => true
  | executed _ bubbles | failed _ bubbles => !bubbles

/-- What a dispatcher tells its host besides its answers. -/
inductive Notice
  | chordStarted (label : String)
  | chordCleared
  | notACommand (first second : String)
  | commandFailed (command message : String)
  | argumentsRejected (command message : String)
  | actionExecuted (command : String)
  deriving DecidableEq

inductive CommandError
  | unknown (command : String)
  | failed (reason : String)
  deriving DecidableEq

/-- What an error says. -/
def CommandError.message : CommandError → String
  | unknown command => "Unknown command: " ++ command
  | failed reason => "Command failed: " ++ reason

/-- Something that runs commands and may remember them: from its state, a command and arguments to
whether the command was accepted, and its new state. -/
abbrev Executor (σ : Type) := σ → String → List Payload → Except CommandError Unit × σ

/-- What is left to do for an input: nothing but to answer, or to run one command. -/
inductive Plan
  | answer (a : Answer)
  | invoke (m : Match)

/-- The state of a dispatcher. -/
structure Dispatcher where
  table : RuleTable
  timing : ChordTiming
  chord : Option PendingChord
  gesture : Option PendingGesture
  /-- For each key that was pressed, whether the host was to leave its last press alone. -/
  consumed : List (KeyIdentity × Bool)
  /-- The keys that are held down, where releases are tracked. -/
  held : List KeyIdentity
  /-- The host reports every release, so a press of a held key is a repeat. -/
  tracksRelease : Bool
  /-- What the host has not taken yet, in order. -/
  notices : List Notice

namespace Dispatcher

/-- A dispatcher with nothing in progress. -/
def new (table : RuleTable) (timing : ChordTiming) (tracksRelease : Bool) : Dispatcher :=
  ⟨table, timing, none, none, [], [], tracksRelease, []⟩

def notify (d : Dispatcher) (n : Notice) : Dispatcher := { d with notices := d.notices ++ [n] }

def takeNotices (d : Dispatcher) : List Notice × Dispatcher :=
  (d.notices, { d with notices := [] })

/-- When the host should check on the chord in progress. -/
def nextWakeup (d : Dispatcher) : Option Nat := d.chord.map PendingChord.nextTick

end Dispatcher

end Shortcuts
