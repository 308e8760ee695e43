import Shortcuts.Dispatcher.Basic
/-!
# The dispatcher: steps

One function per operation of a host. `plan` functions decide, `settle` runs what was decided, and
`handle` does both for an input.
-/

namespace Shortcuts.Dispatcher

variable {σ : Type}

def leaveChord (d : Dispatcher) : Dispatcher :=
  match d.chord with
  | none => d
  | some _ => { d with chord := none }.notify .chordCleared

/-- Leave a chord that has waited too long, so that a late check cannot let it swallow a key. -/
def expireChord (d : Dispatcher) (now : Nat) : Dispatcher :=
  if d.chord.any (·.isExpired now d.timing.timeout) then d.leaveChord else d

/-- Decide on the second key of a chord. The chord is over, whatever the key is. -/
def planSecond (d : Dispatcher) (c : PendingChord) (s : Stroke) (look : Lookup) :
    Plan × Dispatcher :=
  let d := { d with chord := none }.notify .chordCleared
  match d.table.resolve look (some c.first) s.encode with
  | some (.execute m) => (.invoke m, d)
  | _ => (.answer .chordAborted, d.notify (.notACommand c.label s.label))

/-- Decide on an input that is no second key. Only key strokes open chords. -/
def planFirst (d : Dispatcher) (b : Binding) (look : Lookup) (now : Nat) : Plan × Dispatcher :=
  match d.table.resolve look none b.encode with
  | none | some .removed => (.answer .unhandled, d)
  | some (.execute m) => (.invoke m, d)
  | some .enterChord =>
    if b.isStroke then
      let d := { d with chord := some (.enter b.encode b.label now d.timing) }
      (.answer .chordPending, d.notify (.chordStarted b.label))
    else (.answer .unhandled, d)

/-- Decide on a single binding. Key strokes complete the chord in progress; clicks and drags never
take part in chords. -/
def planBinding (d : Dispatcher) (b : Binding) (look : Lookup) (now : Nat) : Plan × Dispatcher :=
  let d := d.expireChord now
  match b, d.chord with
  | .stroke s, some c => d.planSecond c s look
  | _, _ => d.planFirst b look now

/-- Decide on a pattern that a host built itself. A chord is no single input. -/
def planPattern (d : Dispatcher) (p : Pattern) (look : Lookup) (now : Nat) : Plan × Dispatcher :=
  match p with
  | .single b => d.planBinding b look now
  | .chord _ _ => (.answer .unhandled, d)

/-- Decide on the end of a drag: run what was chosen at its start. -/
def planDrop (d : Dispatcher) : Plan × Dispatcher :=
  match d.gesture with
  | none => (.answer .unhandled, d)
  | some g => (.invoke g.chosen, { d with gesture := none })

def beginDrag (d : Dispatcher) (drag : Drag) (look : Lookup) (now : Nat) : Answer × Dispatcher :=
  let d := d.expireChord now
  let g := PendingGesture.begin? d.table look drag
  (if g.isSome then .selectionArmed else .unhandled, { d with gesture := g })

def cancelDrag (d : Dispatcher) : Answer × Dispatcher :=
  (.unhandled, { d with gesture := none })

def releaseKey (d : Dispatcher) (e : KeyEvent) : Answer × Dispatcher :=
  (.unhandled, { d with held := d.held.filter (· != e.identity) })

/-- Run one command with the arguments that a match and a caller give it. -/
def invoke (exec : Executor σ) (s : σ) (d : Dispatcher) (m : Match) (args : List Payload) :
    Answer × Dispatcher × σ :=
  match composeArguments args m.payload with
  | .error e =>
    (.failed m.command m.bubbles, d.notify (.argumentsRejected m.command e.message), s)
  | .ok args =>
    match exec s m.command args with
    | (.ok (), s) => (.executed m.command m.bubbles, d.notify (.actionExecuted m.command), s)
    | (.error e, s) =>
      (.failed m.command m.bubbles, d.notify (.commandFailed m.command e.message), s)

/-- Carry out a plan. -/
def settle (exec : Executor σ) (s : σ) (args : List Payload) :
    Plan × Dispatcher → Answer × Dispatcher × σ
  | (.answer a, d) => (a, d, s)
  | (.invoke m, d) => d.invoke exec s m args

/-- Whether the host was to leave the last press of a key alone. -/
def wasConsumed (d : Dispatcher) (id : KeyIdentity) : Bool := (d.consumed.lookup id).getD false

/-- Whether a press is dropped as a repeat: the host says so, or the key is still held. -/
def isRepeated (d : Dispatcher) (e : KeyEvent) : Bool :=
  e.isRepeat || d.held.contains e.identity

/-- Remember a press that was not dropped, and what became of it. -/
def rememberPress (d : Dispatcher) (id : KeyIdentity) (a : Answer) : Dispatcher :=
  { d with
    consumed := (id, a.preventsDefault) :: d.consumed.filter (·.1 != id)
    held := if d.tracksRelease then id :: d.held.filter (· != id) else d.held }

/-- Press a key. A repeat is dropped and gets the treatment of the press that it repeats. -/
def pressKey (exec : Executor σ) (s : σ) (d : Dispatcher) (e : KeyEvent) (args : List Payload)
    (look : Lookup) (now : Nat) : Answer × Dispatcher × σ :=
  if d.isRepeated e then (.filtered (d.wasConsumed e.identity), d, s)
  else
    let (a, d, s) := settle exec s args (d.planBinding (.stroke e.stroke) look now)
    (a, d.rememberPress e.identity a, s)

def handle (exec : Executor σ) (s : σ) (d : Dispatcher) (input : Input) (args : List Payload)
    (look : Lookup) (now : Nat) : Answer × Dispatcher × σ :=
  match input with
  | .keyDown e => pressKey exec s d e args look now
  | .keyUp e => let (a, d) := d.releaseKey e; (a, d, s)
  | .click c => settle exec s args (d.planBinding (.click c) look now)
  | .drag .start drag => let (a, d) := d.beginDrag drag look now; (a, d, s)
  | .drag .finish _ => settle exec s args d.planDrop
  | .drag .cancel _ => let (a, d) := d.cancelDrag; (a, d, s)

def handlePattern (exec : Executor σ) (s : σ) (d : Dispatcher) (p : Pattern)
    (args : List Payload) (look : Lookup) (now : Nat) : Answer × Dispatcher × σ :=
  settle exec s args (d.planPattern p look now)

/-- Check on the chord in progress: it ends when the host lost the focus or the second key did not
come in time, and otherwise is checked again one tick later. Without the focus releases go
unnoticed, so no key counts as held. -/
def tick (d : Dispatcher) (now : Nat) (hasFocus : Bool) : Option ChordExit × Dispatcher :=
  let d := if hasFocus then d else { d with held := [] }
  match d.chord with
  | none => (none, d)
  | some c =>
    if !hasFocus then (some .focusLost, d.leaveChord)
    else if c.isExpired now d.timing.timeout then (some .timedOut, d.leaveChord)
    else (none, { d with chord := some (c.postpone now d.timing) })

/-- Drop everything in progress and forget which keys were pressed. -/
def reset (d : Dispatcher) : Dispatcher :=
  { d.leaveChord with gesture := none, held := [], consumed := [] }

/-- Put another table in force; what was in progress is dropped. -/
def setTable (d : Dispatcher) (t : RuleTable) : Dispatcher := { d.reset with table := t }

end Shortcuts.Dispatcher
