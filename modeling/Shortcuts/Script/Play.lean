import Shortcuts.Clock
import Shortcuts.Dispatcher.Snapshot
import Shortcuts.Script.Basic
/-!
# Playing scripts

A script is played on a virtual clock. While a step waits, the checks on a pending chord happen at
the times at which the dispatcher asks for them. Each step leaves one line of the report. A script
that goes past the last time of the clock is not played to its end, whatever its steps say.
-/

namespace Shortcuts

structure ReportLine where
  step : String
  /-- The time after the step, in milliseconds from the start. -/
  time : Nat
  /-- What became of the step's input, if it was one. -/
  answer : Option Answer
  notices : List Notice
  change : Option String

/-- The commands that an executor received, with their arguments, in order. -/
abbrev Calls := List (String × List Payload)

/-- An executor that remembers every command and refuses some of them. -/
def recorder (refused : List String) : Executor Calls := fun calls command args =>
  (if refused.contains command then .error (.failed (command ++ " rejected by replay")) else .ok (),
    calls ++ [(command, args)])

structure Session where
  dispatcher : Dispatcher
  calls : Calls
  context : Context
  /-- The time from the start, in units of the clock. -/
  now : Nat
  hasFocus : Bool

namespace Session

def start (script : Script) (table : RuleTable) (timing : ChordTiming) : Session :=
  ⟨.new table timing script.tracksRelease, [], script.context, 0, true⟩

/-- How far the checks on a chord are from being over at a time. -/
def checksLeft (target : Nat) (d : Dispatcher) : Nat :=
  match d.nextWakeup with
  | none => 0
  | some w => target + 2 - w

/-- Make the checks that are due up to a time, each at the time for which it was asked. A check that
leads to another one at the same time, as it does if a tick is no time at all, leads to it again and
again. -/
def runChecks (target : Nat) (hasFocus : Bool) (d : Dispatcher) : Except ScriptError Dispatcher :=
  match d.nextWakeup with
  | none => .ok d
  | some w =>
    if w ≤ target then
      let d' := (d.tick w hasFocus).2
      if checksLeft target d' < checksLeft target d then runChecks target hasFocus d'
      else .error .endless
    else .ok d
termination_by checksLeft target d

/-- Go on only if the clock can hold a time. -/
def reach (clock : Clock) (time : Nat) : Except ScriptError Unit :=
  if time ≤ clock.last then .ok () else .error .overflow

/-- Go on only if the clock can hold the time of the next check on a chord. -/
def reachWakeup (clock : Clock) (d : Dispatcher) : Except ScriptError Unit :=
  match d.nextWakeup with
  | none => .ok ()
  | some w => reach clock w

def handle (refused : List String) (s : Session) (input : Input) : Answer × Session :=
  let (a, d, calls) :=
    s.dispatcher.handle (recorder refused) s.calls input [] s.context.get? s.now
  (a, { s with dispatcher := d, calls := calls })

/-- What a step does, if the clock can hold the time of the check on a chord that is next after it. -/
def attempt (clock : Clock) (refused : List String) (s : Session) :
    Step → Except ScriptError (Option Answer × Session)
  | .key text => do
    let e ← Step.keyEvent text
    let (a, s) := s.handle refused (.keyDown e)
    .ok (some a, { s with dispatcher := (s.dispatcher.releaseKey e).2 })
  | .hold text => do
    let e ← Step.keyEvent text
    let (a, s) := s.handle refused (.keyDown e)
    .ok (some a, s)
  | .again text => do
    let e ← Step.keyEvent text
    let (a, s) := s.handle refused (.keyDown { e with isRepeat := true })
    .ok (some a, s)
  | .release text => do
    let e ← Step.keyEvent text
    let (a, s) := s.handle refused (.keyUp e)
    .ok (some a, s)
  | .click text => do
    let (a, s) := s.handle refused (.click (← Step.clickOf text))
    .ok (some a, s)
  | .drag text => do
    let (a, s) := s.handle refused (.drag .start (← Step.dragOf text))
    .ok (some a, s)
  | .drop =>
    let (a, d, calls) := Dispatcher.settle (recorder refused) s.calls [] s.dispatcher.planDrop
    .ok (some a, { s with dispatcher := d, calls := calls })
  | .cancelDrag =>
    let (a, d) := s.dispatcher.cancelDrag
    .ok (some a, { s with dispatcher := d })
  | .wait ms => do
    let target := clock.after s.now ms
    reach clock target
    let d ← runChecks target s.hasFocus s.dispatcher
    .ok (none, { s with dispatcher := d, now := target })
  | .focus hasFocus =>
    .ok (none, { s with
      dispatcher := (s.dispatcher.tick s.now hasFocus).2
      hasFocus := hasFocus })
  | .set values => .ok (none, { s with context := s.context.merge values })
  | .unset key => .ok (none, { s with context := s.context.erase key })

/-- Take one step: what became of its input, and the session after it. While a step waits, a check
past the last time of the clock is asked for only when no other one is due any more, so it is enough
to look at the end of the step. -/
def take (clock : Clock) (refused : List String) (s : Session) (step : Step) :
    Except ScriptError (Option Answer × Session) := do
  let (answer, t) ← s.attempt clock refused step
  reachWakeup clock t.dispatcher
  .ok (answer, t)

def report (clock : Clock) (refused : List String) (s : Session) (step : Step) :
    Except ScriptError (ReportLine × Session) := do
  let (answer, t) ← s.take clock refused step
  let (notices, d) := t.dispatcher.takeNotices
  let change := (Snapshot.ofDispatcher s.dispatcher).change? (.ofDispatcher t.dispatcher)
  .ok (⟨step.label, t.now / clock.perMillisecond, answer, notices, change⟩,
    { t with dispatcher := d })

/-- Take steps one after the other; the first one that cannot be taken is the error. -/
def play (clock : Clock) (refused : List String) (s : Session) :
    List Step → Except ScriptError (List ReportLine × Session)
  | [] => .ok ([], s)
  | step :: steps => do
    let (line, s) ← s.report clock refused step
    let (lines, s) ← play clock refused s steps
    .ok (line :: lines, s)

end Session

/-- Play a script on a clock, with a timing in its units: the report, and the commands that were
run. -/
def Script.playOn (clock : Clock) (script : Script) (table : RuleTable) (timing : ChordTiming) :
    Except ScriptError (List ReportLine × Calls) :=
  match (Session.start script table timing).play clock script.refused script.steps with
  | .ok (lines, s) => .ok (lines, s.calls)
  | .error e => .error e

/-- Play a script with a timing in milliseconds. -/
def Script.play (script : Script) (table : RuleTable) (timing : ChordTiming) :
    Except ScriptError (List ReportLine × Calls) :=
  script.playOn .milliseconds table timing

end Shortcuts
