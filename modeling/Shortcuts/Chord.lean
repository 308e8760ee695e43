/-!
# Chords in progress

Between the first and the second key of a chord the dispatcher remembers the first key and when it
came. Times are counted from an arbitrary start, in the units of the host's clock, whichever they
are. That clock may be unable to hold the time of the next check, and then the program is aborted;
here the time is a number without a bound, and the session asks whether its clock holds it.
-/

namespace Shortcuts

/-- How long a chord may wait for its second key, and how often that is checked. -/
structure ChordTiming where
  timeout : Nat
  tick : Nat
  deriving DecidableEq

/-- Five seconds for the second key, checked twice a second, in milliseconds. -/
def ChordTiming.standard : ChordTiming := ⟨5000, 500⟩

/-- A chord whose first key was pressed. -/
structure PendingChord where
  /-- The encoding of the first key. -/
  first : String
  /-- The label of the first key. -/
  label : String
  enteredAt : Nat
  /-- When the chord should next be checked. -/
  nextTick : Nat
  deriving DecidableEq

namespace PendingChord

/-- A chord entered now. Whether the clock holds the time of the first check is not asked here. -/
def enter (first label : String) (now : Nat) (timing : ChordTiming) : PendingChord :=
  ⟨first, label, now, now + timing.tick⟩

/-- Whether more than the timeout has passed. A clock that went back counts as no time. -/
def isExpired (c : PendingChord) (now timeout : Nat) : Bool := timeout < now - c.enteredAt

/-- A chord to be checked a tick from now. Whether the clock holds that time is not asked here. -/
def postpone (c : PendingChord) (now : Nat) (timing : ChordTiming) : PendingChord :=
  { c with nextTick := now + timing.tick }

end PendingChord

inductive ChordExit
  | timedOut
  | focusLost
  deriving DecidableEq

end Shortcuts
