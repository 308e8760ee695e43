/-!
# Clocks

A session counts time from its start, in units of its clock.  The clock holds no time past its last
one: a program that asks for a later time is aborted.
-/

namespace Shortcuts

structure Clock where
  /-- How many units of time are in a millisecond. -/
  perMillisecond : Nat
  /-- The last time that the clock can hold. -/
  last : Nat
  positive : 0 < perMillisecond

namespace Clock

/-- The time after some milliseconds. -/
def after (clock : Clock) (now ms : Nat) : Nat := now + ms * clock.perMillisecond

/-- A clock that counts seconds with a signed number of 64 bits and their parts beside them.  Some of
its units have passed before the session starts. -/
def signed (perMillisecond passed : Nat) (positive : 0 < perMillisecond) : Clock :=
  ⟨perMillisecond, 0x8000000000000000 * 1000 * perMillisecond - 1 - passed, positive⟩

def nanoseconds (passed : Nat) : Clock := signed 1000000 passed (by decide)

/-- A clock for timings that are whole milliseconds. -/
def milliseconds : Clock := signed 1 0 (by decide)

end Clock

end Shortcuts
