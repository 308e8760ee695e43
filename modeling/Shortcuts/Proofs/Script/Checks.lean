import Shortcuts.Proofs.Dispatcher.Accounts
import Shortcuts.Script.Play
/-!
# Checks on a chord

While a script waits, the session makes the checks on a chord that are due.  They run no command, tell
of none and leave the timing alone (`idles_runChecks`).  If a tick takes some time, each check asks for
a later one at most, so they come to an end by themselves (`exists_runChecks`).  If it takes none, a
check that does not end the chord leaves everything as it is (`tick_of_stuck`), and the checks go on
forever.
-/

namespace Shortcuts

namespace Dispatcher

/-- A dispatcher goes on without a command up to some time: it tells of none, keeps its timing, and
asks for no check later than a tick after that time, unless it has asked before. -/
structure Idles (d : Dispatcher) (time : Nat) (e : Dispatcher) : Prop where
  timing : e.timing = d.timing
  told : ∃ told, e.notices = d.notices ++ told ∧ told.filter Notice.isOutcome = []
  asks (w : Nat) : e.nextWakeup = some w → d.nextWakeup = some w ∨ w ≤ time + d.timing.tick

variable {d e f : Dispatcher} {time now : Nat} {hasFocus : Bool}

theorem Idles.refl (d : Dispatcher) (time : Nat) : d.Idles time d :=
  ⟨rfl, ⟨[], by rw [List.append_nil], rfl⟩, fun _ asks => .inl asks⟩

theorem Idles.trans (first : d.Idles time e) (second : e.Idles time f) : d.Idles time f := by
  obtain ⟨told, notices, quiet⟩ := first.told
  obtain ⟨told', notices', quiet'⟩ := second.told
  refine ⟨second.timing.trans first.timing, ⟨told ++ told', ?_, ?_⟩, fun w asks => ?_⟩
  · rw [notices', notices, List.append_assoc]
  · rw [List.filter_append, quiet, quiet', List.append_nil]
  · obtain before | soon := second.asks w asks
    · exact first.asks w before
    · exact .inr (first.timing ▸ soon)

/-- A check ends the chord, or asks for another check one tick later. -/
theorem nextWakeup_tick (d : Dispatcher) (now : Nat) (hasFocus : Bool) :
    (d.tick now hasFocus).2.nextWakeup = none ∨
      (d.tick now hasFocus).2.nextWakeup = some (now + d.timing.tick) := by
  obtain ⟨table, timing, chord, gesture, consumed, held, tracks, notices⟩ := d
  cases chord with
  | none => cases hasFocus <;> exact .inl rfl
  | some c =>
    cases hasFocus with
    | false => exact .inl rfl
    | true =>
      cases expired : c.isExpired now timing.timeout with
      | true => simp [tick, leaveChord, notify, nextWakeup, expired]
      | false => simp [tick, nextWakeup, PendingChord.postpone, expired]

theorem idles_tick (d : Dispatcher) (hasFocus : Bool) (le : now ≤ time) :
    d.Idles time (d.tick now hasFocus).2 := by
  refine ⟨?_, ?_, fun w asks => .inr ?_⟩
  · rw [move_tick]
  · rw [move_tick]
    exact ⟨_, rfl, filter_told d _⟩
  · obtain ended | next := nextWakeup_tick d now hasFocus
    · rw [ended] at asks
      cases asks
    · rw [next] at asks
      cases asks
      exact Nat.add_le_add_right le _

theorem idles_releaseKey (d : Dispatcher) (time : Nat) (e : KeyEvent) :
    d.Idles time (d.releaseKey e).2 :=
  ⟨rfl, ⟨[], by rw [List.append_nil]; rfl, rfl⟩, fun _ asks => .inl asks⟩

end Dispatcher

namespace Session

open Dispatcher

variable {d d' : Dispatcher} {target wakeup : Nat} {hasFocus : Bool}

/-- A check that is due brings the end nearer, if a tick takes some time. -/
theorem checksLeft_tick (ticks : 0 < d.timing.tick) (asks : d.nextWakeup = some wakeup)
    (due : wakeup ≤ target) :
    checksLeft target (d.tick wakeup hasFocus).2 < checksLeft target d := by
  obtain ended | next := nextWakeup_tick d wakeup hasFocus
  · simp only [checksLeft, ended, asks]
    omega
  · simp only [checksLeft, next, asks]
    omega

theorem runChecks_of_due (ticks : 0 < d.timing.tick) (asks : d.nextWakeup = some wakeup)
    (due : wakeup ≤ target) :
    runChecks target hasFocus d = runChecks target hasFocus (d.tick wakeup hasFocus).2 := by
  rw [runChecks, asks]
  simp only [if_pos due, if_pos (checksLeft_tick ticks asks due)]

theorem runChecks_of_early (early : ∀ w, d.nextWakeup = some w → target < w) :
    runChecks target hasFocus d = .ok d := by
  rw [runChecks]
  cases asks : d.nextWakeup with
  | none => rfl
  | some w => exact if_neg (Nat.not_le.mpr (early w asks))

/-- The checks come to an end if a tick takes some time: no check leads to another one at the same
time. -/
theorem exists_runChecks (ticks : 0 < d.timing.tick) (target : Nat) (hasFocus : Bool) :
    ∃ d', runChecks target hasFocus d = .ok d' := by
  fun_induction runChecks target hasFocus d with
  | case1 d quiet => exact ⟨d, rfl⟩
  | case2 d w asks due d' advances ih =>
    exact ih (by rwa [(idles_tick d hasFocus (Nat.le_refl w)).timing])
  | case3 d w asks due d' stuck => exact absurd (checksLeft_tick ticks asks due) stuck
  | case4 d w asks early => exact ⟨d, rfl⟩

/-- Where a check does not bring the end nearer, none ever will: it leaves the dispatcher as it is, and
the next one is due at the same time. -/
theorem tick_of_stuck (asks : d.nextWakeup = some wakeup) (due : wakeup ≤ target)
    (stuck : ¬ checksLeft target (d.tick wakeup hasFocus).2 < checksLeft target d) :
    (d.tick wakeup hasFocus).2.nextWakeup = some wakeup ∧
      ((d.tick wakeup hasFocus).2.tick wakeup hasFocus).2 = (d.tick wakeup hasFocus).2 := by
  obtain ended | next := nextWakeup_tick d wakeup hasFocus
  · -- a check that ends the chord is the last one
    refine absurd ?_ stuck
    simp only [checksLeft, ended, asks]
    omega
  · have still : d.timing.tick = 0 := by
      simp only [checksLeft, next, asks] at stuck
      omega
    rw [still, Nat.add_zero] at next
    refine ⟨next, ?_⟩
    obtain ⟨table, timing, chord, gesture, consumed, held, tracks, notices⟩ := d
    cases chord with
    | none => cases asks
    | some c =>
      cases hasFocus with
      | false => cases next
      | true =>
        cases expired : c.isExpired wakeup timing.timeout with
        | true => simp [tick, leaveChord, notify, nextWakeup, expired] at next
        | false =>
          have again : (c.postpone wakeup timing).isExpired wakeup timing.timeout = false := expired
          have same : (c.postpone wakeup timing).postpone wakeup timing =
              c.postpone wakeup timing := rfl
          simp [tick, expired, again, same]

/-- What the checks on a chord keep, they keep as often as they are made. -/
theorem runChecks_inv (inv : Dispatcher → Prop) (start : inv d)
    (keeps : ∀ e now, now ≤ target → inv e → inv (e.tick now hasFocus).2)
    (ended : runChecks target hasFocus d = .ok d') : inv d' := by
  fun_induction runChecks target hasFocus d with
  | case1 d quiet =>
    cases ended
    exact start
  | case2 d w asks due after advances ih => exact ih (keeps d w due start) ended
  | case3 d w asks due after stuck => cases ended
  | case4 d w asks early =>
    cases ended
    exact start

theorem idles_runChecks (ended : runChecks target hasFocus d = .ok d') : d.Idles target d' :=
  runChecks_inv (d.Idles target) (.refl d target)
    (fun e _ due idles => idles.trans (idles_tick e hasFocus due)) ended

end Session

end Shortcuts
