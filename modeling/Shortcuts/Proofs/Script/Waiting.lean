import Shortcuts.Proofs.Dispatcher.Polling
import Shortcuts.Proofs.Script.Plays
/-!
# Waits in parts

While a script waits, the checks on a chord are made that are due, each at the time for which it was
asked.  What is left when the wait is over depends on its end alone: a check that is not due yet is
neither made nor put off, so that a wait can stop at any time and go on (`runChecks_runChecks`).  For
that the checks must come to an end by themselves, and this is all for which the tick must not be
zero.  The host takes the notices in between, but no check looks at them (`runChecks_withEarlier`).
A wait that is long enough makes all checks of a host that polls, and ends the chord
(`runChecks_of_entered`).

So a wait in two parts tells the same, in one line more, and the clock holds all times of the parts
just if it holds those of the whole (`waitsTo_add_iff`): the check that is next after the first part
is due by the end of the second, or it is next after that too.
-/

namespace Shortcuts

/-- Two lines of a report tell together what a single one tells. -/
structure ReportLine.InParts (one first second : ReportLine) : Prop where
  notices : first.notices ++ second.notices = one.notices
  /-- The chord ends in one of the two at most, and the other one tells no change. -/
  change : first.change.or second.change = one.change
  answer : first.answer = one.answer ∧ second.answer = one.answer
  time : second.time = one.time

namespace Snapshot

/-- Nothing changes, unless the chord in progress ends. -/
def Fades (before after : Snapshot) : Prop := after = before ∨ after = ⟨none, before.selecting⟩

variable {r s t : Snapshot}

theorem Fades.trans (first : r.Fades s) (second : s.Fades t) : r.Fades t := by
  obtain rfl | rfl := first
  · exact second
  · obtain rfl | rfl := second <;> exact .inr rfl

theorem change?_self (s : Snapshot) : s.change? s = none := by
  simp [change?]

/-- Where a chord ends once at most, one of two changes is the whole change. -/
theorem Fades.change?_or (first : r.Fades s) (second : s.Fades t) :
    (r.change? s).or (s.change? t) = r.change? t := by
  obtain rfl | rfl := first
  · rw [change?_self, Option.none_or]
  · obtain rfl | rfl := second <;> rw [change?_self, Option.or_none]

end Snapshot

namespace Dispatcher

/-- A dispatcher whose host has not taken some earlier notices either. -/
def withEarlier (earlier : List Notice) (d : Dispatcher) : Dispatcher :=
  { d with notices := earlier ++ d.notices }

@[simp] theorem nextWakeup_withEarlier (earlier : List Notice) (d : Dispatcher) :
    (d.withEarlier earlier).nextWakeup = d.nextWakeup := rfl

theorem tick_withEarlier (earlier : List Notice) (d : Dispatcher) (now : Nat) (hasFocus : Bool) :
    ((d.withEarlier earlier).tick now hasFocus).2 =
      (d.tick now hasFocus).2.withEarlier earlier := by
  obtain ⟨table, timing, chord, gesture, consumed, held, tracks, notices⟩ := d
  cases chord with
  | none => cases hasFocus <;> rfl
  | some c =>
    cases hasFocus with
    | false => simp [withEarlier, tick, leaveChord, notify]
    | true =>
      cases expired : c.isExpired now timing.timeout <;>
        simp [withEarlier, tick, leaveChord, notify, expired]

/-- A check ends the chord, or leaves its first key; a drag it leaves alone. -/
theorem fades_tick (d : Dispatcher) (now : Nat) (hasFocus : Bool) :
    (Snapshot.ofDispatcher d).Fades (.ofDispatcher (d.tick now hasFocus).2) := by
  obtain ⟨table, timing, chord, gesture, consumed, held, tracks, notices⟩ := d
  cases chord with
  | none => cases hasFocus <;> exact .inl rfl
  | some c =>
    cases hasFocus with
    | false => exact .inr rfl
    | true =>
      cases expired : c.isExpired now timing.timeout with
      | true => exact .inr (by simp [tick, leaveChord, notify, Snapshot.ofDispatcher, expired])
      | false => exact .inl (by simp [tick, PendingChord.postpone, Snapshot.ofDispatcher, expired])

end Dispatcher

namespace Session

open Dispatcher

section

variable {d middle : Dispatcher} {target later : Nat} {hasFocus : Bool}

/-! ## Waits that end a chord -/

theorem runChecks_chordOver (target : Nat) (hasFocus : Bool) (d : Dispatcher) :
    runChecks target hasFocus d.chordOver = .ok d.chordOver :=
  runChecks_of_early fun _ asks => by cases asks

/-- A wait that reaches the last check on a chord ends it. -/
theorem runChecks_chordAt {d : Dispatcher} {c : PendingChord} {target k : Nat}
    (ticks : 0 < d.timing.tick) (early : k < d.timing.checks)
    (reaches : c.enteredAt + d.timing.checks * d.timing.tick ≤ target) :
    runChecks target true (d.chordAt c k) = .ok d.chordOver := by
  have due : c.enteredAt + (k + 1) * d.timing.tick ≤ target :=
    Nat.le_trans (Nat.add_le_add_left (Nat.mul_le_mul_right _ early) _) reaches
  have ticks' : 0 < (d.chordAt c k).timing.tick := ticks
  have asks : (d.chordAt c k).nextWakeup = some (c.enteredAt + (k + 1) * d.timing.tick) := rfl
  have poll := poll?_chordAt (c := c) ticks k
  rw [poll?, asks, Option.map_some, Option.some_inj] at poll
  have after : ((d.chordAt c k).tick (c.enteredAt + (k + 1) * d.timing.tick) true).2 =
      (d.pollAt c k).after := congrArg Poll.after poll
  rw [runChecks_of_due ticks' asks due, after, pollAt]
  split
  case isTrue more => exact runChecks_chordAt ticks more reaches
  case isFalse last => exact runChecks_chordOver target true d
termination_by d.timing.checks - k

/-- A wait that goes on for a tick after the timeout ends a chord, if the host has the focus. -/
theorem runChecks_of_entered {first label : String} {t : Nat}
    (entered : d.chord = some (.enter first label t d.timing)) (ticks : 0 < d.timing.tick)
    (late : t + d.timing.timeout + d.timing.tick ≤ target) :
    runChecks target true d = .ok d.chordOver := by
  have reaches : t + d.timing.checks * d.timing.tick ≤ target := by
    refine Nat.le_trans ?_ late
    rw [Nat.add_assoc]
    exact Nat.add_le_add_left ChordTiming.checks_mul_le t
  have last := runChecks_chordAt (c := .enter first label t d.timing) ticks (Nat.succ_pos _) reaches
  rwa [chordAt_zero entered] at last

/-! ## Waits in two parts -/

/-- Checks that are made up to some time, and then up to a later one. -/
theorem runChecks_runChecks (ticks : 0 < d.timing.tick) (le : target ≤ later)
    (first : runChecks target hasFocus d = .ok middle) :
    runChecks later hasFocus middle = runChecks later hasFocus d := by
  fun_induction runChecks target hasFocus d with
  | case1 d quiet =>
    cases first
    rfl
  | case2 d w asks due d' advances ih =>
    -- a check that is due by the earlier time is due by the later one, at the same time
    have timing : d'.timing = d.timing := (idles_tick d hasFocus (Nat.le_refl w)).timing
    rw [runChecks_of_due ticks asks (Nat.le_trans due le), ih (by rwa [timing]) first]
  | case3 d w asks due d' stuck => cases first
  | case4 d w asks early =>
    cases first
    rfl

@[simp] theorem checksLeft_withEarlier (earlier : List Notice) (target : Nat) (d : Dispatcher) :
    checksLeft target (d.withEarlier earlier) = checksLeft target d := rfl

theorem runChecks_withEarlier (earlier : List Notice) (target : Nat) (hasFocus : Bool)
    (d : Dispatcher) :
    runChecks target hasFocus (d.withEarlier earlier) =
      withEarlier earlier <$> runChecks target hasFocus d := by
  fun_induction runChecks target hasFocus d with
  | case1 d quiet =>
    rw [runChecks, nextWakeup_withEarlier, quiet]
    rfl
  | case2 d w asks due d' advances ih =>
    rw [runChecks, nextWakeup_withEarlier, asks]
    simp only [tick_withEarlier, checksLeft_withEarlier, if_pos due]
    rw [if_pos advances, ih]
  | case3 d w asks due d' stuck =>
    rw [runChecks, nextWakeup_withEarlier, asks]
    simp only [tick_withEarlier, checksLeft_withEarlier, if_pos due]
    rw [if_neg stuck]
    rfl
  | case4 d w asks early =>
    rw [runChecks, nextWakeup_withEarlier, asks]
    simp only [if_neg early]
    rfl

theorem fades_runChecks (ended : runChecks target hasFocus d = .ok middle) :
    (Snapshot.ofDispatcher d).Fades (.ofDispatcher middle) :=
  runChecks_inv (fun e => (Snapshot.ofDispatcher d).Fades (.ofDispatcher e)) (.inl rfl)
    (fun e now _ fades => fades.trans (fades_tick e now hasFocus)) ended

/-- A host that takes the notices in the middle of the checks leaves the rest as it is. -/
theorem runChecks_takeNotices (ticks : 0 < d.timing.tick) (le : target ≤ later)
    (first : runChecks target hasFocus d = .ok middle) :
    withEarlier middle.notices <$> runChecks later hasFocus middle.takeNotices.2 =
      runChecks later hasFocus d := by
  have all : middle.takeNotices.2.withEarlier middle.notices = middle := by
    simp [withEarlier, takeNotices]
  rw [← runChecks_withEarlier, all, runChecks_runChecks ticks le first]

end

/-- What a wait makes of the dispatcher, if the clock holds the end of the wait and the time of the
next check. -/
structure WaitsTo (clock : Clock) (s : Session) (ms : Nat) (d : Dispatcher) : Prop where
  reaches : clock.after s.now ms ≤ clock.last
  ended : runChecks (clock.after s.now ms) s.hasFocus s.dispatcher = .ok d
  fits (w : Nat) : d.nextWakeup = some w → w ≤ clock.last

/-- The session after a wait, when the host has taken the notices. -/
def afterWait (clock : Clock) (s : Session) (ms : Nat) (d : Dispatcher) : Session :=
  { s with dispatcher := d.takeNotices.2, now := clock.after s.now ms }

variable {clock : Clock} {refused : List String} {s t : Session} {d : Dispatcher} {a b : Nat}
  {e : ScriptError}

theorem report_wait_eq_ok_iff {ms : Nat} {line : ReportLine} :
    s.report clock refused (.wait ms) = .ok (line, t) ↔
      ∃ d, s.WaitsTo clock ms d ∧
        line = ⟨(Step.wait ms).label, clock.after s.now ms / clock.perMillisecond, none, d.notices,
          (Snapshot.ofDispatcher s.dispatcher).change? (.ofDispatcher d)⟩ ∧
        t = s.afterWait clock ms d := by
  rw [report_eq_ok_iff]
  constructor
  · rintro ⟨a?, u, taken, rfl, rfl⟩
    obtain ⟨attempted, fits⟩ := take_eq_ok_iff.mp taken
    obtain ⟨reaches, d, ended, rfl, rfl⟩ := attempt_wait_eq_ok_iff.mp attempted
    exact ⟨d, ⟨reaches, ended, fits⟩, rfl, rfl⟩
  · rintro ⟨d, ⟨reaches, ended, fits⟩, rfl, rfl⟩
    exact ⟨none, _, take_eq_ok_iff.mpr
      ⟨attempt_wait_eq_ok_iff.mpr ⟨reaches, d, ended, rfl, rfl⟩, fits⟩, rfl, rfl⟩

/-- Only the clock keeps a script from waiting. -/
theorem eq_overflow_of_report_wait (paced : s.Paced) {ms : Nat}
    (fails : s.report clock refused (.wait ms) = .error e) : e = .overflow := by
  obtain faulty | ⟨late, -⟩ := take_eq_error paced (report_eq_error_iff.mp fails)
  · cases faulty
  · exact late

/-- A wait in two parts makes of the dispatcher what a single one makes of it, and needs no other
times of the clock. -/
theorem waitsTo_add_iff (ticks : 0 < s.dispatcher.timing.tick) :
    s.WaitsTo clock (a + b) d ↔
      ∃ middle last, s.WaitsTo clock a middle ∧ (s.afterWait clock a middle).WaitsTo clock b last ∧
        last.withEarlier middle.notices = d := by
  have later (middle : Dispatcher) :
      clock.after (s.afterWait clock a middle).now b = clock.after s.now (a + b) :=
    clock.after_after s.now a b
  have le : clock.after s.now a ≤ clock.after s.now (a + b) := later d ▸ clock.le_after _ b
  constructor
  · rintro ⟨reaches, ended, fits⟩
    obtain ⟨middle, first⟩ := exists_runChecks ticks (clock.after s.now a) s.hasFocus
    rw [← runChecks_takeNotices ticks le first] at ended
    obtain ⟨last, second, rfl⟩ := map_eq_ok_iff.mp ended
    refine ⟨middle, last, ⟨Nat.le_trans le reaches, first, fun w asks => ?_⟩,
      ⟨?_, ?_, fits⟩, rfl⟩
    · by_cases due : w ≤ clock.after s.now (a + b)
      · exact Nat.le_trans due reaches
      · -- the check is not due in the second part either, so it is next after that
        have early (w' : Nat) (asks' : middle.takeNotices.2.nextWakeup = some w') :
            clock.after s.now (a + b) < w' := by
          cases asks.symm.trans asks'
          exact Nat.not_le.mp due
        rw [runChecks_of_early early] at second
        cases second
        exact fits w asks
    · rwa [later]
    · rw [later]
      exact second
  · rintro ⟨middle, last, ⟨-, first, -⟩, ⟨reaches, second, fits⟩, rfl⟩
    rw [later] at reaches second
    refine ⟨reaches, ?_, fits⟩
    rw [← runChecks_takeNotices ticks le first]
    exact map_eq_ok_iff.mpr ⟨last, second, rfl⟩

/-- A wait in two parts ends like a single one, and tells the same. -/
theorem report_wait_parts (ticks : 0 < s.dispatcher.timing.tick) {one : ReportLine}
    (whole : s.report clock refused (.wait (a + b)) = .ok (one, t)) :
    ∃ first second middle, s.report clock refused (.wait a) = .ok (first, middle) ∧
      middle.report clock refused (.wait b) = .ok (second, t) ∧ one.InParts first second := by
  obtain ⟨d, waits, rfl, rfl⟩ := report_wait_eq_ok_iff.mp whole
  obtain ⟨middle, last, begins, ends, rfl⟩ := (waitsTo_add_iff ticks).mp waits
  have same : clock.after (clock.after s.now a) b = clock.after s.now (a + b) :=
    clock.after_after s.now a b
  have ended : (s.afterWait clock a middle).afterWait clock b last =
      s.afterWait clock (a + b) (last.withEarlier middle.notices) := by
    simp only [afterWait, same]
    rfl
  refine ⟨_, _, _, report_wait_eq_ok_iff.mpr ⟨middle, begins, rfl, rfl⟩,
    report_wait_eq_ok_iff.mpr ⟨last, ends, rfl, ended.symm⟩, rfl, ?_, ⟨rfl, rfl⟩, ?_⟩
  · have goesOn : (Snapshot.ofDispatcher middle.takeNotices.2).Fades (.ofDispatcher last) :=
      fades_runChecks ends.ended
    exact (fades_runChecks begins.ended).change?_or goesOn
  · exact congrArg (· / clock.perMillisecond) same

/-- Where the clock holds the parts of a wait, it holds the whole. -/
theorem exists_report_wait (ticks : 0 < s.dispatcher.timing.tick) {first second : ReportLine}
    {middle : Session} (begins : s.report clock refused (.wait a) = .ok (first, middle))
    (ends : middle.report clock refused (.wait b) = .ok (second, t)) :
    ∃ one u, s.report clock refused (.wait (a + b)) = .ok (one, u) := by
  obtain ⟨d, waits, -, rfl⟩ := report_wait_eq_ok_iff.mp begins
  obtain ⟨last, goesOn, -, rfl⟩ := report_wait_eq_ok_iff.mp ends
  have whole := (waitsTo_add_iff ticks).mpr ⟨d, last, waits, goesOn, rfl⟩
  exact ⟨_, _, report_wait_eq_ok_iff.mpr ⟨_, whole, rfl, rfl⟩⟩

/-- The steps after a wait do not tell in how many parts it was. -/
theorem play_wait_parts {after : List Step} {lines : List ReportLine}
    (ticks : 0 < s.dispatcher.timing.tick)
    (played : s.play clock refused (.wait (a + b) :: after) = .ok (lines, t)) :
    ∃ one first second later, lines = one :: later ∧ one.InParts first second ∧
      s.play clock refused (.wait a :: .wait b :: after) = .ok (first :: second :: later, t) := by
  obtain ⟨one, u, later, waits, rest, rfl⟩ := play_cons_eq_ok_iff.mp played
  obtain ⟨first, second, middle, begins, ends, inParts⟩ := report_wait_parts ticks waits
  have ended : middle.play clock refused (.wait b :: after) = .ok (second :: later, t) :=
    play_cons_eq_ok_iff.mpr ⟨second, u, later, ends, rest, rfl⟩
  exact ⟨one, first, second, later, rfl, inParts,
    play_cons_eq_ok_iff.mpr ⟨first, middle, second :: later, begins, ended, rfl⟩⟩

/-- A wait that the clock does not hold cannot be made in two parts either. -/
theorem play_wait_parts_of_late (paced : s.Paced) (after : List Step)
    (late : s.report clock refused (.wait (a + b)) = .error e) :
    s.play clock refused (.wait a :: .wait b :: after) = .error .overflow := by
  cases begins : s.report clock refused (.wait a) with
  | error e' =>
    cases eq_overflow_of_report_wait paced begins
    exact play_cons_eq_error_iff.mpr (.inl begins)
  | ok x =>
    obtain ⟨first, middle⟩ := x
    refine play_cons_eq_error_iff.mpr (.inr ⟨first, middle, begins, ?_⟩)
    cases ends : middle.report clock refused (.wait b) with
    | error e' =>
      cases eq_overflow_of_report_wait (paced.report begins) ends
      exact play_cons_eq_error_iff.mpr (.inl ends)
    | ok y =>
      obtain ⟨one, u, whole⟩ := exists_report_wait paced.ticks begins ends
      cases late.symm.trans whole

theorem play_wait_parts_eq_error_iff (paced : s.Paced) {after : List Step} :
    s.play clock refused (.wait a :: .wait b :: after) = .error e ↔
      s.play clock refused (.wait (a + b) :: after) = .error e := by
  cases whole : s.report clock refused (.wait (a + b)) with
  | error e' =>
    cases eq_overflow_of_report_wait paced whole
    have late : s.play clock refused (.wait (a + b) :: after) = .error .overflow :=
      play_cons_eq_error_iff.mpr (.inl whole)
    rw [late, play_wait_parts_of_late paced after whole]
  | ok x =>
    obtain ⟨one, u⟩ := x
    obtain ⟨first, second, middle, begins, ends, -⟩ := report_wait_parts paced.ticks whole
    rw [play_eq_error_iff_of_report begins, play_eq_error_iff_of_report ends,
      play_eq_error_iff_of_report whole]

end Session

/-- A script that waits in two parts tells the same in all its other lines, runs the same commands,
and tells in the two lines of the wait what it tells in the line of the whole wait.  It ends without
a report just if the other script does, for the same reason. -/
theorem wait_in_parts (clock : Clock) (script : Script) (table : RuleTable) {timing : ChordTiming}
    (ticks : 0 < timing.tick) (before after : List Step) (a b : Nat) :
    let whole := { script with steps := before ++ Step.wait (a + b) :: after }
    let parts := { script with steps := before ++ Step.wait a :: Step.wait b :: after }
    (∀ e, parts.playOn clock table timing = .error e ↔ whole.playOn clock table timing = .error e) ∧
      ∀ lines calls, whole.playOn clock table timing = .ok (lines, calls) →
        ∃ earlier one first second later, earlier.length = before.length ∧
          lines = earlier ++ one :: later ∧
          parts.playOn clock table timing = .ok (earlier ++ first :: second :: later, calls) ∧
          one.InParts first second := by
  intro whole parts
  have paced := Session.paced_start script table ticks
  constructor
  · intro e
    rw [Script.playOn_eq_error_iff, Script.playOn_eq_error_iff,
      Session.play_append_eq_error_iff, Session.play_append_eq_error_iff]
    refine or_congr_right (exists_congr fun earlier => exists_congr fun u => ?_)
    exact and_congr_right fun start => Session.play_wait_parts_eq_error_iff (paced.play start)
  · intro lines calls played
    obtain ⟨t, all, rfl⟩ := Script.playOn_eq_ok_iff.mp played
    obtain ⟨earlier, u, rest, start, others, rfl⟩ := Session.play_append_eq_ok_iff.mp all
    obtain ⟨one, first, second, later, rfl, inParts, others⟩ :=
      Session.play_wait_parts (paced.play start).ticks others
    refine ⟨earlier, one, first, second, later, Session.length_play start, rfl, ?_, inParts⟩
    exact Script.playOn_eq_ok_iff.mpr
      ⟨t, Session.play_append_eq_ok_iff.mpr ⟨earlier, u, _, start, others, rfl⟩, rfl⟩

/-- The chord is over in the second part of the wait. -/
theorem wait_in_parts_late :
    let k := Stroke.ofKey (.char 'k') .onlyCtrl
    let table := RuleTable.ofRules [.run (.chord k k) "saveAll"]
    let clock := Clock.nanoseconds 0
    let timing : ChordTiming := ⟨1000000000, 300000000⟩
    let script (steps : List Step) : Script := ⟨.empty, [], true, steps⟩
    let press : ReportLine :=
      ⟨"key ctrl+k", 0, some .chordPending, [.chordStarted "Ctrl+K"], some "idle → chord(ctrl+k)"⟩
    let one : ReportLine :=
      ⟨"wait 1500ms", 1500, none, [.chordCleared], some "chord(ctrl+k) → idle"⟩
    0 < timing.tick ∧
      (script [.key "ctrl+k", .wait (700 + 800)]).playOn clock table timing =
        .ok ([press, one], []) ∧
      ∃ first second, one.InParts first second ∧
        (script [.key "ctrl+k", .wait 700, .wait 800]).playOn clock table timing =
          .ok ([press, first, second], []) := by
  intro k table clock timing script press one
  let e := KeyEvent.press (.char 'k') .onlyCtrl
  let d : Dispatcher := ⟨table, timing, some (.enter k.encode k.label 0 timing), none,
    [(e.identity, true)], [], true, []⟩
  let s : Session := ⟨d, [], .empty, 0, true⟩
  have ticks : 0 < timing.tick := by decide
  have pressed : (Session.start (script []) table timing).report clock [] (.key "ctrl+k") =
      .ok (press, s) := by
    have read : Step.keyEvent "ctrl+k" = .ok e := rfl
    have planned : (Dispatcher.new table timing true).planBinding (.stroke k) Context.empty.get? 0 =
        (.answer .chordPending, { d with consumed := [], notices := [.chordStarted k.label] }) := by
      have opens := Dispatcher.reaction_chord k k "saveAll" timing true Context.empty.get? 0
      rw [Dispatcher.reaction] at opens
      rw [Dispatcher.planBinding_eq, opens]
      rfl
    have attempted : (Session.start (script []) table timing).attempt clock [] (.key "ctrl+k") =
        .ok (some .chordPending, { s with dispatcher := d.withEarlier [.chordStarted k.label] }) :=
      (Session.attempt_key read rfl planned).trans rfl
    have soon (w : Nat) (asks : d.nextWakeup = some w) : w ≤ clock.last := by
      cases asks
      decide
    have line : press = ⟨(Step.key "ctrl+k").label, 0 / clock.perMillisecond, some .chordPending,
        [.chordStarted k.label], Snapshot.change? ⟨none, false⟩ ⟨some k.encode, false⟩⟩ := by
      rw [ReportLine.mk.injEq]
      decide +kernel
    exact Session.report_eq_ok_iff.mpr
      ⟨_, _, Session.take_eq_ok_iff.mpr ⟨attempted, soon⟩, line, rfl⟩
  have waited : s.report clock [] (.wait (700 + 800)) =
      .ok (one, s.afterWait clock (700 + 800) d.chordOver) := by
    have reaches : clock.after 0 (700 + 800) ≤ clock.last := by decide
    have late : 0 + timing.timeout + timing.tick ≤ clock.after 0 (700 + 800) := by decide
    have waits : s.WaitsTo clock (700 + 800) d.chordOver :=
      ⟨reaches, Session.runChecks_of_entered rfl ticks late, fun _ asks => by cases asks⟩
    have line : one = ⟨(Step.wait (700 + 800)).label,
        clock.after 0 (700 + 800) / clock.perMillisecond, none, [.chordCleared],
        Snapshot.change? ⟨some k.encode, false⟩ ⟨none, false⟩⟩ := by
      rw [ReportLine.mk.injEq]
      decide +kernel
    exact Session.report_wait_eq_ok_iff.mpr ⟨d.chordOver, waits, line, rfl⟩
  have whole : (script [.key "ctrl+k", .wait (700 + 800)]).playOn clock table timing =
      .ok ([press, one], []) := by
    have rest : s.play clock [] [.wait (700 + 800)] =
        .ok ([one], s.afterWait clock (700 + 800) d.chordOver) :=
      Session.play_cons_eq_ok_iff.mpr ⟨one, _, [], waited, rfl, rfl⟩
    exact Script.playOn_eq_ok_iff.mpr
      ⟨_, Session.play_cons_eq_ok_iff.mpr ⟨press, s, [one], pressed, rest, rfl⟩, rfl⟩
  obtain ⟨earlier, one', first, second, later, length, lines, played, inParts⟩ :=
    (wait_in_parts clock (script []) table ticks [.key "ctrl+k"] [] 700 800).2 _ _ whole
  obtain ⟨line, rfl⟩ := List.length_eq_one_iff.mp length
  cases lines
  exact ⟨ticks, whole, first, second, inParts, played⟩

end Shortcuts
