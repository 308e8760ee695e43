import Shortcuts.Proofs.Except
import Shortcuts.Proofs.Script.Checks
/-!
# Steps of a script

A step fails for its text alone (`Step.fault?`).  What else can stop it is the clock, which may not
hold a time that the step needs (`take_eq_error`).  The check that is asked for next is never further
away than a tick (`Paced`), hence the waits alone decide how far a script gets.

A step that can be taken hands at most one operation to the dispatcher that may run a command.  The
rest are releases and checks on a chord (`attempt_eq_ok`), which run nothing, tell of no command and
leave the timing alone (`Idles`).  So most of what holds of the operations of a run holds of the steps
of a script, and there is no need to go through the kinds of steps again.
-/

namespace Shortcuts

namespace Step

def faultOf {α : Type} : Except ScriptError α → Option ScriptError
  | .ok _ => none
  | .error e => some e

/-- What is wrong with the text of a step. -/
def fault? : Step → Option ScriptError
  | key text | hold text | again text | release text => faultOf (keyEvent text)
  | click text => faultOf (clickOf text)
  | drag text => faultOf (dragOf text)
  | drop | cancelDrag | wait _ | focus _ | set _ | unset _ => none

/-- Whether the text of a step can be read as what the step takes: a key stroke, or else a click or a
drag, with the mark of its kind in front unless the text has a mark. -/
def IsReadable : Step → Prop
  | key text | hold text | again text | release text => ∃ s, Stroke.parse text = .ok s
  | click text => ∃ c, Binding.read (marked Click.mark text) = .ok (.click c)
  | drag text => ∃ g, Binding.read (marked Drag.mark text) = .ok (.drag g)
  | drop | cancelDrag | wait _ | focus _ | set _ | unset _ => True

/-- How many milliseconds pass in a step. -/
def duration : Step → Nat
  | wait ms => ms
  | _ => 0

theorem faultOf_eq_some_iff {α : Type} {r : Except ScriptError α} {e : ScriptError} :
    faultOf r = some e ↔ r = .error e := by
  cases r with
  | ok a => simp [faultOf]
  | error e' => simp [faultOf]

theorem isReported_of_keyEvent (text : String) {e : ScriptError} (fails : keyEvent text = .error e) :
    e.isReported = true := by
  unfold keyEvent at fails
  split at fails <;> cases fails
  rfl

theorem isReported_of_clickOf (text : String) {e : ScriptError} (fails : clickOf text = .error e) :
    e.isReported = true := by
  unfold clickOf at fails
  split at fails <;> cases fails <;> rfl

theorem isReported_of_dragOf (text : String) {e : ScriptError} (fails : dragOf text = .error e) :
    e.isReported = true := by
  unfold dragOf at fails
  split at fails <;> cases fails <;> rfl

/-- What is wrong with a text is reported. -/
theorem isReported_of_fault? {step : Step} {e : ScriptError} (faulty : step.fault? = some e) :
    e.isReported = true := by
  cases step with
  | key text => exact isReported_of_keyEvent text (faultOf_eq_some_iff.mp faulty)
  | hold text => exact isReported_of_keyEvent text (faultOf_eq_some_iff.mp faulty)
  | again text => exact isReported_of_keyEvent text (faultOf_eq_some_iff.mp faulty)
  | release text => exact isReported_of_keyEvent text (faultOf_eq_some_iff.mp faulty)
  | click text => exact isReported_of_clickOf text (faultOf_eq_some_iff.mp faulty)
  | drag text => exact isReported_of_dragOf text (faultOf_eq_some_iff.mp faulty)
  | _ => cases faulty

theorem faultOf_keyEvent_eq_none_iff (text : String) :
    faultOf (keyEvent text) = none ↔ ∃ s, Stroke.parse text = .ok s := by
  rw [keyEvent]
  cases Stroke.parse text with
  | ok s => simp [faultOf]
  | error e => simp [faultOf]

theorem faultOf_clickOf_eq_none_iff (text : String) :
    faultOf (clickOf text) = none ↔ ∃ c, Binding.read (marked Click.mark text) = .ok (.click c) := by
  rw [clickOf]
  cases Binding.read (marked Click.mark text) with
  | ok b => cases b <;> simp [faultOf]
  | error e => simp [faultOf]

theorem faultOf_dragOf_eq_none_iff (text : String) :
    faultOf (dragOf text) = none ↔ ∃ g, Binding.read (marked Drag.mark text) = .ok (.drag g) := by
  rw [dragOf]
  cases Binding.read (marked Drag.mark text) with
  | ok b => cases b <;> simp [faultOf]
  | error e => simp [faultOf]

theorem fault?_eq_none_iff (step : Step) : step.fault? = none ↔ step.IsReadable := by
  cases step with
  | key text => exact faultOf_keyEvent_eq_none_iff text
  | hold text => exact faultOf_keyEvent_eq_none_iff text
  | again text => exact faultOf_keyEvent_eq_none_iff text
  | release text => exact faultOf_keyEvent_eq_none_iff text
  | click text => exact faultOf_clickOf_eq_none_iff text
  | drag text => exact faultOf_dragOf_eq_none_iff text
  | _ => exact iff_of_true rfl trivial

end Step

namespace Clock

variable (clock : Clock) (now a b : Nat)

@[simp] theorem after_zero : clock.after now 0 = now := by
  rw [after, Nat.zero_mul, Nat.add_zero]

@[simp] theorem after_after : clock.after (clock.after now a) b = clock.after now (a + b) := by
  simp only [after, Nat.add_mul, Nat.add_assoc]

theorem le_after : now ≤ clock.after now a := Nat.le_add_right _ _

end Clock

namespace Dispatcher

variable {d e : Dispatcher} {now : Nat}

theorem timing_perform {refused : List String} {calls calls' : Calls} {op : Operation} {reply : Reply}
    (performed : d.perform (recorder refused) calls op = (reply, e, calls')) :
    e.timing = d.timing := by
  have same := timing_after (recorder refused) calls d op
  rwa [step_eq, performed] at same

/-- An operation asks for no check later than a tick after it, unless the check was asked for before. -/
theorem asks_perform {refused : List String} {calls calls' : Calls} {op : Operation} {reply : Reply}
    (performed : d.perform (recorder refused) calls op = (reply, e, calls'))
    (at_now : op.now? = some now) {w : Nat} (asks : e.nextWakeup = some w) :
    d.nextWakeup = some w ∨ w = now + d.timing.tick := by
  have after := chord_after (recorder refused) calls d op
  rw [step_eq, performed] at after
  obtain ⟨c, waits, rfl⟩ := Option.map_eq_some_iff.mp asks
  obtain ⟨c', before, same⟩ | ⟨now', at_now', same⟩ :=
    nextTick_of_chordAfter (after.symm.trans waits)
  · exact .inl (Option.map_eq_some_iff.mpr ⟨c', before, same⟩)
  · cases at_now.symm.trans at_now'
    exact .inr same

end Dispatcher

namespace Session

open Dispatcher

variable {clock : Clock} {refused : List String} {s t : Session} {step : Step} {a? : Option Answer}
  {e : ScriptError}

/-! ## The clock -/

theorem reach_eq_ok_iff {time : Nat} {u : Unit} :
    reach clock time = .ok u ↔ time ≤ clock.last := by
  unfold reach
  split
  case isTrue fits => simp [fits]
  case isFalse late => simp [late]

theorem reach_eq_error_iff {time : Nat} :
    reach clock time = .error e ↔ e = .overflow ∧ clock.last < time := by
  unfold reach
  split
  case isTrue fits => simp [Nat.not_lt.mpr fits]
  case isFalse late => simp [Nat.not_le.mp late, eq_comm]

theorem reachWakeup_eq_ok_iff {d : Dispatcher} {u : Unit} :
    reachWakeup clock d = .ok u ↔ ∀ w, d.nextWakeup = some w → w ≤ clock.last := by
  unfold reachWakeup
  cases d.nextWakeup with
  | none => simp
  | some w => simp [reach_eq_ok_iff]

theorem reachWakeup_eq_error_iff {d : Dispatcher} :
    reachWakeup clock d = .error e ↔
      e = .overflow ∧ ∃ w, d.nextWakeup = some w ∧ clock.last < w := by
  unfold reachWakeup
  cases d.nextWakeup with
  | none => simp
  | some w => simp [reach_eq_error_iff]

/-- The checks on a chord go on at a pace: a tick takes some time, and the next check is no further
away than that. -/
structure Paced (s : Session) : Prop where
  ticks : 0 < s.dispatcher.timing.tick
  soon (w : Nat) : s.dispatcher.nextWakeup = some w → w ≤ s.now + s.dispatcher.timing.tick

/-! ## One step -/

theorem attempt_wait_eq_ok_iff {ms : Nat} :
    s.attempt clock refused (.wait ms) = .ok (a?, t) ↔
      clock.after s.now ms ≤ clock.last ∧
        ∃ d, runChecks (clock.after s.now ms) s.hasFocus s.dispatcher = .ok d ∧
          a? = none ∧ t = { s with dispatcher := d, now := clock.after s.now ms } := by
  rw [attempt, bind_eq_ok_iff]
  constructor
  · rintro ⟨_, reaches, rest⟩
    obtain ⟨d, ended, same⟩ := bind_eq_ok_iff.mp rest
    cases same
    exact ⟨reach_eq_ok_iff.mp reaches, d, ended, rfl, rfl⟩
  · rintro ⟨reaches, d, ended, rfl, rfl⟩
    exact ⟨(), reach_eq_ok_iff.mpr reaches, bind_eq_ok_iff.mpr ⟨d, ended, rfl⟩⟩

/-- A press that is no repeat comes to what is planned for it, and the key is released. -/
theorem attempt_key {text : String} {k : KeyEvent} {p : Plan} {d : Dispatcher}
    (read : Step.keyEvent text = .ok k) (fresh : s.dispatcher.isRepeated k = false)
    (planned : s.dispatcher.planBinding (.stroke k.stroke) s.context.get? s.now = (p, d)) :
    s.attempt clock refused (.key text) =
      let (a, d, calls) := settle (recorder refused) s.calls [] (p, d)
      .ok (some a, { s with
        dispatcher := ((d.rememberPress k.identity a).releaseKey k).2
        calls := calls }) := by
  rw [attempt, read, ← planned]
  simp only [bind, Except.bind, handle, Dispatcher.handle, pressKey, fresh]
  rfl

/-- A step whose text is faulty cannot be taken, in any session. -/
theorem attempt_of_fault (faulty : step.fault? = some e) :
    s.attempt clock refused step = .error e := by
  have reads {α : Type} {r : Except ScriptError α} {go : α → Option Answer × Session}
      (fails : Step.faultOf r = some e) : (r >>= fun a => .ok (go a)) = .error e :=
    bind_eq_error_iff.mpr (.inl (Step.faultOf_eq_some_iff.mp fails))
  cases step with
  | key text => exact reads faulty
  | hold text => exact reads faulty
  | again text => exact reads faulty
  | release text => exact reads faulty
  | click text => exact reads faulty
  | drag text => exact reads faulty
  | _ => cases faulty

/-- Nothing else keeps a step from being taken, but a wait that is too long. -/
theorem attempt_eq_error (ticks : 0 < s.dispatcher.timing.tick)
    (fails : s.attempt clock refused step = .error e) :
    step.fault? = some e ∨ e = .overflow ∧ clock.last < clock.after s.now step.duration := by
  -- once the text is read, nothing fails any more
  have reads {α : Type} (r : Except ScriptError α) {go : α → Option Answer × Session}
      (fails : (r >>= fun a => .ok (go a)) = .error e) : Step.faultOf r = some e := by
    obtain early | ⟨a, -, late⟩ := bind_eq_error_iff.mp fails
    · exact Step.faultOf_eq_some_iff.mpr early
    · cases late
  cases step with
  | key text => exact .inl (reads (Step.keyEvent text) fails)
  | hold text => exact .inl (reads (Step.keyEvent text) fails)
  | again text => exact .inl (reads (Step.keyEvent text) fails)
  | release text => exact .inl (reads (Step.keyEvent text) fails)
  | click text => exact .inl (reads (Step.clickOf text) fails)
  | drag text => exact .inl (reads (Step.dragOf text) fails)
  | wait ms =>
    obtain late | ⟨-, -, fails⟩ := bind_eq_error_iff.mp fails
    · exact .inr (reach_eq_error_iff.mp late)
    · obtain ⟨d, ended⟩ := exists_runChecks ticks (clock.after s.now ms) s.hasFocus
      rw [ended] at fails
      cases fails
  | _ => cases fails

/-- A step that can be taken makes nothing happen but releases and checks, or hands one operation
over first and answers as the dispatcher does. -/
theorem attempt_eq_ok (attempted : s.attempt clock refused step = .ok (a?, t)) :
    (a? = none ∧ t.calls = s.calls ∧ s.dispatcher.Idles t.now t.dispatcher) ∨
      ∃ op a d, op.now? = some s.now ∧
        s.dispatcher.perform (recorder refused) s.calls op = (.answer a, d, t.calls) ∧
        a? = some a ∧ d.Idles t.now t.dispatcher := by
  have hands (input : Input) : s.dispatcher.perform (recorder refused) s.calls
      (.handle input [] s.context.get? s.now) =
        (.answer (s.handle refused input).1, (s.handle refused input).2.dispatcher,
          (s.handle refused input).2.calls) := rfl
  cases step with
  | key text =>
    obtain ⟨e, -, rest⟩ := bind_eq_ok_iff.mp attempted
    cases rest
    exact .inr ⟨_, _, _, rfl, hands (.keyDown e), rfl, idles_releaseKey _ _ e⟩
  | hold text =>
    obtain ⟨e, -, rest⟩ := bind_eq_ok_iff.mp attempted
    cases rest
    exact .inr ⟨_, _, _, rfl, hands (.keyDown e), rfl, .refl _ _⟩
  | again text =>
    obtain ⟨e, -, rest⟩ := bind_eq_ok_iff.mp attempted
    cases rest
    exact .inr ⟨_, _, _, rfl, hands (.keyDown { e with isRepeat := true }), rfl, .refl _ _⟩
  | release text =>
    obtain ⟨e, -, rest⟩ := bind_eq_ok_iff.mp attempted
    cases rest
    exact .inr ⟨_, _, _, rfl, hands (.keyUp e), rfl, .refl _ _⟩
  | click text =>
    obtain ⟨c, -, rest⟩ := bind_eq_ok_iff.mp attempted
    cases rest
    exact .inr ⟨_, _, _, rfl, hands (.click c), rfl, .refl _ _⟩
  | drag text =>
    obtain ⟨g, -, rest⟩ := bind_eq_ok_iff.mp attempted
    cases rest
    exact .inr ⟨_, _, _, rfl, hands (.drag .start g), rfl, .refl _ _⟩
  | drop =>
    cases attempted
    exact .inr ⟨_, _, _, rfl, hands (.drag .finish ⟨.empty, .left⟩), rfl, .refl _ _⟩
  | cancelDrag =>
    cases attempted
    exact .inr ⟨_, _, _, rfl, hands (.drag .cancel ⟨.empty, .left⟩), rfl, .refl _ _⟩
  | wait ms =>
    obtain ⟨-, d, ended, rfl, rfl⟩ := attempt_wait_eq_ok_iff.mp attempted
    exact .inl ⟨rfl, rfl, idles_runChecks ended⟩
  | focus hasFocus =>
    cases attempted
    exact .inl ⟨rfl, rfl, idles_tick _ _ (Nat.le_refl _)⟩
  | set values =>
    cases attempted
    exact .inl ⟨rfl, rfl, .refl _ _⟩
  | unset key =>
    cases attempted
    exact .inl ⟨rfl, rfl, .refl _ _⟩

theorem now_attempt (attempted : s.attempt clock refused step = .ok (a?, t)) :
    t.now = clock.after s.now step.duration := by
  cases step
  case wait ms =>
    obtain ⟨-, d, -, -, rfl⟩ := attempt_wait_eq_ok_iff.mp attempted
    rfl
  case drop | cancelDrag | focus | set | unset =>
    cases attempted
    exact (clock.after_zero s.now).symm
  all_goals
    obtain ⟨x, -, rest⟩ := bind_eq_ok_iff.mp attempted
    cases rest
    exact (clock.after_zero s.now).symm

theorem now_attempt_le (fits : s.now ≤ clock.last)
    (attempted : s.attempt clock refused step = .ok (a?, t)) : t.now ≤ clock.last := by
  rw [now_attempt attempted]
  cases step
  case wait ms => exact (attempt_wait_eq_ok_iff.mp attempted).1
  all_goals exact Nat.le_trans (Nat.le_of_eq (clock.after_zero s.now)) fits

theorem take_eq_ok_iff :
    s.take clock refused step = .ok (a?, t) ↔
      s.attempt clock refused step = .ok (a?, t) ∧
        ∀ w, t.dispatcher.nextWakeup = some w → w ≤ clock.last := by
  rw [take, bind_eq_ok_iff]
  constructor
  · rintro ⟨⟨b?, u⟩, attempted, rest⟩
    obtain ⟨_, fits, same⟩ := bind_eq_ok_iff.mp rest
    cases same
    exact ⟨attempted, reachWakeup_eq_ok_iff.mp fits⟩
  · rintro ⟨attempted, fits⟩
    exact ⟨(a?, t), attempted,
      bind_eq_ok_iff.mpr ⟨(), reachWakeup_eq_ok_iff.mpr fits, rfl⟩⟩

theorem timing_attempt (attempted : s.attempt clock refused step = .ok (a?, t)) :
    t.dispatcher.timing = s.dispatcher.timing := by
  obtain ⟨-, -, idles⟩ | ⟨op, a, d, -, performed, -, idles⟩ := attempt_eq_ok attempted
  · exact idles.timing
  · exact idles.timing.trans (timing_perform performed)

/-- A session keeps its pace: what a step asks for, it asks for at a time that is not over after it. -/
theorem Paced.attempt (paced : s.Paced) (attempted : s.attempt clock refused step = .ok (a?, t)) :
    t.Paced := by
  have timing := timing_attempt attempted
  have later : s.now ≤ t.now := now_attempt attempted ▸ clock.le_after s.now step.duration
  refine ⟨timing ▸ paced.ticks, fun w asks => ?_⟩
  rw [timing]
  -- a check that was asked for before the step is no further away after it
  have earlier (asked : s.dispatcher.nextWakeup = some w) :
      w ≤ t.now + s.dispatcher.timing.tick :=
    Nat.le_trans (paced.soon w asked) (Nat.add_le_add_right later _)
  obtain ⟨-, -, idles⟩ | ⟨op, a, d, at_now, performed, -, idles⟩ := attempt_eq_ok attempted
  · obtain asked | soon := idles.asks w asks
    · exact earlier asked
    · exact soon
  · obtain asked | soon := idles.asks w asks
    · obtain asked | rfl := asks_perform performed at_now asked
      · exact earlier asked
      · exact Nat.add_le_add_right later _
    · rwa [← timing_perform performed]

/-- A step that cannot be taken fails for its text, or goes past the last time of the clock. -/
theorem take_eq_error (paced : s.Paced) (fails : s.take clock refused step = .error e) :
    step.fault? = some e ∨ e = .overflow ∧
      clock.last < clock.after s.now step.duration + s.dispatcher.timing.tick := by
  obtain fails | ⟨⟨a?, t⟩, attempted, rest⟩ := bind_eq_error_iff.mp fails
  · refine (attempt_eq_error paced.ticks fails).imp_right ?_
    rintro ⟨rfl, late⟩
    exact ⟨rfl, Nat.lt_add_right _ late⟩
  · obtain late | ⟨-, -, rest⟩ := bind_eq_error_iff.mp rest
    · obtain ⟨rfl, w, asks, late⟩ := reachWakeup_eq_error_iff.mp late
      have soon := (paced.attempt attempted).soon w asks
      rw [now_attempt attempted, timing_attempt attempted] at soon
      exact .inr ⟨rfl, Nat.lt_of_lt_of_le late soon⟩
    · cases rest

/-! ## Reports -/

theorem report_eq_ok_iff {line : ReportLine} :
    s.report clock refused step = .ok (line, t) ↔
      ∃ a? u, s.take clock refused step = .ok (a?, u) ∧
        line = ⟨step.label, u.now / clock.perMillisecond, a?, u.dispatcher.notices,
          (Snapshot.ofDispatcher s.dispatcher).change? (.ofDispatcher u.dispatcher)⟩ ∧
        t = { u with dispatcher := { u.dispatcher with notices := [] } } := by
  rw [report, bind_eq_ok_iff]
  constructor
  · rintro ⟨⟨a?, u⟩, taken, rest⟩
    cases rest
    exact ⟨a?, u, taken, rfl, rfl⟩
  · rintro ⟨a?, u, taken, rfl, rfl⟩
    exact ⟨(a?, u), taken, rfl⟩

theorem report_eq_error_iff :
    s.report clock refused step = .error e ↔ s.take clock refused step = .error e := by
  rw [report, bind_eq_error_iff]
  exact or_iff_left (by simp)

theorem report_of_fault (faulty : step.fault? = some e) :
    s.report clock refused step = .error e :=
  report_eq_error_iff.mpr (bind_eq_error_iff.mpr (.inl (attempt_of_fault faulty)))

section

variable {line : ReportLine} (reported : s.report clock refused step = .ok (line, t))

include reported

theorem now_report : t.now = clock.after s.now step.duration := by
  obtain ⟨a?, u, taken, -, rfl⟩ := report_eq_ok_iff.mp reported
  have passed : u.now = clock.after s.now step.duration := now_attempt (take_eq_ok_iff.mp taken).1
  exact passed

theorem now_report_le (fits : s.now ≤ clock.last) : t.now ≤ clock.last := by
  obtain ⟨a?, u, taken, -, rfl⟩ := report_eq_ok_iff.mp reported
  have fits' : u.now ≤ clock.last := now_attempt_le fits (take_eq_ok_iff.mp taken).1
  exact fits'

theorem timing_report : t.dispatcher.timing = s.dispatcher.timing := by
  obtain ⟨a?, u, taken, -, rfl⟩ := report_eq_ok_iff.mp reported
  have same : u.dispatcher.timing = s.dispatcher.timing :=
    timing_attempt (take_eq_ok_iff.mp taken).1
  exact same

theorem Paced.report (paced : s.Paced) : t.Paced := by
  obtain ⟨a?, u, taken, -, rfl⟩ := report_eq_ok_iff.mp reported
  exact ⟨(paced.attempt (take_eq_ok_iff.mp taken).1).ticks,
    (paced.attempt (take_eq_ok_iff.mp taken).1).soon⟩

theorem fault?_of_report : step.fault? = none := by
  rw [Option.eq_none_iff_forall_ne_some]
  intro e faulty
  rw [report_of_fault faulty] at reported
  cases reported

end

end Session

end Shortcuts
