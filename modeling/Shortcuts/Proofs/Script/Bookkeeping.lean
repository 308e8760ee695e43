import Mathlib.Data.List.Forall2
import Shortcuts.Proofs.Resolution.Deciding
import Shortcuts.Proofs.Script.Plays
/-!
# The books of a script

Whether a script fails is decided by the texts of its steps alone (`play_complete`): once a step is
read, the dispatcher always answers, whatever its table, its timing, and the commands that the
executor refuses.  A script may also go past the last time of the clock.  Then it neither fails nor is
played to its end, as the program is aborted; its waits must be about as long as the clock goes for
that (`Script.eq_overflow_of_not_isReported`), and no script with longer ones is played to its end
(`Script.overflow_of_late`).

The report accounts for every call.  Each line takes the notices that its own step told, because the
host takes them after every step, so that calls, answers and notices can be matched line by line
(`settled_play`).  A step settles its command as the operation does that it hands to the dispatcher
(`settlement_perform`), and what else it does tells of no command.
-/

namespace Shortcuts

/-- Why a script's executor refuses a command. -/
def refusal (command : String) : CommandError := .failed (command ++ " rejected by replay")

/-- The notice about a call to a script's executor. -/
def verdict (refused : List String) (call : Call) : Notice :=
  if call.1 ∈ refused then .commandFailed call.1 (refusal call.1).message else .actionExecuted call.1

/-- What a step may be answered, with the calls that it makes and what it tells of commands. -/
inductive Settlement (refused : List String) : Option Answer → Calls → List Notice → Prop
  | accepted (command : String) (given : List Payload) (bubbles : Bool) : command ∉ refused →
    Settlement refused (some (.executed command bubbles)) [(command, given)]
      [.actionExecuted command]
  | refused (command : String) (given : List Payload) (bubbles : Bool) : command ∈ refused →
    Settlement refused (some (.failed command bubbles)) [(command, given)]
      [.commandFailed command (refusal command).message]
  | rejected (command : String) (bubbles : Bool) (missing : MissingArgument) :
    Settlement refused (some (.failed command bubbles)) []
      [.argumentsRejected command missing.message]
  | idle {a? : Option Answer} : a?.bind Answer.command? = none → Settlement refused a? [] []

/-- Whether a notice is about a call. -/
def Notice.isVerdict : Notice → Bool
  | actionExecuted _ | commandFailed _ _ => true
  | _ => false

/-- The command that has failed. -/
def Answer.failed? : Answer → Option String
  | failed command _ => some command
  | _ => none

/-- The command that has failed without a call. -/
def uncalled? (a? : Option Answer) : Calls → Option String
  | [] => a?.bind Answer.failed?
  | _ :: _ => none

/-- A line of a report accounts for the calls of its step. -/
def ReportLine.Settles (refused : List String) (line : ReportLine) (calls : Calls) : Prop :=
  Settlement refused line.answer calls (line.notices.filter Notice.isOutcome)

/-- How many milliseconds pass in a script. -/
def Script.duration (script : Script) : Nat := (script.steps.map Step.duration).sum

/-- The report of a script accounts for the calls of its steps. -/
structure Script.Accounts (script : Script) (lines : List ReportLine) (made : List Calls) : Prop where
  steps : lines.map ReportLine.step = script.steps.map Step.label
  times (i : Nat) (line : ReportLine) : lines[i]? = some line →
    line.time = ((script.steps.take (i + 1)).map Step.duration).sum
  settles : List.Forall₂ (ReportLine.Settles script.refused) lines made
  /-- One notice for each call. -/
  verdicts : (lines.flatMap ReportLine.notices).filter Notice.isVerdict =
    made.flatten.map (verdict script.refused)
  /-- One notice for each command that has failed otherwise. -/
  rejections : ((lines.flatMap ReportLine.notices).filterMap Notice.rejected?).map Prod.fst =
    (lines.zip made).filterMap fun x => uncalled? x.1.answer x.2

/-! ## One line -/

theorem Notice.filter_isVerdict (ns : List Notice) :
    (ns.filter isOutcome).filter isVerdict = ns.filter isVerdict := by
  rw [List.filter_filter]
  refine List.filter_congr fun n _ => ?_
  cases n <;> rfl

namespace Settlement

variable {refused : List String} {a? : Option Answer} {calls : Calls} {told : List Notice}
  (settlement : Settlement refused a? calls told)

include settlement

theorem filter_isVerdict : told.filter Notice.isVerdict = calls.map (verdict refused) := by
  cases settlement with
  | accepted command given bubbles accepts => simp [Notice.isVerdict, verdict, accepts]
  | refused command given bubbles refuses => simp [Notice.isVerdict, verdict, refuses]
  | rejected command bubbles missing => rfl
  | idle about => rfl

theorem filterMap_rejected? :
    (told.filterMap Notice.rejected?).map Prod.fst = (uncalled? a? calls).toList := by
  cases settlement with
  | accepted command given bubbles accepts => rfl
  | refused command given bubbles refuses => rfl
  | rejected command bubbles missing => rfl
  | idle about =>
    cases a? with
    | none => rfl
    | some a => cases a <;> first | rfl | cases about

end Settlement

namespace ReportLine.Settles

variable {refused : List String} {line : ReportLine} {calls : Calls}

theorem verdicts (settles : line.Settles refused calls) :
    line.notices.filter Notice.isVerdict = calls.map (verdict refused) := by
  rw [← Notice.filter_isVerdict]
  exact settles.filter_isVerdict

theorem rejections (settles : line.Settles refused calls) :
    (line.notices.filterMap Notice.rejected?).map Prod.fst =
      (uncalled? line.answer calls).toList := by
  have others (n : Notice) (other : n.isOutcome = false) : n.rejected? = none := by
    cases n <;> first | rfl | cases other
  rw [← Notice.filterMap_filter_isOutcome others]
  exact settles.filterMap_rejected?

end ReportLine.Settles

/-! ## One step -/

section

variable {refused : List String} {calls : Calls} {call : Call}

theorem ask_recorder_eq_ok_iff :
    (recorder refused).ask calls call = .ok () ↔ call.1 ∉ refused := by
  simp [Executor.ask, recorder]

theorem ask_recorder_eq_error_iff {e : CommandError} :
    (recorder refused).ask calls call = .error e ↔ call.1 ∈ refused ∧ e = refusal call.1 := by
  by_cases refuses : call.1 ∈ refused
  · simp [Executor.ask, recorder, refusal, refuses, eq_comm]
  · simp [Executor.ask, recorder, refuses]

end

namespace Dispatcher

variable {refused : List String} {calls after : Calls} {d e : Dispatcher} {op : Operation} {a : Answer}

theorem settle_recorder (refused : List String) (calls : Calls) (args : List Payload)
    (x : Plan × Dispatcher) :
    (settle (recorder refused) calls args x).2.2 = calls ++ x.1.calls args := by
  obtain ⟨p, d⟩ := x
  cases p with
  | answer a => simp [settle, Plan.calls]
  | invoke m =>
    cases composed : composeArguments args m.payload with
    | error missing => simp [settle, invoke, Plan.calls, composed]
    | ok given =>
      by_cases refuses : m.command ∈ refused <;>
        simp [settle, invoke, recorder, Plan.calls, composed, refuses]

theorem perform_recorder (refused : List String) (calls : Calls) (d : Dispatcher) (op : Operation) :
    (perform (recorder refused) calls d op).2.2 = calls ++ d.calls op := by
  rw [Dispatcher.calls]
  cases plan : d.plan? op with
  | some x =>
    obtain ⟨p, args⟩ := x
    rw [perform_plan _ _ plan]
    exact settle_recorder refused calls args (p, d.move op)
  | none => rw [perform_idle _ _ plan, List.append_nil]

/-- An operation that is answered settles its command. -/
theorem settlement_entry (reply : (entry (recorder refused) calls d op).step.reply = .answer a) :
    Settlement refused (some a) (d.calls op)
      ((entry (recorder refused) calls d op).step.told.filter Notice.isOutcome) := by
  have all := receipts_entry d op (recorder refused) calls
  cases settled_entry d op (recorder refused) calls with
  | accepted m given _ receipts _ answered told =>
    rw [all, List.map_eq_singleton_iff] at receipts
    obtain ⟨call, made, receipt⟩ := receipts
    obtain ⟨rfl, asked⟩ := Receipt.mk.inj receipt
    cases reply.symm.trans answered
    rw [made, told]
    exact .accepted m.command given m.bubbles (ask_recorder_eq_ok_iff.mp asked)
  | refused m given error _ receipts _ answered told =>
    rw [all, List.map_eq_singleton_iff] at receipts
    obtain ⟨call, made, receipt⟩ := receipts
    obtain ⟨rfl, asked⟩ := Receipt.mk.inj receipt
    obtain ⟨refuses, rfl⟩ := ask_recorder_eq_error_iff.mp asked
    cases reply.symm.trans answered
    rw [made, told]
    exact .refused m.command given m.bubbles refuses
  | rejected m missing _ receipts _ answered told =>
    rw [all, List.map_eq_nil_iff] at receipts
    cases reply.symm.trans answered
    rw [receipts, told]
    exact .rejected m.command m.bubbles missing
  | idle receipts _ about told =>
    rw [all, List.map_eq_nil_iff] at receipts
    rw [reply] at about
    rw [receipts, told]
    exact .idle about

theorem settlement_perform
    (performed : d.perform (recorder refused) calls op = (.answer a, e, after)) :
    ∃ made told, after = calls ++ made ∧ e.notices = d.notices ++ told ∧
      Settlement refused (some a) made (told.filter Notice.isOutcome) := by
  have stepped : step (recorder refused) calls d op = (⟨d, op, .answer a, d.calls op, e⟩, after) := by
    rw [step_eq, performed]
  have made := perform_recorder refused calls d op
  have told := taken_append_notices (recorder refused) calls d op
  rw [performed] at made
  rw [stepped] at told
  refine ⟨d.calls op, _, made, told, ?_⟩
  rw [← congrArg Prod.fst stepped]
  exact settlement_entry (congrArg (·.1.reply) stepped)

end Dispatcher

namespace Session

open Dispatcher

variable {clock : Clock} {refused : List String} {s t : Session}

/-- A step settles its command. -/
theorem settlement_take {step : Step} {a? : Option Answer}
    (taken : s.take clock refused step = .ok (a?, t)) :
    ∃ made told, t.calls = s.calls ++ made ∧ t.dispatcher.notices = s.dispatcher.notices ++ told ∧
      Settlement refused a? made (told.filter Notice.isOutcome) := by
  obtain ⟨rfl, calls, idles⟩ | ⟨op, a, d, -, performed, rfl, idles⟩ :=
    attempt_eq_ok (take_eq_ok_iff.mp taken).1
  · obtain ⟨told, notices, quiet⟩ := idles.told
    refine ⟨[], told, by rw [calls, List.append_nil], notices, ?_⟩
    rw [quiet]
    exact .idle rfl
  · obtain ⟨told', later, quiet⟩ := idles.told
    obtain ⟨made, told, calls, earlier, settlement⟩ := settlement_perform performed
    refine ⟨made, told ++ told', calls, by rw [later, earlier, List.append_assoc], ?_⟩
    rwa [List.filter_append, quiet, List.append_nil]

/-! ## Whole scripts -/

variable {steps : List Step} {lines : List ReportLine}

theorem settled_play (fresh : s.dispatcher.notices = [])
    (played : s.play clock refused steps = .ok (lines, t)) :
    ∃ made, t.calls = s.calls ++ made.flatten ∧
      List.Forall₂ (ReportLine.Settles refused) lines made := by
  induction steps generalizing s lines with
  | nil =>
    cases played
    exact ⟨[], (List.append_nil _).symm, .nil⟩
  | cons step steps ih =>
    obtain ⟨line, u, later, reported, rest, rfl⟩ := play_cons_eq_ok_iff.mp played
    obtain ⟨a?, v, taken, rfl, rfl⟩ := report_eq_ok_iff.mp reported
    obtain ⟨now, told, calls, notices, settlement⟩ := settlement_take taken
    obtain ⟨made, all, settled⟩ := ih rfl rest
    -- the notices of the steps before are taken, so the line has those of its own step
    have notices : v.dispatcher.notices = told := by rw [notices, fresh, List.nil_append]
    refine ⟨now :: made, ?_, .cons ?_ settled⟩
    · rw [all, calls, List.flatten_cons, List.append_assoc]
    · rwa [ReportLine.Settles, notices]

theorem time_play (played : s.play clock refused steps = .ok (lines, t)) {i : Nat} {line : ReportLine}
    (found : lines[i]? = some line) :
    line.time =
      clock.after s.now ((steps.take (i + 1)).map Step.duration).sum / clock.perMillisecond := by
  induction steps generalizing s lines i with
  | nil =>
    cases played
    cases found
  | cons step steps ih =>
    obtain ⟨first, u, later, reported, rest, rfl⟩ := play_cons_eq_ok_iff.mp played
    obtain ⟨a?, v, taken, rfl, rfl⟩ := report_eq_ok_iff.mp reported
    have now : v.now = clock.after s.now step.duration :=
      now_attempt (take_eq_ok_iff.mp taken).1
    rw [List.take_succ_cons, List.map_cons, List.sum_cons, ← Clock.after_after, ← now]
    cases i with
    | zero =>
      cases found
      exact congrArg (· / clock.perMillisecond) (clock.after_zero v.now).symm
    | succ i => exact ih rest found

end Session

section

variable {refused : List String} {lines : List ReportLine} {made : List Calls}
  (settled : List.Forall₂ (ReportLine.Settles refused) lines made)

include settled

theorem verdicts_of_settled :
    (lines.flatMap ReportLine.notices).filter Notice.isVerdict =
      made.flatten.map (verdict refused) := by
  induction settled with
  | nil => rfl
  | cons settles _ ih =>
    rw [List.flatMap_cons, List.filter_append, settles.verdicts, ih, List.flatten_cons,
      List.map_append]

theorem rejections_of_settled :
    ((lines.flatMap ReportLine.notices).filterMap Notice.rejected?).map Prod.fst =
      (lines.zip made).filterMap fun x => uncalled? x.1.answer x.2 := by
  induction settled with
  | nil => rfl
  | @cons line calls _ _ settles _ ih =>
    rw [List.flatMap_cons, List.filterMap_append, List.map_append, settles.rejections, ih,
      List.zip_cons_cons, List.filterMap_cons]
    dsimp only
    cases uncalled? line.answer calls <;> rfl

end

namespace Script

variable {clock : Clock} {script : Script} {table : RuleTable} {timing : ChordTiming} {e : ScriptError}

theorem now_start : (Session.start script table timing).now = 0 := rfl

/-- A script that is not played to its end fails for its first faulty step, or goes past the last time
of the clock. -/
theorem playOn_eq_error (ticks : 0 < timing.tick)
    (fails : script.playOn clock table timing = .error e) :
    script.steps.findSome? Step.fault? = some e ∨
      e = .overflow ∧ clock.last < script.duration * clock.perMillisecond + timing.tick := by
  have ends := Session.play_eq_error (Session.paced_start script table ticks)
    (playOn_eq_error_iff.mp fails)
  rwa [now_start, Clock.after, Nat.zero_add] at ends

/-- The only end without a report is at the last time of the clock: the checks of a wait always end. -/
theorem eq_overflow_of_not_isReported (ticks : 0 < timing.tick)
    (fails : script.playOn clock table timing = .error e) (unreported : e.isReported = false) :
    e = .overflow ∧ clock.last < script.duration * clock.perMillisecond + timing.tick := by
  obtain faulty | late := playOn_eq_error ticks fails
  · obtain ⟨step, -, faulty⟩ := List.exists_of_findSome?_eq_some faulty
    rw [Step.isReported_of_fault? faulty] at unreported
    cases unreported
  · exact late

theorem overflow_of_late (ticks : 0 < timing.tick) (readable : ∀ step ∈ script.steps, step.IsReadable)
    (late : clock.last < script.duration * clock.perMillisecond) :
    script.playOn clock table timing = .error .overflow := by
  cases result : script.playOn clock table timing with
  | ok x =>
    obtain ⟨t, all, -⟩ := playOn_eq_ok_iff.mp result
    have fits := Session.now_play_le all (Nat.zero_le _)
    rw [Session.now_play all, now_start, Clock.after, Nat.zero_add] at fits
    exact absurd late (Nat.not_lt.mpr fits)
  | error e =>
    have sound : script.steps.findSome? Step.fault? = none :=
      List.findSome?_eq_none_iff.mpr fun step member =>
        (Step.fault?_eq_none_iff step).mpr (readable step member)
    obtain faulty | ⟨rfl, -⟩ := playOn_eq_error ticks result
    · rw [sound] at faulty
      cases faulty
    · rfl

/-- A clock holds five hundred waits of the longest kind, and no more. -/
example (table : RuleTable) :
    let script : Script := ⟨.empty, [], true, .replicate 501 (.wait 0xffffffffffffffff)⟩
    script.playOn (.nanoseconds 0) table ⟨5000000000, 500000000⟩ = .error .overflow := by
  intro script
  have readable (step : Step) (member : step ∈ script.steps) : step.IsReadable := by
    rw [List.eq_of_mem_replicate member]
    trivial
  exact overflow_of_late (by decide) readable (by decide +kernel)

theorem exists_error_iff (ticks : 0 < timing.tick)
    (holds : script.playOn clock table timing ≠ .error .overflow) :
    (∃ e, script.playOn clock table timing = .error e) ↔
      ∃ step ∈ script.steps, ¬ step.IsReadable := by
  constructor
  · rintro ⟨e, fails⟩
    obtain faulty | ⟨rfl, -⟩ := playOn_eq_error ticks fails
    · obtain ⟨step, member, faulty⟩ := List.exists_of_findSome?_eq_some faulty
      refine ⟨step, member, fun readable => ?_⟩
      rw [(Step.fault?_eq_none_iff step).mpr readable] at faulty
      cases faulty
    · exact absurd fails holds
  · rintro ⟨step, member, unreadable⟩
    cases result : script.playOn clock table timing with
    | ok x =>
      obtain ⟨t, all, -⟩ := playOn_eq_ok_iff.mp result
      have sound := Session.fault?_of_play all step member
      exact absurd ((Step.fault?_eq_none_iff step).mp sound) unreadable
    | error e => exact ⟨e, rfl⟩

/-- The report has one line for each step, with the time that has passed by then, and accounts for
every call. -/
theorem exists_accounts {lines : List ReportLine} {calls : Calls}
    (played : script.playOn clock table timing = .ok (lines, calls)) :
    ∃ made, calls = made.flatten ∧ script.Accounts lines made := by
  obtain ⟨t, all, rfl⟩ := playOn_eq_ok_iff.mp played
  obtain ⟨made, calls, settled⟩ := Session.settled_play rfl all
  refine ⟨made, calls, Session.label_play all, ?_, settled, verdicts_of_settled settled,
    rejections_of_settled settled⟩
  intro i line found
  rw [Session.time_play all found, now_start, Clock.after, Nat.zero_add]
  exact Nat.mul_div_cancel _ clock.positive

end Script

end Shortcuts
