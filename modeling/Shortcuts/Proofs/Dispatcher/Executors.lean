import Shortcuts.Proofs.Dispatcher.Devices
/-!
# Executors do not disturb a dispatcher

Commands may be accepted or refused, and executors may remember what they like: nothing that a
dispatcher does afterwards depends on it.  The traces that an executor leaves are the outcome in an
answer and in a notice, and `forgetOutcome` wipes them out, as if every command had been accepted.
Then the runs of two executors are the same, step by step (`steps_forgetOutcome`).

Notices are the only part of a dispatcher that knows an executor, and nothing reads them but the
host.
-/

namespace Shortcuts

/-! ## Outcomes -/

/-- A command that was refused counts as executed. -/
def Answer.forgetOutcome : Answer → Answer
  | failed command bubbles => executed command bubbles
  | a => a

/-- A command that its executor refused, whatever it said, counts as executed. -/
def Notice.forgetOutcome : Notice → Notice
  | commandFailed command _ => actionExecuted command
  | n => n

def Reply.forgetOutcome : Reply → Reply
  | answer a => answer a.forgetOutcome
  | exit e => exit e
  | notices ns => notices (ns.map Notice.forgetOutcome)
  | done => done

theorem Reply.preventsDefault?_forgetOutcome (r : Reply) :
    r.forgetOutcome.preventsDefault? = r.preventsDefault? := by
  cases r with
  | answer a => cases a <;> rfl
  | _ => rfl

/-- What a plan comes to depends on an executor by the outcome alone. -/
theorem Plan.outcome_forgetOutcome (ask ask' : Call → Except CommandError Unit)
    (args : List Payload) (p : Plan) :
    (p.outcome ask args).1.forgetOutcome = (p.outcome ask' args).1.forgetOutcome ∧
      (p.outcome ask args).2.map Notice.forgetOutcome =
        (p.outcome ask' args).2.map Notice.forgetOutcome := by
  cases p with
  | answer a => exact ⟨rfl, rfl⟩
  | invoke m =>
    cases composed : composeArguments args m.payload with
    | error e => simp [outcome, composed]
    | ok given =>
      cases asked : ask (m.command, given) <;> cases asked' : ask' (m.command, given) <;>
        simp [outcome, composed, asked, asked', Answer.forgetOutcome, Notice.forgetOutcome]

namespace Dispatcher

def forgetOutcomes (d : Dispatcher) : Dispatcher :=
  { d with notices := d.notices.map Notice.forgetOutcome }

/-- A step without its outcomes: its calls and all of the states but the outcomes of old stay. -/
def Step.forgetOutcomes (x : Step) : Step :=
  ⟨x.before.forgetOutcomes, x.op, x.reply.forgetOutcome, x.calls, x.after.forgetOutcomes⟩

/-! ## Notices -/

variable (d : Dispatcher) (ns : List Notice) (op : Operation)

theorem plan?_withNotices : plan? { d with notices := ns } op = d.plan? op := by
  cases input : op.isInput with
  | true =>
    -- neither side of a dispatcher holds the notices
    have alike : (keyboardSide (op.clock 0) { d with notices := ns },
        mouseSide { d with notices := ns }) = (d.keyboardSide (op.clock 0), d.mouseSide) := rfl
    exact unwinding_input.shows input alike
  | false => rw [Operation.plan?_of_not_isInput input, Operation.plan?_of_not_isInput input]

theorem told_withNotices : told { d with notices := ns } op = d.told op := rfl

theorem move_withNotices :
    move { d with notices := ns } op =
      { d.move op with notices := noticesAfter { d with notices := ns } op } := by
  rw [move_eq, move_eq]
  rfl

theorem exit_withNotices (now : Nat) (hasFocus : Bool) :
    (tick { d with notices := ns } now hasFocus).1 = (d.tick now hasFocus).1 := by
  obtain ⟨table, timing, chord, gesture, consumed, held, tracks, notices⟩ := d
  cases chord with
  | none => cases hasFocus <;> rfl
  | some c =>
    cases hasFocus with
    | false => rfl
    | true => cases gone : c.isExpired now timing.timeout <;> simp [tick, gone]

/-! ## One step -/

section

variable {σ τ : Type} (exec : Executor σ) (exec' : Executor τ) (s : σ) (s' : τ) {d : Dispatcher}
  {ns : List Notice} (same : ns.map Notice.forgetOutcome = d.notices.map Notice.forgetOutcome)
  (op : Operation)

include same

theorem reply_forgetOutcome :
    (step exec s { d with notices := ns } op).1.reply.forgetOutcome =
      (step exec' s' d op).1.reply.forgetOutcome := by
  cases plan : d.plan? op with
  | some x =>
    obtain ⟨p, args⟩ := x
    have plan' : plan? { d with notices := ns } op = some (p, args) :=
      (plan?_withNotices d ns op).trans plan
    rw [reply_step exec s plan', reply_step exec' s' plan]
    exact congrArg Reply.answer (p.outcome_forgetOutcome _ _ args).1
  | none =>
    cases op with
    | handle input args look now => cases plan
    | handlePattern p args look now => cases plan
    | tick now hasFocus => exact congrArg Reply.exit (exit_withNotices d ns now hasFocus)
    | reset => rfl
    | setTable t => rfl
    | takeNotices => exact congrArg Reply.notices same

theorem after_forgetOutcomes :
    (step exec s { d with notices := ns } op).1.after.forgetOutcomes =
      (step exec' s' d op).1.after.forgetOutcomes := by
  have kept : (noticesAfter { d with notices := ns } op).map Notice.forgetOutcome =
      (d.move op).notices.map Notice.forgetOutcome := by
    rw [move_eq]
    unfold noticesAfter
    cases op with
    | takeNotices => rfl
    | _ => simp only [List.map_append, same, told_withNotices]
  have reported : (reported { d with notices := ns } (exec.ask s) op).map Notice.forgetOutcome =
      (d.reported (exec'.ask s') op).map Notice.forgetOutcome := by
    rw [Dispatcher.reported, Dispatcher.reported, plan?_withNotices]
    cases d.plan? op with
    | none => rfl
    | some x => exact (x.1.outcome_forgetOutcome _ _ x.2).2
  rw [after_step, after_step, move_withNotices, forgetOutcomes, forgetOutcomes]
  simp only [List.map_append, kept, reported]

theorem step_forgetOutcomes :
    (step exec s { d with notices := ns } op).1.forgetOutcomes =
      (step exec' s' d op).1.forgetOutcomes := by
  have before : forgetOutcomes { d with notices := ns } = d.forgetOutcomes := by
    rw [forgetOutcomes, forgetOutcomes, same]
  have calls : (step exec s { d with notices := ns } op).1.calls =
      (step exec' s' d op).1.calls := by
    rw [calls_step, calls_step, Dispatcher.calls, Dispatcher.calls, plan?_withNotices]
  rw [Step.forgetOutcomes, Step.forgetOutcomes, reply_forgetOutcome exec exec' s s' same,
    after_forgetOutcomes exec exec' s s' same, calls]
  exact congrArg (Step.mk · _ _ _ _) before

end

/-! ## Runs -/

theorem eq_withNotices {d e : Dispatcher} (same : e.forgetOutcomes = d.forgetOutcomes) :
    e = { d with notices := e.notices } ∧
      e.notices.map Notice.forgetOutcome = d.notices.map Notice.forgetOutcome := by
  obtain ⟨table, timing, chord, gesture, consumed, held, tracks, notices⟩ := e
  obtain ⟨rfl, rfl, rfl, rfl, rfl, rfl, rfl, alike⟩ := Dispatcher.mk.inj same
  exact ⟨rfl, alike⟩

/-- The runs of two executors are the same but for the outcomes of commands. -/
theorem steps_forgetOutcomes {σ τ : Type} (exec : Executor σ) (exec' : Executor τ) (s : σ) (s' : τ)
    {d e : Dispatcher} (same : e.forgetOutcomes = d.forgetOutcomes) (ops : List Operation) :
    (steps exec s e ops).map Step.forgetOutcomes =
      (steps exec' s' d ops).map Step.forgetOutcomes := by
  induction ops generalizing s s' d e with
  | nil => rfl
  | cons op ops ih =>
    obtain ⟨differ, notices⟩ := eq_withNotices same
    have first : (step exec s e op).1.forgetOutcomes = (step exec' s' d op).1.forgetOutcomes := by
      rw [differ]
      exact step_forgetOutcomes exec exec' s s' notices op
    rw [steps_cons, steps_cons, List.map_cons, List.map_cons, first]
    exact congrArg _ (ih _ _ (congrArg Step.after first))

/-- Executors do not disturb a dispatcher: whatever they do, its states, its calls and its answers
are the same up to outcomes, and so the host leaves the same inputs alone. -/
theorem run_independent_of_executor {σ τ : Type} (exec : Executor σ) (exec' : Executor τ) (s : σ)
    (s' : τ) (d : Dispatcher) (ops : List Operation) :
    (steps exec s d ops).map Step.forgetOutcomes =
        (steps exec' s' d ops).map Step.forgetOutcomes ∧
      (steps exec s d ops).map (·.reply.preventsDefault?) =
        (steps exec' s' d ops).map (·.reply.preventsDefault?) := by
  have same := steps_forgetOutcomes exec exec' s s' (d := d) rfl ops
  refine ⟨same, ?_⟩
  have forgets : (fun x : Step => x.reply.preventsDefault?) =
      (fun x => x.reply.preventsDefault?) ∘ Step.forgetOutcomes :=
    funext fun x => x.reply.preventsDefault?_forgetOutcome.symm
  rw [forgets, ← List.map_map, same, List.map_map]

end Dispatcher

end Shortcuts
