import Shortcuts.Proofs.Dispatcher.Transition
/-!
# The notices of a run

A host takes the notices that wait for it when it likes.  However it does so, what it took and what
still waits is, in order, what the steps of the run told it (`taken_append_waiting`): nothing is
lost and nothing is told twice.
-/

namespace Shortcuts

/-- Whether a notice is about what became of a command. -/
def Notice.isOutcome : Notice → Bool
  | commandFailed _ _ | argumentsRejected _ _ | actionExecuted _ => true
  | chordStarted _ | chordCleared | notACommand _ _ => false

namespace Dispatcher

namespace Step

/-- The notices that a step adds to those that wait. -/
def told (x : Step) : List Notice := x.after.notices.drop x.before.notices.length

/-- The notices that the host takes in a step. -/
def taken (x : Step) : List Notice :=
  match x.reply with
  | .notices ns => ns
  | _ => []

end Step

variable {σ : Type} (exec : Executor σ) (s : σ) (d : Dispatcher) (op : Operation)

/-- A step tells what the operation decides, and then what becomes of its command. -/
theorem told_step : (step exec s d op).1.told = d.told op ++ d.reported (exec.ask s) op := by
  have before : (step exec s d op).1.before = d := rfl
  rw [Step.told, before, after_step, move_eq]
  cases op with
  | takeNotices =>
    rw [noticesAfter, List.nil_append]
    exact List.drop_of_length_le (Nat.zero_le _)
  | _ => simp [noticesAfter]

/-- If no command runs, a step tells what the operation decides. -/
theorem told_step_of_answer {op : Operation} {b : Binding} {look : Lookup} {now : Nat} {a : Answer}
    (offered : d.offer? op = some (b, look, now)) (plan : (d.reaction b look now).plan = .answer a) :
    (step exec s d op).1.told = d.expiry now ++ (d.reaction b look now).told := by
  have quiet : d.reported (exec.ask s) op = [] := by
    rw [reported, plan?_of_offer offered, plan]
    rfl
  rw [told_step, quiet, List.append_nil, told_of_offer offered]

/-- What waits for the host was told to it, and taken or not. -/
theorem taken_append_notices :
    (step exec s d op).1.taken ++ (step exec s d op).1.after.notices =
      d.notices ++ (step exec s d op).1.told := by
  rw [told_step, after_step, move_eq]
  cases op with
  | takeNotices => rfl
  | handle input args look now => simp [Step.taken, step, perform, noticesAfter]
  | handlePattern p args look now => simp [Step.taken, step, perform, noticesAfter]
  | tick now hasFocus => simp [Step.taken, step, perform, noticesAfter]
  | reset => simp [Step.taken, step, perform, noticesAfter]
  | setTable t => simp [Step.taken, step, perform, noticesAfter]

theorem taken_append_waiting (ops : List Operation) :
    (steps exec s d ops).flatMap Step.taken ++ (run exec s d ops).notices =
      d.notices ++ (steps exec s d ops).flatMap Step.told := by
  induction ops generalizing s d with
  | nil => simp [steps, run]
  | cons op ops ih =>
    rw [steps_cons, run_cons, List.flatMap_cons, List.flatMap_cons, List.append_assoc, ih,
      ← List.append_assoc, taken_append_notices, List.append_assoc]

theorem isOutcome_of_mem_reported {ask : Call → Except CommandError Unit} {n : Notice}
    (mem : n ∈ d.reported ask op) : n.isOutcome = true := by
  rw [reported] at mem
  cases plan : d.plan? op with
  | none => simp [plan] at mem
  | some x =>
    obtain ⟨p, args⟩ := x
    rw [plan] at mem
    cases p with
    | answer a => cases mem
    | invoke m =>
      dsimp only [Plan.outcome] at mem
      repeat' split at mem
      all_goals
        rw [List.mem_singleton.mp mem]
        rfl

end Dispatcher

end Shortcuts
