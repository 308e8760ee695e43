import Shortcuts.Proofs.Dispatcher.Devices
/-!
# Late, missing and additional checks on a chord

A host is asked to check on the chord in progress from time to time, while it has the focus.  It
need not be punctual: `responses_with_checks` adds checks anywhere to a run, and every input is
answered as before and makes the calls that it made before.  A check may drop a chord that has
waited too long, and then the two runs differ in the chord that they hold until an input drops it in
the other run as well; no key tells that chord from none.
-/

namespace Shortcuts

namespace Dispatcher

open Operation (NeverGoesBack Omits)

variable {σ : Type}

/-- All calls of a run, in order. -/
def submitted (exec : Executor σ) (s : σ) (d : Dispatcher) (ops : List Operation) : List Call :=
  (steps exec s d ops).flatMap Step.calls

/-- Only inputs make calls. -/
theorem submitted_eq (exec : Executor σ) (s : σ) (d : Dispatcher) (ops : List Operation) :
    submitted exec s d ops =
      (responses Operation.isInput exec s d ops).flatMap Response.calls := by
  induction ops generalizing s d with
  | nil => rfl
  | cons op ops ih =>
    have rest := ih (step exec s d op).2 (step exec s d op).1.after
    rw [submitted] at rest
    rw [submitted, steps_cons, List.flatMap_cons, rest, responses_cons, List.flatMap_append]
    cases input : op.isInput with
    | true => simp [Step.response]
    | false => simp [calls_step, calls, Operation.plan?_of_not_isInput input d]

/-- Checks that are added to a run change no answer to an input, and no call. -/
theorem responses_with_checks {exec : Executor σ} (steady : exec.IsSteady)
    {ops more : List Operation} (forward : NeverGoesBack more)
    (added : Omits Operation.isLivenessCheck more ops) (s : σ) (d : Dispatcher) :
    responses Operation.isInput exec s d more = responses Operation.isInput exec s d ops ∧
      submitted exec s d more = submitted exec s d ops := by
  have same := unwinding_input.responses_eq_of_omits steady added forward s d
  refine ⟨same.symm, ?_⟩
  rw [submitted_eq, submitted_eq, same]

/-- A check drops a chord that has waited too long, and the next key is answered as without it. -/
theorem responses_with_checks_stale :
    let k := Stroke.ofKey (.char 'k') .onlyCtrl
    let press := fun now =>
      Operation.handle (.keyDown (.press (.char 'k') .onlyCtrl)) [] Context.empty.get? now
    let check := fun now => Operation.tick now true
    let exec : Executor Unit := fun s _ _ => (.ok (), s)
    let d := new (RuleTable.ofRules [.run (.chord k k) "saveAll"]) .standard false
    responses Operation.isInput exec () d [press 0, check 500, check 6000, press 9000] =
        responses Operation.isInput exec () d [press 0, press 9000] ∧
      submitted exec () d [press 0, check 500, check 6000, press 9000] =
        submitted exec () d [press 0, press 9000] := by
  intro k press check exec d
  have steady : exec.IsSteady := fun _ _ _ => rfl
  have forward : NeverGoesBack [press 0, check 500, check 6000, press 9000] := by
    have times : [press 0, check 500, check 6000, press 9000].filterMap Operation.now? =
        [0, 500, 6000, 9000] := rfl
    rw [NeverGoesBack, times]
    decide
  exact responses_with_checks steady forward
    (.keep _ (.skip rfl (.skip rfl (.keep _ .nil)))) () d

end Dispatcher

end Shortcuts
