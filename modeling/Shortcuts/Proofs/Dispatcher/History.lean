import Shortcuts.Proofs.Dispatcher.Run
/-!
# Histories of a dispatcher

`steps` is a whole run as somebody sees it who may look into the dispatcher: for each operation, the
states before and after it, what it was answered and the calls that it made.  A host sees a part of
that (`observe_eq`).  What holds at one step because of the steps before it is stated on a split of
the list of steps, and proved from an invariant that ties a state to its past (`inv_of_split`);
`Since` is the form that most such facts have.
-/

namespace Shortcuts

/-- When an operation happens, if the host tells. -/
def Operation.now? : Operation → Option Nat
  | .handle _ _ _ now | .handlePattern _ _ _ now | .tick now _ => some now
  | .reset | .setTable _ | .takeNotices => none

namespace Dispatcher

/-- One operation of a run, with the dispatcher before and after it. -/
structure Step where
  before : Dispatcher
  op : Operation
  reply : Reply
  calls : List Call
  after : Dispatcher

def Step.observation (x : Step) : Observation :=
  ⟨x.reply, x.calls, x.after.notices, x.after.nextWakeup⟩

/-- Some step of the past was a `start`, and all steps after it were `calm`. -/
def Since (start calm : Step → Prop) (past : List Step) : Prop :=
  ∃ older x newer, past = older ++ x :: newer ∧ start x ∧ ∀ y ∈ newer, calm y

theorem Since.now {start calm : Step → Prop} {x : Step} (past : List Step) (starts : start x) :
    Since start calm (past ++ [x]) :=
  ⟨past, x, [], rfl, starts, by simp⟩

theorem Since.later {start calm : Step → Prop} {past : List Step} {x : Step}
    (since : Since start calm past) (still : calm x) : Since start calm (past ++ [x]) := by
  obtain ⟨older, y, newer, rfl, starts, calms⟩ := since
  refine ⟨older, y, newer ++ [x], by simp, starts, ?_⟩
  intro z hz
  rw [List.mem_append, List.mem_singleton] at hz
  obtain hz | rfl := hz
  · exact calms z hz
  · exact still

/-- Something has been so since a `start` if the last step is one, or keeps it so. -/
theorem since_append {start calm : Step → Prop} {past : List Step} {x : Step} :
    Since start calm (past ++ [x]) ↔ start x ∨ calm x ∧ Since start calm past := by
  constructor
  · rintro ⟨older, y, newer, split, starts, calms⟩
    obtain rfl | ⟨between, z, rfl⟩ := newer.eq_nil_or_concat
    · obtain ⟨-, same⟩ := List.append_inj' split rfl
      cases same
      exact .inl starts
    · rw [List.concat_eq_append] at split calms
      rw [← List.cons_append, ← List.append_assoc] at split
      obtain ⟨rfl, same⟩ := List.append_inj' split rfl
      cases same
      refine .inr ⟨calms x (by simp), older, y, between, rfl, starts, ?_⟩
      intro w hw
      exact calms w (by simp [hw])
  · rintro (starts | ⟨still, since⟩)
    · exact .now past starts
    · exact since.later still

variable {σ : Type}

def step (exec : Executor σ) (s : σ) (d : Dispatcher) (op : Operation) : Step × σ :=
  let (reply, after, s, calls) := perform exec.recording (s, []) d op
  (⟨d, op, reply, calls, after⟩, s)

@[simp] theorem op_step (exec : Executor σ) (s : σ) (d : Dispatcher) (op : Operation) :
    (step exec s d op).1.op = op := rfl

def steps (exec : Executor σ) (s : σ) (d : Dispatcher) : List Operation → List Step
  | [] => []
  | op :: ops =>
    let (x, s) := step exec s d op
    x :: steps exec s x.after ops

theorem steps_cons (exec : Executor σ) (s : σ) (d : Dispatcher) (op : Operation)
    (ops : List Operation) :
    steps exec s d (op :: ops) =
      (step exec s d op).1 :: steps exec (step exec s d op).2 (step exec s d op).1.after ops :=
  rfl

/-- A run goes on from its first step, whatever is known of that step. -/
theorem exists_steps_cons (exec : Executor σ) (s : σ) (d : Dispatcher) (op : Operation)
    (ops : List Operation) :
    ∃ x s', x = (step exec s d op).1 ∧ steps exec s d (op :: ops) = x :: steps exec s' x.after ops :=
  ⟨_, _, rfl, rfl⟩

theorem observe_eq (exec : Executor σ) (s : σ) (d : Dispatcher) (ops : List Operation) :
    observe exec s d ops = (steps exec s d ops).map Step.observation := by
  induction ops generalizing s d with
  | nil => rfl
  | cons op ops ih => exact congrArg _ (ih _ _)

/-- The dispatcher after a run. -/
def run (exec : Executor σ) (s : σ) (d : Dispatcher) : List Operation → Dispatcher
  | [] => d
  | op :: ops =>
    let (x, s) := step exec s d op
    run exec s x.after ops

theorem run_cons (exec : Executor σ) (s : σ) (d : Dispatcher) (op : Operation)
    (ops : List Operation) :
    run exec s d (op :: ops) = run exec (step exec s d op).2 (step exec s d op).1.after ops :=
  rfl

/-- What one step keeps holds after every run. -/
theorem inv_run {exec : Executor σ} {s : σ} {d : Dispatcher} {inv : Dispatcher → Prop}
    (start : inv d) (keeps : ∀ d s op, inv d → inv (step exec s d op).1.after)
    (ops : List Operation) : inv (run exec s d ops) := by
  induction ops generalizing s d with
  | nil => exact start
  | cons op ops ih => exact ih (keeps d s op start)

theorem exists_step_of_mem {exec : Executor σ} {s : σ} {d : Dispatcher} {ops : List Operation}
    {x : Step} (mem : x ∈ steps exec s d ops) : ∃ s, x = (step exec s x.before x.op).1 := by
  induction ops generalizing s d with
  | nil => cases mem
  | cons op ops ih =>
    rw [steps_cons, List.mem_cons] at mem
    obtain rfl | later := mem
    · exact ⟨s, rfl⟩
    · exact ih later

/-- What one step keeps, in view of the steps done before it, holds before every step of a run. -/
theorem inv_of_split_from {exec : Executor σ} {s : σ} {d : Dispatcher} {ops : List Operation}
    {inv : List Step → Dispatcher → Prop} {done past newer : List Step} {x : Step}
    (start : inv done d)
    (keeps : ∀ past d s op, inv past d →
      inv (past ++ [(step exec s d op).1]) (step exec s d op).1.after)
    (split : steps exec s d ops = past ++ x :: newer) :
    inv (done ++ past) x.before ∧ ∃ s, x = (step exec s x.before x.op).1 := by
  induction ops generalizing done d s past with
  | nil => simp [steps] at split
  | cons op ops ih =>
    cases past with
    | nil =>
      obtain ⟨rfl, -⟩ := List.cons.inj split
      rw [List.append_nil]
      exact ⟨start, s, rfl⟩
    | cons first past =>
      obtain ⟨rfl, rest⟩ := List.cons.inj split
      rw [List.append_cons]
      exact ih (keeps done d s op start) rest

/-- An invariant that ties a dispatcher to its past, from the start of a run. -/
theorem inv_of_split {exec : Executor σ} {s : σ} {d : Dispatcher} {ops : List Operation}
    {inv : List Step → Dispatcher → Prop} {past newer : List Step} {x : Step} (start : inv [] d)
    (keeps : ∀ past d s op, inv past d →
      inv (past ++ [(step exec s d op).1]) (step exec s d op).1.after)
    (split : steps exec s d ops = past ++ x :: newer) :
    inv past x.before ∧ ∃ s, x = (step exec s x.before x.op).1 :=
  inv_of_split_from start keeps split

end Dispatcher

end Shortcuts
