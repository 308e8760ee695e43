import Shortcuts.Proofs.Dispatcher.Transition
/-!
# Leaving operations out of a run

When does a run answer some of its operations as before although others are left out?  `Unwinding`
asks for a view of a dispatcher that the operations which are left out do not change, that every
operation carries on from itself alone, and that decides the answers in question.  These are
conditions on single steps; `responses_eq` concludes the same of runs.

A view may depend on the time, for what is in progress goes stale by itself.  So a clock that goes
back is excluded: two dispatchers may look alike although only one of them has dropped a stale
chord, and they would be told apart at an earlier time.
-/

namespace Shortcuts

/-- An executor whose answer depends on the command and the arguments alone. -/
def Executor.IsSteady {σ : Type} (exec : Executor σ) : Prop :=
  ∀ s s' call, exec.ask s call = exec.ask s' call

namespace Operation

/-- The time when an operation happens; one that does not tell happens at the time it is. -/
def clock (now : Nat) (op : Operation) : Nat := op.now?.getD now

theorem clock_of_offer {d : Dispatcher} {op : Operation} {b : Binding} {look : Lookup} {t : Nat}
    (now : Nat) (offered : d.offer? op = some (b, look, t)) : op.clock now = t := by
  rw [clock, Dispatcher.now?_of_offer offered, Option.getD_some]

def NeverGoesBack (ops : List Operation) : Prop := (ops.filterMap now?).Pairwise (· ≤ ·)

/-- No operation of a run happens before `now`, and none before another that precedes it. -/
def GoesOn (now : Nat) (ops : List Operation) : Prop :=
  (∀ t ∈ ops.filterMap now?, now ≤ t) ∧ NeverGoesBack ops

theorem GoesOn.step {now : Nat} {op : Operation} {ops : List Operation}
    (forward : GoesOn now (op :: ops)) :
    now ≤ op.clock now ∧ GoesOn (op.clock now) ops := by
  obtain ⟨bound, ordered⟩ := forward
  cases told : op.now? with
  | none =>
    rw [NeverGoesBack, List.filterMap_cons_none told] at ordered
    rw [List.filterMap_cons_none told] at bound
    rw [clock, told]
    exact ⟨Nat.le_refl now, bound, ordered⟩
  | some t =>
    rw [NeverGoesBack, List.filterMap_cons_some told, List.pairwise_cons] at ordered
    rw [List.filterMap_cons_some told, List.forall_mem_cons] at bound
    rw [clock, told]
    exact ⟨bound.1, ordered⟩

/-- A run without some of its operations, all of which may be left out. -/
inductive Omits (hidden : Operation → Bool) : List Operation → List Operation → Prop
  | nil : Omits hidden [] []
  | keep {ops fewer : List Operation} (op : Operation) :
    Omits hidden ops fewer → Omits hidden (op :: ops) (op :: fewer)
  | skip {op : Operation} {ops fewer : List Operation} :
    hidden op → Omits hidden ops fewer → Omits hidden (op :: ops) fewer

theorem omits_filter (hidden : Operation → Bool) (ops : List Operation) :
    Omits hidden ops (ops.filter (!hidden ·)) := by
  induction ops with
  | nil => exact .nil
  | cons op ops ih =>
    cases left : hidden op with
    | true =>
      rw [List.filter_cons_of_neg (by simp [left])]
      exact .skip left ih
    | false =>
      rw [List.filter_cons_of_pos (by simp [left])]
      exact .keep op ih

end Operation

namespace Dispatcher

open Operation (GoesOn NeverGoesBack Omits)

structure Response where
  op : Operation
  reply : Reply
  calls : List Call

def Step.response (x : Step) : Response := ⟨x.op, x.reply, x.calls⟩

variable {σ : Type}

/-- What came of the operations of a run that are looked at, in order. -/
def responses (shown : Operation → Bool) (exec : Executor σ) (s : σ) (d : Dispatcher)
    (ops : List Operation) : List Response :=
  ((steps exec s d ops).map Step.response).filter (shown ·.op)

theorem responses_cons (shown : Operation → Bool) (exec : Executor σ) (s : σ) (d : Dispatcher)
    (op : Operation) (ops : List Operation) :
    responses shown exec s d (op :: ops) =
      (if shown op then [(step exec s d op).1.response] else []) ++
        responses shown exec (step exec s d op).2 (step exec s d op).1.after ops := by
  have same : (step exec s d op).1.response.op = op := op_step exec s d op
  cases looked : shown op <;> simp [responses, steps_cons, same, looked]

/-- A view of dispatchers under which the `hidden` operations cannot be told from nothing, and which
decides what comes of the `shown` ones. -/
structure Unwinding {α : Type} (hidden shown : Operation → Bool) (view : Nat → Dispatcher → α) :
    Prop where
  later {now t : Nat} {d e : Dispatcher} :
    now ≤ t → view now d = view now e → view t d = view t e
  /-- Notices that wait for the host do not matter. -/
  notices (now : Nat) (d : Dispatcher) (ns : List Notice) :
    view now { d with notices := ns } = view now d
  hides {op : Operation} (now : Nat) (d : Dispatcher) :
    hidden op → view (op.clock now) (d.move op) = view (op.clock now) d
  keeps {now : Nat} {d e : Dispatcher} (op : Operation) :
    view (op.clock now) d = view (op.clock now) e →
      view (op.clock now) (d.move op) = view (op.clock now) (e.move op)
  shows {op : Operation} {now : Nat} {d e : Dispatcher} :
    shown op → view (op.clock now) d = view (op.clock now) e → d.plan? op = e.plan? op
  answers {op : Operation} (d : Dispatcher) : shown op → (d.plan? op).isSome
  apart {op : Operation} : hidden op → shown op = false

/-- What comes of an operation depends on its plan only, if the executor is steady. -/
theorem response_step_eq {exec : Executor σ} (steady : exec.IsSteady) (s s' : σ) {d e : Dispatcher}
    {op : Operation} (answers : (d.plan? op).isSome) (same : d.plan? op = e.plan? op) :
    (step exec s d op).1.response = (step exec s' e op).1.response := by
  obtain ⟨⟨p, args⟩, plan⟩ := Option.isSome_iff_exists.mp answers
  have reply : (step exec s d op).1.reply = (step exec s' e op).1.reply := by
    have ask : exec.ask s = exec.ask s' := funext (steady s s')
    rw [reply_step exec s plan, reply_step exec s' (same ▸ plan), ask]
  have calls : (step exec s d op).1.calls = (step exec s' e op).1.calls := by
    rw [calls_step, calls_step, Dispatcher.calls, Dispatcher.calls, same]
  rw [Step.response, Step.response, op_step, op_step, reply, calls]

namespace Unwinding

variable {α β : Type} {hidden hidden' shown shown' : Operation → Bool}
  {view : Nat → Dispatcher → α} {view' : Nat → Dispatcher → β}

theorem after_eq (u : Unwinding hidden shown view) (exec : Executor σ) (s : σ) (d : Dispatcher)
    (op : Operation) (now : Nat) : view now (step exec s d op).1.after = view now (d.move op) := by
  rw [after_step, u.notices]

theorem responses_eq (u : Unwinding hidden shown view) {exec : Executor σ}
    (steady : exec.IsSteady) {now : Nat} {ops fewer : List Operation}
    (omits : Omits hidden ops fewer) (forward : GoesOn now ops) {s s' : σ} {d e : Dispatcher}
    (alike : view now d = view now e) :
    responses shown exec s' e fewer = responses shown exec s d ops := by
  induction omits generalizing now s s' d e with
  | nil => rfl
  | @keep ops fewer op omits ih =>
    -- both runs take the step
    obtain ⟨le, forward⟩ := forward.step
    have alike := u.later le alike
    have next : view (op.clock now) (step exec s d op).1.after =
        view (op.clock now) (step exec s' e op).1.after := by
      rw [u.after_eq, u.after_eq]
      exact u.keeps op alike
    have rest : responses shown exec (step exec s' e op).2 (step exec s' e op).1.after fewer =
        responses shown exec (step exec s d op).2 (step exec s d op).1.after ops := ih forward next
    rw [responses_cons, responses_cons, rest]
    cases looked : shown op with
    | false => simp only [Bool.false_eq_true, if_false]
    | true => rw [response_step_eq steady s s' (u.answers d looked) (u.shows looked alike)]
  | @skip op ops fewer left omits ih =>
    -- the run that leaves the operation out waits where it is
    obtain ⟨le, forward⟩ := forward.step
    have next : view (op.clock now) (step exec s d op).1.after = view (op.clock now) e := by
      rw [u.after_eq, u.hides now d left]
      exact u.later le alike
    rw [responses_cons, u.apart left]
    exact ih forward next

theorem responses_eq_of_omits (u : Unwinding hidden shown view) {exec : Executor σ}
    (steady : exec.IsSteady) {ops fewer : List Operation} (omits : Omits hidden ops fewer)
    (forward : NeverGoesBack ops) (s : σ) (d : Dispatcher) :
    responses shown exec s d fewer = responses shown exec s d ops :=
  u.responses_eq steady omits ⟨fun _ _ => Nat.zero_le _, forward⟩ rfl

theorem weaken (u : Unwinding hidden shown view) (fewer : ∀ op, hidden' op → hidden op) :
    Unwinding hidden' shown view where
  later := u.later
  notices := u.notices
  hides now d left := u.hides now d (fewer _ left)
  keeps := u.keeps
  shows := u.shows
  answers := u.answers
  apart left := u.apart (fewer _ left)

/-- Two views together show what either of them shows. -/
theorem both (u : Unwinding hidden shown view) (v : Unwinding hidden shown' view') :
    Unwinding hidden (fun op => shown op || shown' op)
      (fun now d => (view now d, view' now d)) where
  later le alike := by
    obtain ⟨alike, alike'⟩ := Prod.mk.inj alike
    rw [u.later le alike, v.later le alike']
  notices now d ns := by rw [u.notices, v.notices]
  hides now d left := by rw [u.hides now d left, v.hides now d left]
  keeps op alike := by
    obtain ⟨alike, alike'⟩ := Prod.mk.inj alike
    rw [u.keeps op alike, v.keeps op alike']
  shows looked alike := by
    obtain ⟨alike, alike'⟩ := Prod.mk.inj alike
    obtain looked | looked := Bool.or_eq_true_iff.mp looked
    · exact u.shows looked alike
    · exact v.shows looked alike'
  answers d looked := by
    obtain looked | looked := Bool.or_eq_true_iff.mp looked
    · exact u.answers d looked
    · exact v.answers d looked
  apart left := by rw [u.apart left, v.apart left, Bool.or_false]

end Unwinding

end Dispatcher

end Shortcuts
