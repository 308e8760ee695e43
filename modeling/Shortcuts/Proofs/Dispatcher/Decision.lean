import Shortcuts.Proofs.Dispatcher.History
/-!
# What an operation decides

An executor is asked last.  What an operation does to a dispatcher, apart from the notice about its
command, is decided without it (`move`), and so is the plan that is left to carry out (`plan?`),
which fixes the calls (`calls`).  Of an executor only its answer to one call counts (`outcome`).  So
a proof about the states of a run, or about its calls, need not look at executors: `calls_step`,
`reply_step` and `after_step` reduce one step to its decision.
-/

namespace Shortcuts

def Executor.ask {σ : Type} (exec : Executor σ) (s : σ) (call : Call) : Except CommandError Unit :=
  (exec s call.1 call.2).1

namespace Plan

/-- The calls that a plan makes: none if it only answers, or if its arguments cannot be composed. -/
def calls (args : List Payload) : Plan → List Call
  | answer _ => []
  | invoke m =>
    match composeArguments args m.payload with
    | .ok args => [(m.command, args)]
    | .error _ => []

/-- What is answered if the command, where there is one, is accepted. -/
def ifAccepted : Plan → Answer
  | answer a => a
  | invoke m => .executed m.command m.bubbles

/-- The answers that a plan may come to. -/
inductive Yields : Plan → Answer → Prop
  | answer (a : Answer) : Yields (.answer a) a
  | executed (m : Match) : Yields (.invoke m) (.executed m.command m.bubbles)
  | failed (m : Match) : Yields (.invoke m) (.failed m.command m.bubbles)

/-- What a plan comes to, with the notice about its command, if calls are answered by `ask`. -/
def outcome (ask : Call → Except CommandError Unit) (args : List Payload) :
    Plan → Answer × List Notice
  | answer a => (a, [])
  | invoke m =>
    match composeArguments args m.payload with
    | .error e => (.failed m.command m.bubbles, [.argumentsRejected m.command e.message])
    | .ok given =>
      match ask (m.command, given) with
      | .ok () => (.executed m.command m.bubbles, [.actionExecuted m.command])
      | .error e => (.failed m.command m.bubbles, [.commandFailed m.command e.message])

theorem yields_outcome (ask : Call → Except CommandError Unit) (args : List Payload) (p : Plan) :
    p.Yields (p.outcome ask args).1 := by
  cases p with
  | answer a => exact .answer a
  | invoke m =>
    cases composed : composeArguments args m.payload with
    | error e => simpa only [outcome, composed] using .failed m
    | ok given =>
      cases asked : ask (m.command, given) with
      | ok accepted => simpa only [outcome, composed, asked] using .executed m
      | error e => simpa only [outcome, composed, asked] using .failed m

theorem Yields.preventsDefault_eq {p : Plan} {a : Answer} (yields : p.Yields a) :
    a.preventsDefault = p.ifAccepted.preventsDefault := by
  cases yields <;> rfl

theorem mem_calls {args : List Payload} {p : Plan} {call : Call} :
    call ∈ p.calls args ↔
      ∃ m, p = .invoke m ∧ m.command = call.1 ∧ composeArguments args m.payload = .ok call.2 := by
  obtain ⟨command, given⟩ := call
  cases p with
  | answer a => simp [calls]
  | invoke m =>
    cases h : composeArguments args m.payload with
    | error e => simp [calls, h]
    | ok composed => simp [calls, h, eq_comm]

end Plan

namespace Dispatcher

variable {σ : Type}

/-! ## Decisions -/

def planPress (d : Dispatcher) (e : KeyEvent) (look : Lookup) (now : Nat) : Plan × Dispatcher :=
  if d.isRepeated e then (.answer (.filtered (d.wasConsumed e.identity)), d)
  else
    let (p, d) := d.planBinding (.stroke e.stroke) look now
    (p, d.rememberPress e.identity p.ifAccepted)

def planInput (d : Dispatcher) (input : Input) (look : Lookup) (now : Nat) : Plan × Dispatcher :=
  match input with
  | .keyDown e => d.planPress e look now
  | .keyUp e => let (a, d) := d.releaseKey e; (.answer a, d)
  | .click c => d.planBinding (.click c) look now
  | .drag .start drag => let (a, d) := d.beginDrag drag look now; (.answer a, d)
  | .drag .finish _ => d.planDrop
  | .drag .cancel _ => let (a, d) := d.cancelDrag; (.answer a, d)

/-- The plan that an operation leaves to carry out, with the arguments of its caller. -/
def plan? (d : Dispatcher) : Operation → Option (Plan × List Payload)
  | .handle input args look now => some ((d.planInput input look now).1, args)
  | .handlePattern p args look now => some ((d.planPattern p look now).1, args)
  | .tick _ _ | .reset | .setTable _ | .takeNotices => none

/-- The state in which the plan of an operation is carried out. -/
def move (d : Dispatcher) : Operation → Dispatcher
  | .handle input _ look now => (d.planInput input look now).2
  | .handlePattern p _ look now => (d.planPattern p look now).2
  | .tick now hasFocus => (d.tick now hasFocus).2
  | .reset => d.reset
  | .setTable t => d.setTable t
  | .takeNotices => d.takeNotices.2

def calls (d : Dispatcher) (op : Operation) : List Call :=
  match d.plan? op with
  | some (p, args) => p.calls args
  | none => []

/-! ## Carrying out a plan -/

/-- Carrying out a plan adds its notice; nothing else depends on the dispatcher or changes it. -/
theorem settle_eq (exec : Executor σ) (s : σ) (args : List Payload) (p : Plan) :
    ∃ after, ∀ d : Dispatcher, settle exec s args (p, d) =
      ((p.outcome (exec.ask s) args).1,
        { d with notices := d.notices ++ (p.outcome (exec.ask s) args).2 }, after) := by
  cases p with
  | answer a => exact ⟨s, fun d => by simp [settle, Plan.outcome]⟩
  | invoke m =>
    cases composed : composeArguments args m.payload with
    | error e => exact ⟨s, fun d => by simp [settle, invoke, Plan.outcome, composed, notify]⟩
    | ok given =>
      rcases ran : exec s m.command given with ⟨e | _, after⟩ <;>
        refine ⟨after, fun d => ?_⟩ <;>
        simp [settle, invoke, Plan.outcome, Executor.ask, composed, ran, notify]

/-- An executor that writes its calls down receives those of the plan, and does as it does
otherwise. -/
theorem settle_recording (exec : Executor σ) (s : σ) (before : List Call) (args : List Payload)
    (x : Plan × Dispatcher) :
    settle exec.recording (s, before) args x =
      let (a, after, s) := settle exec s args x
      (a, after, s, before ++ x.1.calls args) := by
  obtain ⟨p, d⟩ := x
  cases p with
  | answer a => simp [settle, Plan.calls]
  | invoke m =>
    cases composed : composeArguments args m.payload with
    | error e => simp [settle, invoke, Plan.calls, composed]
    | ok given =>
      rcases ran : exec s m.command given with ⟨_ | _, after⟩ <;>
        simp [settle, invoke, Executor.recording, Plan.calls, composed, ran]

theorem pressKey_eq (exec : Executor σ) (s : σ) (d : Dispatcher) (e : KeyEvent)
    (args : List Payload) (look : Lookup) (now : Nat) :
    pressKey exec s d e args look now = settle exec s args (d.planPress e look now) := by
  unfold pressKey planPress
  -- a repeat is dropped on both sides
  split
  · rfl
  · -- what is remembered of a press does not depend on whether its command is accepted
    obtain ⟨p, d'⟩ := d.planBinding (.stroke e.stroke) look now
    obtain ⟨after, settles⟩ := settle_eq exec s args p
    have same := (p.yields_outcome (exec.ask s) args).preventsDefault_eq
    simp only [settles, rememberPress, same]

theorem handle_eq (exec : Executor σ) (s : σ) (d : Dispatcher) (input : Input)
    (args : List Payload) (look : Lookup) (now : Nat) :
    handle exec s d input args look now = settle exec s args (d.planInput input look now) := by
  cases input with
  | keyDown e => exact pressKey_eq exec s d e args look now
  | keyUp e => rfl
  | click c => rfl
  | drag phase g => cases phase <;> rfl

theorem perform_plan (exec : Executor σ) (s : σ) {d : Dispatcher} {op : Operation} {p : Plan}
    {args : List Payload} (plan : d.plan? op = some (p, args)) :
    perform exec s d op =
      let (a, after, s) := settle exec s args (p, d.move op)
      (.answer a, after, s) := by
  cases op with
  | handle input args look now =>
    cases plan
    simp only [perform, handle_eq]
    rfl
  | handlePattern pattern args look now =>
    cases plan
    rfl
  | tick now hasFocus => cases plan
  | reset => cases plan
  | setTable t => cases plan
  | takeNotices => cases plan

theorem perform_idle (exec : Executor σ) (s : σ) {d : Dispatcher} {op : Operation}
    (idle : d.plan? op = none) : (perform exec s d op).2 = (d.move op, s) := by
  cases op with
  | handle input args look now => cases idle
  | handlePattern pattern args look now => cases idle
  | tick now hasFocus => rfl
  | reset => rfl
  | setTable t => rfl
  | takeNotices => rfl

theorem perform_recording (exec : Executor σ) (s : σ) (before : List Call) (d : Dispatcher)
    (op : Operation) :
    perform exec.recording (s, before) d op =
      let (reply, after, s) := perform exec s d op
      (reply, after, s, before ++ d.calls op) := by
  rw [calls]
  cases plan : d.plan? op with
  | some x =>
    obtain ⟨p, args⟩ := x
    rw [perform_plan _ _ plan, perform_plan _ _ plan, settle_recording]
  | none =>
    rw [List.append_nil]
    cases op with
    | handle input args look now => cases plan
    | handlePattern p args look now => cases plan
    | tick now hasFocus => rfl
    | reset => rfl
    | setTable t => rfl
    | takeNotices => rfl

/-! ## Steps -/

/-- A step is what the operation does, with the calls that it makes. -/
theorem step_eq (exec : Executor σ) (s : σ) (d : Dispatcher) (op : Operation) :
    step exec s d op =
      let (reply, after, s) := perform exec s d op
      (⟨d, op, reply, d.calls op, after⟩, s) := by
  rw [step, perform_recording, List.nil_append]

theorem calls_step (exec : Executor σ) (s : σ) (d : Dispatcher) (op : Operation) :
    (step exec s d op).1.calls = d.calls op := by
  rw [step_eq]

/-- The notice that an operation gives about its command, if calls are answered by `ask`. -/
def reported (d : Dispatcher) (ask : Call → Except CommandError Unit) (op : Operation) :
    List Notice :=
  match d.plan? op with
  | some (p, args) => (p.outcome ask args).2
  | none => []

/-- After a step a dispatcher is as it was decided, up to the notice about its command. -/
theorem after_step (exec : Executor σ) (s : σ) (d : Dispatcher) (op : Operation) :
    (step exec s d op).1.after =
      { d.move op with notices := (d.move op).notices ++ d.reported (exec.ask s) op } := by
  have performed : (step exec s d op).1.after = (perform exec.recording (s, []) d op).2.1 := rfl
  rw [performed, reported]
  cases plan : d.plan? op with
  | none => rw [perform_idle _ _ plan, List.append_nil]
  | some x =>
    obtain ⟨p, args⟩ := x
    obtain ⟨after, settles⟩ := settle_eq exec.recording (s, []) args p
    rw [perform_plan _ _ plan, settles]
    -- writing calls down does not change what is answered to them
    rfl

theorem reply_step (exec : Executor σ) (s : σ) {d : Dispatcher} {op : Operation} {p : Plan}
    {args : List Payload} (plan : d.plan? op = some (p, args)) :
    (step exec s d op).1.reply = .answer (p.outcome (exec.ask s) args).1 := by
  have performed : (step exec s d op).1.reply = (perform exec.recording (s, []) d op).1 := rfl
  obtain ⟨after, settles⟩ := settle_eq exec.recording (s, []) args p
  rw [performed, perform_plan _ _ plan, settles]
  rfl

/-- What is answered is what some plan may come to. -/
theorem exists_plan_of_reply {exec : Executor σ} {s : σ} {d : Dispatcher} {op : Operation}
    {a : Answer} (reply : (step exec s d op).1.reply = .answer a) :
    ∃ p args, d.plan? op = some (p, args) ∧ p.Yields a := by
  cases plan : d.plan? op with
  | some x =>
    obtain ⟨p, args⟩ := x
    have yields := p.yields_outcome (exec.ask s) args
    rw [reply_step exec s plan, Reply.answer.injEq] at reply
    rw [reply] at yields
    exact ⟨p, args, rfl, yields⟩
  | none =>
    cases op with
    | handle input args look now => cases plan
    | handlePattern pattern args look now => cases plan
    | tick now hasFocus => cases reply
    | reset => cases reply
    | setTable t => cases reply
    | takeNotices => cases reply

end Dispatcher

end Shortcuts
