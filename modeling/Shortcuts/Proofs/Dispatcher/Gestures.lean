import Shortcuts.Proofs.Dispatcher.Justification
import Shortcuts.Proofs.Dispatcher.Notices
/-!
# Drags and their commands

The command of a drag is chosen when the drag begins and attempted when it ends, once
(`drag_attempted_iff_armed`).  Whatever happens in between, be it a change of the context, does not
touch it; but a cancellation, another start, a reset and another table all drop it, and a start for
which no rule has a command drops the drag before it as well.
-/

namespace Shortcuts.Dispatcher

/-- The ways in which a step attempts the command of a match, with the arguments of its caller. -/
inductive Step.Attempts (m : Match) (x : Step) : Prop
  | accepted (given : List Payload) :
    composeArguments x.op.args m.payload = .ok given → x.calls = [(m.command, given)] →
    x.reply = .answer (.executed m.command m.bubbles) → x.told = [.actionExecuted m.command] →
    Attempts m x
  | refused (given : List Payload) (message : String) :
    composeArguments x.op.args m.payload = .ok given → x.calls = [(m.command, given)] →
    x.reply = .answer (.failed m.command m.bubbles) → x.told = [.commandFailed m.command message] →
    Attempts m x
  | rejected (e : MissingArgument) :
    composeArguments x.op.args m.payload = .error e → x.calls = [] →
    x.reply = .answer (.failed m.command m.bubbles) →
    x.told = [.argumentsRejected m.command e.message] → Attempts m x

/-- A step began a drag for which the table in force has a command. -/
def Step.Chooses (m : Match) (x : Step) : Prop :=
  ∃ g look, x.BeginsDrag g look ∧
    x.before.table.resolve look none (Binding.drag g).encode = some (.execute m)

/-- What the end of a drag does, in view of the steps before it. -/
structure Step.CompletesDrag (past : List Step) (x : Step) : Prop where
  /-- A command is attempted if the last operation that could begin or drop a drag began one. -/
  attempts_iff : (∃ m, x.Attempts m) ↔ ∃ g look, DragGoesOn g look past
  /-- The command is the one that the table in force had for that drag in its context. -/
  chosen (older between : List Step) (y : Step) (g : Drag) (look : Lookup) :
    past = older ++ y :: between → y.BeginsDrag g look → (∀ z ∈ between, z.dropsGesture = false) →
      ∃ m, y.before.table.resolve look none (Binding.drag g).encode = some (.execute m) ∧ x.Attempts m
  idle : (¬∃ g look, DragGoesOn g look past) →
    x.reply = .answer .unhandled ∧ x.calls = [] ∧ x.told = []

/-- The command that waits for the end of a drag was chosen by the last step that could. -/
def Chosen (past : List Step) (d : Dispatcher) : Prop :=
  ∀ m, d.gesture.map PendingGesture.chosen = some m ↔
    Since (Step.Chooses m) (fun x => x.dropsGesture = false) past

/-! ## One step -/

variable {σ : Type} {exec : Executor σ} {s : σ} {d : Dispatcher} {op : Operation} {m : Match}

/-- To invoke a match is to attempt its command, whatever becomes of it. -/
theorem attempts_step (plan : d.plan? op = some (.invoke m, op.args)) (quiet : d.told op = []) :
    (step exec s d op).1.Attempts m := by
  have reply := reply_step exec s plan
  have calls : (step exec s d op).1.calls = (Plan.invoke m).calls op.args := by
    rw [calls_step, Dispatcher.calls, plan]
  have told : (step exec s d op).1.told = ((Plan.invoke m).outcome (exec.ask s) op.args).2 := by
    rw [told_step, quiet, List.nil_append, reported, plan]
  cases composed : composeArguments op.args m.payload with
  | error e =>
    simp only [Plan.calls, Plan.outcome, composed] at calls reply told
    exact .rejected e composed calls reply told
  | ok given =>
    cases asked : exec.ask s (m.command, given) with
    | ok accepted =>
      simp only [Plan.calls, Plan.outcome, composed, asked] at calls reply told
      exact .accepted given composed calls reply told
    | error e =>
      simp only [Plan.calls, Plan.outcome, composed, asked] at calls reply told
      exact .refused given e.message composed calls reply told

theorem Step.Attempts.reply_ne {x : Step} (attempts : x.Attempts m) :
    x.reply ≠ .answer .unhandled := by
  intro unhandled
  cases attempts with
  | accepted given composed called reply told => rw [reply] at unhandled; cases unhandled
  | refused given message composed called reply told => rw [reply] at unhandled; cases unhandled
  | rejected e composed called reply told => rw [reply] at unhandled; cases unhandled

/-- The end of a drag attempts its command, if a drag is in progress, and else does nothing. -/
theorem step_dragFinish (exec : Executor σ) (s : σ) (d : Dispatcher) (g : Drag)
    (args : List Payload) (look : Lookup) (now : Nat) :
    let x := (step exec s d (.handle (.drag .finish g) args look now)).1
    match d.gesture with
    | some pending => x.Attempts pending.chosen
    | none => x.reply = .answer .unhandled ∧ x.calls = [] ∧ x.told = [] := by
  intro x
  have plan := plan?_dragFinish d g args look now
  have quiet : d.told (.handle (.drag .finish g) args look now) = [] := rfl
  cases gesture : d.gesture with
  | some pending =>
    rw [gesture] at plan
    exact attempts_step plan quiet
  | none =>
    rw [gesture] at plan
    refine ⟨reply_step exec s plan, ?_, ?_⟩
    · rw [calls_step, calls, plan]
      rfl
    · rw [told_step, quiet, reported, plan]
      rfl

theorem chooses_step (exec : Executor σ) (s : σ) :
    (step exec s d op).1.Chooses m ↔ ∃ g args look now, op = .handle (.drag .start g) args look now ∧
      d.table.resolve look none (Binding.drag g).encode = some (.execute m) := by
  constructor
  · rintro ⟨g, look, ⟨⟨args, now, start⟩, -⟩, found⟩
    exact ⟨g, args, look, now, start, found⟩
  · rintro ⟨g, args, look, now, rfl, found⟩
    have armed := (reply_dragStart exec s d g args look now).mpr ⟨m, found⟩
    exact ⟨g, look, ⟨⟨args, now, rfl⟩, armed⟩, found⟩

theorem Step.BeginsDrag.exists_match {x : Step} {g : Drag} {look : Lookup}
    (begins : x.BeginsDrag g look) (taken : x = (step exec s x.before x.op).1) :
    ∃ m, x.before.table.resolve look none (Binding.drag g).encode = some (.execute m) := by
  obtain ⟨⟨args, now, start⟩, armed⟩ := begins
  rw [start] at taken
  have reply := congrArg Step.reply taken
  exact (reply_dragStart exec s x.before g args look now).mp (reply.symm.trans armed)

/-- The command that waits was chosen by the step, or waited before and was not dropped. -/
theorem gestureAfter_chosen (exec : Executor σ) (s : σ) :
    (d.gestureAfter op).map PendingGesture.chosen = some m ↔
      (step exec s d op).1.Chooses m ∨
        (step exec s d op).1.dropsGesture = false ∧ d.gesture.map PendingGesture.chosen = some m := by
  rw [chooses_step exec s, Step.dropsGesture, op_step]
  -- only a start chooses; what else is about drags, and what replaces the table, drops
  cases op with
  | handle input args look now =>
    cases input with
    | drag phase g =>
      cases phase with
      | start =>
        have begun : (PendingGesture.begin? d.table look g).map PendingGesture.chosen = some m ↔
            d.table.resolve look none (Binding.drag g).encode = some (.execute m) := by
          rw [Option.map_eq_some_iff]
          constructor
          · rintro ⟨pending, begun, rfl⟩
            exact (PendingGesture.begin?_eq_some.mp begun).2
          · intro found
            exact ⟨⟨g, m⟩, PendingGesture.begin?_eq_some.mpr ⟨rfl, found⟩, rfl⟩
        simp [gestureAfter, begun, and_assoc]
      | finish => simp [gestureAfter]
      | cancel => simp [gestureAfter]
    | _ => simp [gestureAfter]
  | _ => simp [gestureAfter]

/-! ## Runs -/

theorem Chosen.step {past : List Step} (known : Chosen past d) (exec : Executor σ) (s : σ)
    (op : Operation) :
    Chosen (past ++ [(step exec s d op).1]) (Dispatcher.step exec s d op).1.after := by
  intro m
  rw [gesture_after, gestureAfter_chosen exec s, since_append, known m]

/-- A command waits only while a drag goes on. -/
theorem Chosen.exists_drag {past : List Step} (known : Chosen past d) {pending : PendingGesture}
    (gesture : d.gesture = some pending) : ∃ g look, DragGoesOn g look past := by
  have waits : d.gesture.map PendingGesture.chosen = some pending.chosen := by
    rw [gesture, Option.map_some]
  obtain ⟨older, x, between, split, ⟨g, look, begins, -⟩, kept⟩ := (known _).mp waits
  exact ⟨g, look, older, x, between, split, begins, kept⟩

theorem Chosen.completesDrag {past : List Step} (known : Chosen past d)
    (begun : ∀ y ∈ past, ∃ s, y = (Dispatcher.step exec s y.before y.op).1) (g : Drag)
    (args : List Payload) (look : Lookup) (now : Nat) :
    (Dispatcher.step exec s d (.handle (.drag .finish g) args look now)).1.CompletesDrag past := by
  have ends := step_dragFinish exec s d g args look now
  -- of this step only what it does with the drag in progress counts
  generalize (Dispatcher.step exec s d (.handle (.drag .finish g) args look now)).1 = x at ends ⊢
  have chosen (older between : List Step) (y : Step) (g : Drag) (look : Lookup)
      (split : past = older ++ y :: between) (begins : y.BeginsDrag g look)
      (kept : ∀ z ∈ between, z.dropsGesture = false) :
      ∃ m, y.before.table.resolve look none (Binding.drag g).encode = some (.execute m) ∧
        x.Attempts m := by
    obtain ⟨s, taken⟩ := begun y (by simp [split])
    obtain ⟨m, found⟩ := begins.exists_match taken
    have waits : d.gesture.map PendingGesture.chosen = some m :=
      (known m).mpr ⟨older, y, between, split, ⟨g, look, begins, found⟩, kept⟩
    obtain ⟨pending, gesture, rfl⟩ := Option.map_eq_some_iff.mp waits
    rw [gesture] at ends
    exact ⟨_, found, ends⟩
  refine ⟨⟨?_, ?_⟩, chosen, ?_⟩
  · rintro ⟨m, attempts⟩
    cases gesture : d.gesture with
    | some pending => exact known.exists_drag gesture
    | none =>
      rw [gesture] at ends
      exact absurd ends.1 attempts.reply_ne
  · rintro ⟨g, look, older, y, between, split, begins, kept⟩
    obtain ⟨m, -, attempts⟩ := chosen older between y g look split begins kept
    exact ⟨m, attempts⟩
  · intro noDrag
    cases gesture : d.gesture with
    | some pending => exact absurd (known.exists_drag gesture) noDrag
    | none =>
      rw [gesture] at ends
      exact ends

/-- Apart from its end, nothing about a drag calls the executor. -/
theorem calls_drag (exec : Executor σ) (s : σ) {phase : DragPhase} (unfinished : phase ≠ .finish)
    (g : Drag) (args : List Payload) (look : Lookup) (now : Nat) :
    (step exec s d (.handle (.drag phase g) args look now)).1.calls = [] := by
  rw [calls_step, List.eq_nil_iff_forall_not_mem]
  intro call made
  obtain ⟨m, -, -, ⟨b, look, now, offered, -⟩ | ⟨g, args, look, now, pending, same, -, -⟩⟩ :=
    of_mem_calls made
  · cases offered
  · cases same
    exact unfinished rfl

/-- A start for which the table has no command drops the drag before it. -/
theorem gesture_dragStart {g : Drag} {args : List Payload} {look : Lookup} {now : Nat}
    (unarmed : (step exec s d (.handle (.drag .start g) args look now)).1.reply ≠
      .answer .selectionArmed) :
    (step exec s d (.handle (.drag .start g) args look now)).1.after.gesture = none := by
  rw [gesture_after, gestureAfter, Option.eq_none_iff_forall_ne_some]
  intro pending begun
  obtain ⟨-, found⟩ := PendingGesture.begin?_eq_some.mp begun
  exact unarmed ((reply_dragStart exec s d g args look now).mpr ⟨pending.chosen, found⟩)

/-- A drag that ends attempts a command exactly if the last operation that could begin or drop a drag
began one for which there is a command, and then it is that command; else it does nothing.  A drag
begins so exactly if its table has a command for it in its context, and otherwise drops the drag in
progress. -/
theorem drag_attempted_iff_armed (exec : Executor σ) (s : σ) (table : RuleTable)
    (timing : ChordTiming) (tracksRelease : Bool) (ops : List Operation) (past newer : List Step)
    (x : Step) (phase : DragPhase) (g : Drag) (args : List Payload) (look : Lookup) (now : Nat)
    (split : steps exec s (new table timing tracksRelease) ops = past ++ x :: newer)
    (drag : x.op = .handle (.drag phase g) args look now) :
    (phase = .finish → x.CompletesDrag past) ∧
      (phase ≠ .finish → x.calls = []) ∧
      (phase = .start →
        (x.reply = .answer .selectionArmed ↔
          ∃ m, x.before.table.resolve look none (Binding.drag g).encode = some (.execute m)) ∧
        (x.reply ≠ .answer .selectionArmed → x.after.gesture = none)) := by
  have start : Chosen [] (new table timing tracksRelease) := by
    intro m
    simp [new, Since]
  obtain ⟨known, s', same⟩ := inv_of_split start (fun past d s op known => known.step exec s op) split
  have begun : ∀ y ∈ past, ∃ s, y = (step exec s y.before y.op).1 := by
    intro y mem
    have inRun : y ∈ steps exec s (new table timing tracksRelease) ops := by
      rw [split]
      exact List.mem_append_left _ mem
    exact exists_step_of_mem inRun
  rw [drag] at same
  refine ⟨?_, ?_, ?_⟩
  · rintro rfl
    rw [same]
    exact known.completesDrag begun g args look now
  · intro unfinished
    rw [same]
    exact calls_drag exec s' unfinished g args look now
  · rintro rfl
    have reply := congrArg Step.reply same
    have after := congrArg Step.after same
    rw [reply, after]
    exact ⟨reply_dragStart exec s' x.before g args look now, gesture_dragStart⟩

/-- The command of a drag outlives the loss of the focus. -/
theorem drag_attempted_iff_armed_unfocused :
    let g : Drag := ⟨.empty, .left⟩
    let drag := fun phase now => Operation.handle (.drag phase g) [] Context.empty.get? now
    let exec : Executor Unit := fun s _ _ => (.ok (), s)
    let d := new (.ofRules [.run (.single (.drag g)) "copy"]) .standard false
    ∃ past x, steps exec () d [drag .start 0, .tick 10 false, drag .finish 20] = past ++ [x] ∧
      x.op = drag .finish 20 ∧ x.Attempts ⟨"copy", none, false⟩ := by
  intro g drag exec d
  obtain ⟨x, s, first, run⟩ :=
    exists_steps_cons exec () d (drag .start 0) [.tick 10 false, drag .finish 20]
  obtain ⟨y, s', second, rest⟩ :=
    exists_steps_cons exec s x.after (.tick 10 false) [drag .finish 20]
  obtain ⟨z, s'', third, last⟩ := exists_steps_cons exec s' y.after (drag .finish 20) []
  have split : steps exec () d [drag .start 0, .tick 10 false, drag .finish 20] =
      [x, y] ++ z :: [] := by
    rw [run, rest, last, steps]
    rfl
  have found := RuleTable.resolve_single (.drag g) "copy" Context.empty.get?
  have began : x.BeginsDrag g Context.empty.get? := by
    rw [first]
    exact ⟨⟨[], 0, rfl⟩, (reply_dragStart exec () d g [] _ 0).mpr ⟨_, found⟩⟩
  have kept : ∀ w ∈ [y], w.dropsGesture = false := by
    intro w mem
    rw [List.mem_singleton.mp mem, second]
    rfl
  have ends : z.op = drag .finish 20 := by rw [third, op_step]
  obtain ⟨completes, -⟩ := drag_attempted_iff_armed exec () _ .standard false _ [x, y] [] z .finish g
    [] Context.empty.get? 20 split ends
  obtain ⟨m, chosen, attempts⟩ := (completes rfl).chosen [] [y] x g _ rfl began kept
  have before : x.before = d := by rw [first]; rfl
  rw [before] at chosen
  cases found.symm.trans chosen
  exact ⟨[x, y], z, split, ends, attempts⟩

end Shortcuts.Dispatcher
