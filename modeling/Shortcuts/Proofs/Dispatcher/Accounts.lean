import Shortcuts.Proofs.Dispatcher.Notices
import Shortcuts.Proofs.Resolution.Unbinding
/-!
# Calls, answers and notices balance

A command shows in three places: the executor receives a call, the host gets an answer, and a notice
waits for it.  They agree operation by operation, and the notices that a host takes over a whole run
are, in order, those of the calls that were accepted, of those that were refused, and of the
commands whose arguments could not be composed (`accounts_balance`).

What an executor answers is no part of a step, so `ledger` runs the operations on an executor that
keeps a receipt of each call.  `selected?` says which command an operation is to run, by what the
table in force has for it; the four ways in which an operation can be settled follow from that
(`settled_entry`), and all else is read off them.
-/

namespace Shortcuts

/-- A call, and what the executor answered to it. -/
structure Receipt where
  call : Call
  result : Except CommandError Unit

/-- An executor that keeps a receipt of each call. -/
def Executor.receipting {σ : Type} (exec : Executor σ) : Executor (σ × List Receipt) :=
  fun s command args =>
    let (result, after) := exec s.1 command args
    (result, after, s.2 ++ [⟨(command, args), result⟩])

namespace Receipt

/-- The notice that tells what became of a call. -/
def notice (r : Receipt) : Notice :=
  match r.result with
  | .ok () => .actionExecuted r.call.1
  | .error e => .commandFailed r.call.1 e.message

/-- The command of a call that was accepted. -/
def accepted? (r : Receipt) : Option String :=
  match r.result with
  | .ok () => some r.call.1
  | .error _ => none

/-- The command of a call that was refused, with the message of the error. -/
def refused? (r : Receipt) : Option (String × String) :=
  match r.result with
  | .ok () => none
  | .error e => some (r.call.1, e.message)

end Receipt

namespace Notice

def accepted? : Notice → Option String
  | actionExecuted command => some command
  | _ => none

def refused? : Notice → Option (String × String)
  | commandFailed command message => some (command, message)
  | _ => none

def rejected? : Notice → Option (String × String)
  | argumentsRejected command message => some (command, message)
  | _ => none

/-- A selection among the outcomes of commands does not look at other notices. -/
theorem filterMap_filter_isOutcome {α : Type} {select : Notice → Option α}
    (others : ∀ n : Notice, n.isOutcome = false → select n = none) (ns : List Notice) :
    (ns.filter isOutcome).filterMap select = ns.filterMap select := by
  induction ns with
  | nil => rfl
  | cons n ns ih =>
    cases outcome : n.isOutcome with
    | true => rw [List.filter_cons_of_pos outcome, List.filterMap_cons, List.filterMap_cons, ih]
    | false =>
      rw [List.filter_cons_of_neg (by simp [outcome]), ih,
        List.filterMap_cons_none (others n outcome)]

end Notice

/-- The command that an answer is about. -/
def Answer.command? : Answer → Option String
  | executed command _ | failed command _ => some command
  | _ => none

/-- The command that a reply is about. -/
def Reply.command? : Reply → Option String
  | answer a => a.command?
  | _ => none

/-- Whether an operation may run a command at all. -/
def Operation.runsCommands : Operation → Bool
  | .handle (.keyDown _) _ _ _ | .handle (.click _) _ _ _ | .handle (.drag .finish _) _ _ _
  | .handlePattern (.single _) _ _ _ => true
  | _ => false

/-- A plan runs the match that was selected, and without one gives an answer about no command. -/
inductive Plan.Follows : Option Match → Plan → Prop
  | run (m : Match) : Follows (some m) (.invoke m)
  | answer (a : Answer) : a.command? = none → Follows none (.answer a)

namespace Dispatcher

/-- The first key after which a binding is looked up.  Only key strokes complete chords. -/
def awaited? (d : Dispatcher) (b : Binding) (now : Nat) : Option String :=
  if b.isStroke then (d.freshChord now).map PendingChord.first else none

/-- The command that an operation is to run: what the table in force has for the binding that is
offered, on its own or for the chord that it completes, or what was chosen for the drag that ends. -/
def selected? (d : Dispatcher) (op : Operation) : Option Match :=
  match d.offer? op with
  | some (b, look, now) =>
    (d.table.resolve look (d.awaited? b now) b.encode).bind Resolution.match?
  | none =>
    match op with
    | .handle (.drag .finish _) _ _ _ => d.gesture.map PendingGesture.chosen
    | _ => none

/-- The command whose arguments an operation cannot compose, if it is one. -/
def rejections (d : Dispatcher) (op : Operation) : List (String × MissingArgument) :=
  match d.selected? op with
  | none => []
  | some m =>
    match composeArguments op.args m.payload with
    | .ok _ => []
    | .error missing => [(m.command, missing)]

/-- A step of a run, with the receipts of its calls. -/
structure Entry where
  step : Step
  receipts : List Receipt

namespace Entry

def rejections (e : Entry) : List (String × MissingArgument) := e.step.before.rejections e.step.op

/-- The notices that an entry calls for. -/
def outcomes (e : Entry) : List Notice :=
  e.receipts.map Receipt.notice ++ e.rejections.map fun r => .argumentsRejected r.1 r.2.message

/-- The ways in which an operation can be settled. -/
inductive Settled (e : Entry) : Prop
  | accepted (m : Match) (given : List Payload) :
    e.step.op.runsCommands = true → e.receipts = [⟨(m.command, given), .ok ()⟩] →
    e.rejections = [] → e.step.reply = .answer (.executed m.command m.bubbles) →
    e.step.told.filter Notice.isOutcome = [.actionExecuted m.command] → Settled e
  | refused (m : Match) (given : List Payload) (error : CommandError) :
    e.step.op.runsCommands = true → e.receipts = [⟨(m.command, given), .error error⟩] →
    e.rejections = [] → e.step.reply = .answer (.failed m.command m.bubbles) →
    e.step.told.filter Notice.isOutcome = [.commandFailed m.command error.message] → Settled e
  | rejected (m : Match) (missing : MissingArgument) :
    e.step.op.runsCommands = true → e.receipts = [] → e.rejections = [(m.command, missing)] →
    e.step.reply = .answer (.failed m.command m.bubbles) →
    e.step.told.filter Notice.isOutcome = [.argumentsRejected m.command missing.message] → Settled e
  | idle : e.receipts = [] → e.rejections = [] → e.step.reply.command? = none →
    e.step.told.filter Notice.isOutcome = [] → Settled e

/-- The calls of an operation and its answer agree. -/
structure Balanced (e : Entry) : Prop where
  calls_eq : e.receipts.map Receipt.call = e.step.calls
  one_call : e.receipts.length ≤ 1
  /-- Checks, resets, another table, releases, and starts and cancellations of drags run nothing. -/
  idle : e.step.op.runsCommands = false → e.receipts = []
  executed_iff (command : String) :
    (∃ bubbles, e.step.reply = .answer (.executed command bubbles)) ↔
      ∃ given, e.receipts = [⟨(command, given), .ok ()⟩]
  failed_iff (command : String) :
    (∃ bubbles, e.step.reply = .answer (.failed command bubbles)) ↔
      (∃ given error, e.receipts = [⟨(command, given), .error error⟩]) ∨
        (e.receipts = [] ∧ ∃ missing, e.rejections = [(command, missing)])
  /-- Every other answer comes without a call. -/
  otherwise : e.step.reply.command? = none → e.receipts = []

/-! ## Readings of what an entry calls for -/

/-- A selection among the outcomes, read off the receipts and the rejections apart. -/
theorem filterMap_outcomes {α : Type} (e : Entry) {select : Notice → Option α}
    {receipt : Receipt → Option α} (ofReceipt : ∀ r : Receipt, select r.notice = receipt r) :
    e.outcomes.filterMap select = e.receipts.filterMap receipt ++
      e.rejections.filterMap fun r => select (.argumentsRejected r.1 r.2.message) := by
  have receipts : select ∘ Receipt.notice = receipt := funext ofReceipt
  rw [outcomes, List.filterMap_append, List.filterMap_map, List.filterMap_map, receipts]
  rfl

theorem accepted_outcomes (e : Entry) :
    e.outcomes.filterMap Notice.accepted? = e.receipts.filterMap Receipt.accepted? := by
  have ofReceipt (r : Receipt) : r.notice.accepted? = r.accepted? := by
    obtain ⟨call, _ | _⟩ := r <;> rfl
  simp [e.filterMap_outcomes ofReceipt, Notice.accepted?]

theorem refused_outcomes (e : Entry) :
    e.outcomes.filterMap Notice.refused? = e.receipts.filterMap Receipt.refused? := by
  have ofReceipt (r : Receipt) : r.notice.refused? = r.refused? := by
    obtain ⟨call, _ | _⟩ := r <;> rfl
  simp [e.filterMap_outcomes ofReceipt, Notice.refused?]

theorem rejected_outcomes (e : Entry) :
    e.outcomes.filterMap Notice.rejected? = e.rejections.map fun r => (r.1, r.2.message) := by
  have ofReceipt (r : Receipt) : r.notice.rejected? = none := by
    obtain ⟨call, _ | _⟩ := r <;> rfl
  simp [e.filterMap_outcomes ofReceipt, Notice.rejected?]

end Entry

variable {σ : Type}

def entry (exec : Executor σ) (s : σ) (d : Dispatcher) (op : Operation) : Entry :=
  ⟨(step exec s d op).1, (perform exec.receipting (s, []) d op).2.2.2⟩

/-- A run with the receipts of its calls, an entry for each operation. -/
def ledger (exec : Executor σ) (s : σ) (d : Dispatcher) : List Operation → List Entry
  | [] => []
  | op :: ops =>
    entry exec s d op :: ledger exec (step exec s d op).2 (step exec s d op).1.after ops

/-! ## What is selected -/

section

variable (t : RuleTable) (timing : ChordTiming) (look : Lookup) (now : Nat)

theorem follows_first (chord : Option PendingChord) (b : Binding) :
    (Reaction.first t timing chord b look now).plan.Follows
      ((t.resolve look none b.encode).bind Resolution.match?) := by
  rw [Reaction.first]
  cases t.resolve look none b.encode with
  | none => exact .answer .unhandled rfl
  | some found =>
    cases found with
    | execute m => exact .run m
    | removed => exact .answer .unhandled rfl
    | enterChord =>
      cases b.isStroke with
      | true => exact .answer .chordPending rfl
      | false => exact .answer .unhandled rfl

theorem follows_second (c : PendingChord) (k : Stroke) :
    (Reaction.second t c k look).plan.Follows
      ((t.resolve look (some c.first) k.encode).bind Resolution.match?) := by
  rw [Reaction.second]
  cases t.resolve look (some c.first) k.encode with
  | none => exact .answer .chordAborted rfl
  | some found =>
    cases found with
    | execute m => exact .run m
    | removed => exact .answer .chordAborted rfl
    | enterChord => exact .answer .chordAborted rfl

end

variable (d : Dispatcher) (op : Operation)

theorem follows_reaction (b : Binding) (look : Lookup) (now : Nat) :
    (d.reaction b look now).plan.Follows
      ((d.table.resolve look (d.awaited? b now) b.encode).bind Resolution.match?) := by
  cases b with
  | stroke k =>
    have awaits : d.awaited? (.stroke k) now = (d.freshChord now).map PendingChord.first := rfl
    rw [reaction, awaits]
    cases d.freshChord now with
    | none => exact follows_first d.table d.timing look now none (.stroke k)
    | some c => exact follows_second d.table look c k
  | click c => exact follows_first d.table d.timing look now _ (.click c)
  | drag g => exact follows_first d.table d.timing look now _ (.drag g)

/-- An operation that is no input leaves nothing to do; an input leaves a plan that runs exactly what
is selected. -/
theorem plan?_selected :
    (d.plan? op = none ∧ d.selected? op = none) ∨
      ∃ p, d.plan? op = some (p, op.args) ∧ p.Follows (d.selected? op) := by
  cases offered : d.offer? op with
  | some x =>
    obtain ⟨b, look, now⟩ := x
    refine .inr ⟨_, plan?_of_offer offered, ?_⟩
    unfold selected?
    rw [offered]
    exact follows_reaction d b look now
  | none =>
    -- what is offered to no rule selects nothing, unless it is the end of a drag
    unfold selected?
    rw [offered]
    cases op with
    | handle input args look now =>
      cases input with
      | keyDown e =>
        have repeated : d.isRepeated e := by simpa [offer?] using offered
        exact .inr ⟨_, plan?_of_isRepeated args look now repeated, .answer _ rfl⟩
      | keyUp e => exact .inr ⟨_, rfl, .answer .unhandled rfl⟩
      | click c => cases offered
      | drag phase g =>
        cases phase with
        | start =>
          refine .inr ⟨_, plan?_dragStart d g args look now, .answer _ ?_⟩
          split <;> rfl
        | finish =>
          refine .inr ⟨_, plan?_dragFinish d g args look now, ?_⟩
          dsimp only
          cases d.gesture with
          | none => exact .answer .unhandled rfl
          | some pending => exact .run pending.chosen
        | cancel => exact .inr ⟨_, rfl, .answer .unhandled rfl⟩
    | handlePattern p args look now =>
      cases p with
      | single b => cases offered
      | chord k l => exact .inr ⟨_, rfl, .answer .unhandled rfl⟩
    | tick now hasFocus => exact .inl ⟨rfl, rfl⟩
    | reset => exact .inl ⟨rfl, rfl⟩
    | setTable t => exact .inl ⟨rfl, rfl⟩
    | takeNotices => exact .inl ⟨rfl, rfl⟩

/-- Only presses, clicks, single patterns and the ends of drags select a command. -/
theorem runsCommands_of_selected {m : Match} (selects : d.selected? op = some m) :
    op.runsCommands = true := by
  cases offered : d.offer? op with
  | some x =>
    obtain ⟨b, look, now⟩ := x
    obtain ⟨e, args, rfl, -, -⟩ | ⟨c, args, rfl, -⟩ | ⟨args, rfl⟩ := offer?_eq_some.mp offered <;> rfl
  | none =>
    unfold selected? at selects
    rw [offered] at selects
    dsimp only at selects
    split at selects
    · rfl
    · cases selects

/-! ## One step -/

/-- The executor gives a receipt for each call that an operation makes. -/
theorem receipts_entry (exec : Executor σ) (s : σ) :
    (entry exec s d op).receipts = (d.calls op).map fun call => ⟨call, exec.ask s call⟩ := by
  have kept : (entry exec s d op).receipts = (perform exec.receipting (s, []) d op).2.2.2 := rfl
  rw [kept, calls]
  cases plan : d.plan? op with
  | none => rw [perform_idle _ _ plan, List.map_nil]
  | some x =>
    obtain ⟨p, args⟩ := x
    rw [perform_plan _ _ plan]
    cases p with
    | answer a => simp [settle, Plan.calls]
    | invoke m =>
      cases composed : composeArguments args m.payload with
      | error missing => simp [settle, invoke, Plan.calls, composed]
      | ok given =>
        rcases ran : exec s m.command given with ⟨_ | _, after⟩ <;>
          simp [settle, invoke, Executor.receipting, Executor.ask, Plan.calls, composed, ran]

/-- Nothing of what an operation decides is told as the outcome of a command. -/
theorem filter_told : (d.told op).filter Notice.isOutcome = [] := by
  have expiry (now : Nat) : (d.expiry now).filter Notice.isOutcome = [] := by
    rw [Dispatcher.expiry]
    split <;> rfl
  have clearing : d.clearing.filter Notice.isOutcome = [] := by
    rw [Dispatcher.clearing]
    split <;> rfl
  cases offered : d.offer? op with
  | some x =>
    obtain ⟨b, look, now⟩ := x
    have reacts : (d.reaction b look now).told.filter Notice.isOutcome = [] := by
      unfold reaction react Reaction.second Reaction.first
      repeat' split
      all_goals rfl
    rw [told_of_offer offered, List.filter_append, expiry, reacts, List.append_nil]
  | none =>
    unfold told
    rw [offered]
    dsimp only
    split
    · exact expiry _
    · exact expiry _
    · exact clearing
    · exact clearing
    · exact clearing
    · rfl

/-- What a step tells of commands is what becomes of its own. -/
theorem outcomes_told (exec : Executor σ) (s : σ) :
    (step exec s d op).1.told.filter Notice.isOutcome = d.reported (exec.ask s) op := by
  have all : (d.reported (exec.ask s) op).filter Notice.isOutcome = d.reported (exec.ask s) op :=
    List.filter_eq_self.mpr fun n mem => isOutcome_of_mem_reported d op mem
  rw [told_step, List.filter_append, filter_told, all, List.nil_append]

/-- An operation is settled by a call, by a rejection, or without a command. -/
theorem settled_entry (exec : Executor σ) (s : σ) : (entry exec s d op).Settled := by
  have receipts := receipts_entry d op exec s
  have outcomes := outcomes_told d op exec s
  have rejections : (entry exec s d op).rejections = d.rejections op := rfl
  rw [calls] at receipts
  rw [reported] at outcomes
  rw [Dispatcher.rejections] at rejections
  obtain ⟨plan, idle⟩ | ⟨p, plan, follows⟩ := plan?_selected d op
  · rw [plan] at receipts outcomes
    rw [idle] at rejections
    refine .idle receipts rejections ?_ outcomes
    cases reply : (entry exec s d op).step.reply with
    | answer a =>
      obtain ⟨p, args, planned, -⟩ := exists_plan_of_reply reply
      rw [plan] at planned
      cases planned
    | _ => rfl
  · have reply := reply_step exec s plan
    rw [plan] at receipts outcomes
    generalize selects : d.selected? op = selected at follows
    rw [selects] at rejections
    cases follows with
    | answer a about =>
      refine .idle receipts rejections ?_ outcomes
      exact (congrArg Reply.command? reply).trans about
    | run m =>
      have runs := runsCommands_of_selected d op selects
      dsimp only [Plan.calls, Plan.outcome] at receipts outcomes reply rejections
      cases composed : composeArguments op.args m.payload with
      | error missing =>
        simp only [composed] at receipts outcomes reply rejections
        exact .rejected m missing runs receipts rejections reply outcomes
      | ok given =>
        cases asked : exec.ask s (m.command, given) with
        | ok accepted =>
          simp only [composed, asked, List.map_cons, List.map_nil] at receipts outcomes reply rejections
          exact .accepted m given runs receipts rejections reply outcomes
        | error error =>
          simp only [composed, asked, List.map_cons, List.map_nil] at receipts outcomes reply rejections
          exact .refused m given error runs receipts rejections reply outcomes

namespace Entry.Settled

variable {e : Entry} (settled : e.Settled)

include settled

theorem filter_told_eq : e.step.told.filter Notice.isOutcome = e.outcomes := by
  rw [outcomes]
  cases settled with
  | accepted m given _ receipts rejections _ told => rw [told, receipts, rejections]; rfl
  | refused m given error _ receipts rejections _ told => rw [told, receipts, rejections]; rfl
  | rejected m missing _ receipts rejections _ told => rw [told, receipts, rejections]; rfl
  | idle receipts rejections _ told => rw [told, receipts, rejections]; rfl

theorem balanced (calls : e.receipts.map Receipt.call = e.step.calls) : e.Balanced := by
  refine ⟨calls, ?_, ?_, ?_, ?_, ?_⟩
  all_goals clear calls
  all_goals
    cases settled with
    | accepted m given runs receipts _ reply =>
      simp [runs, receipts, reply, Reply.command?, Answer.command?]
    | refused m given error runs receipts _ reply =>
      simp [runs, receipts, reply, Reply.command?, Answer.command?]
    | rejected m missing _ receipts rejections reply => simp [receipts, rejections, reply]
    | idle receipts rejections reply =>
      have executes (command : String) (bubbles : Bool) :
          e.step.reply ≠ .answer (.executed command bubbles) := by
        intro executed
        rw [executed] at reply
        cases reply
      have fails (command : String) (bubbles : Bool) :
          e.step.reply ≠ .answer (.failed command bubbles) := by
        intro failed
        rw [failed] at reply
        cases reply
      simp [receipts, rejections, executes, fails]

end Entry.Settled

theorem balanced_entry (exec : Executor σ) (s : σ) : (entry exec s d op).Balanced := by
  refine (settled_entry d op exec s).balanced ?_
  have calls : (entry exec s d op).step.calls = d.calls op := calls_step exec s d op
  have call : Receipt.call ∘ (fun call => ⟨call, exec.ask s call⟩) = id := rfl
  rw [receipts_entry, calls, List.map_map, call, List.map_id]

/-! ## Runs -/

variable (exec : Executor σ) (s : σ) (ops : List Operation)

theorem map_step_ledger : (ledger exec s d ops).map Entry.step = steps exec s d ops := by
  induction ops generalizing s d with
  | nil => rfl
  | cons op ops ih =>
    rw [ledger, steps_cons, List.map_cons, ih]
    rfl

theorem exists_entry_of_mem {e : Entry} (mem : e ∈ ledger exec s d ops) :
    ∃ s d op, e = entry exec s d op := by
  induction ops generalizing s d with
  | nil => cases mem
  | cons op ops ih =>
    rw [ledger, List.mem_cons] at mem
    obtain rfl | later := mem
    · exact ⟨s, d, op, rfl⟩
    · exact ih _ _ later

/-- The notices of a run: those that the host took, and those that still wait. -/
def notified (exec : Executor σ) (s : σ) (d : Dispatcher) (ops : List Operation) : List Notice :=
  (steps exec s d ops).flatMap Step.taken ++ (run exec s d ops).notices

/-- Of the outcomes of commands a host is told those of the entries, in their order. -/
theorem filter_notified :
    (notified exec s d ops).filter Notice.isOutcome =
      d.notices.filter Notice.isOutcome ++ (ledger exec s d ops).flatMap Entry.outcomes := by
  have told (e : Entry) (mem : e ∈ ledger exec s d ops) :
      e.step.told.filter Notice.isOutcome = e.outcomes := by
    obtain ⟨s, d, op, rfl⟩ := exists_entry_of_mem d exec s ops mem
    exact (settled_entry d op exec s).filter_told_eq
  rw [notified, taken_append_waiting, List.filter_append, ← map_step_ledger, List.flatMap_map,
    List.filter_flatMap, List.flatMap_def, List.flatMap_def, List.map_congr_left told]

/-- What a host learns of commands, by a selection among their outcomes. -/
theorem filterMap_notified {α : Type} {select : Notice → Option α} {recorded : Entry → List α}
    (others : ∀ n : Notice, n.isOutcome = false → select n = none)
    (records : ∀ e : Entry, e.outcomes.filterMap select = recorded e) :
    (notified exec s d ops).filterMap select =
      d.notices.filterMap select ++ (ledger exec s d ops).flatMap recorded := by
  have entries : (ledger exec s d ops).flatMap (fun e => e.outcomes.filterMap select) =
      (ledger exec s d ops).flatMap recorded := by simp only [records]
  rw [← Notice.filterMap_filter_isOutcome others, filter_notified, List.filterMap_append,
    Notice.filterMap_filter_isOutcome others, List.filterMap_flatMap, entries]

/-- Calls, answers and notices balance: an operation makes at most one call, its answer tells whether
that call was accepted, and over a whole run the notices about commands are exactly those of the
calls that were accepted, of those that were refused, and of the arguments that were rejected,
whenever the host takes them. -/
theorem accounts_balance :
    (ledger exec s d ops).map Entry.step = steps exec s d ops ∧
      (∀ e ∈ ledger exec s d ops, e.Balanced) ∧
      (notified exec s d ops).filterMap Notice.accepted? =
        d.notices.filterMap Notice.accepted? ++
          (ledger exec s d ops).flatMap (·.receipts.filterMap Receipt.accepted?) ∧
      (notified exec s d ops).filterMap Notice.refused? =
        d.notices.filterMap Notice.refused? ++
          (ledger exec s d ops).flatMap (·.receipts.filterMap Receipt.refused?) ∧
      (notified exec s d ops).filterMap Notice.rejected? =
        d.notices.filterMap Notice.rejected? ++
          (ledger exec s d ops).flatMap (·.rejections.map fun r => (r.1, r.2.message)) := by
  refine ⟨map_step_ledger d exec s ops, ?_, ?_, ?_, ?_⟩
  · intro e mem
    obtain ⟨s, d, op, rfl⟩ := exists_entry_of_mem d exec s ops mem
    exact balanced_entry d op exec s
  · exact filterMap_notified d exec s ops (fun n other => by cases n <;> first | rfl | cases other)
      Entry.accepted_outcomes
  · exact filterMap_notified d exec s ops (fun n other => by cases n <;> first | rfl | cases other)
      Entry.refused_outcomes
  · exact filterMap_notified d exec s ops (fun n other => by cases n <;> first | rfl | cases other)
      Entry.rejected_outcomes

end Dispatcher

end Shortcuts
