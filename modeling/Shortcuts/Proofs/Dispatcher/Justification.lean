import Shortcuts.Proofs.Dispatcher.Transition
import Shortcuts.Proofs.Resolution.Deciding
/-!
# Why a command runs

Each call that an executor receives is justified by the inputs (`calls_justified`): the table in
force has a rule for exactly that input, or for the chord that it completes, or for the drag that it
ends, and the context in which that was decided fulfils the rule's condition.  `Explained` is the
invariant: the chord and the drag in progress, which a call may depend on, go back to an input that
nothing has undone since.
-/

namespace Shortcuts

/-- A call is that of a rule: its command, its payload composed with the arguments of a caller. -/
def Rule.Makes (r : Rule) (args : List Payload) (call : Call) : Prop :=
  r.command = some call.1 ∧ composeArguments args r.payload = .ok call.2

namespace Dispatcher

/-! ## Inputs that calls go back to -/

namespace Step

/-- The key stroke that a step let through to the rules: that of a press that was not dropped. -/
def stroke? (x : Step) : Option Stroke :=
  match x.op with
  | .handle (.keyDown e) _ _ _ => if x.reply.isFiltered then none else some e.stroke
  | .handlePattern (.single (.stroke s)) _ _ _ => some s
  | _ => none

/-- Whether a step ends a drag in progress, be it to begin another. -/
def dropsGesture (x : Step) : Bool :=
  match x.op with
  | .handle (.drag _ _) _ _ _ | .reset | .setTable _ => true
  | _ => false

/-- A step let the first key of a chord through. -/
structure OpensChord (first : Stroke) (entered : Nat) (x : Step) : Prop where
  stroke : x.stroke? = some first
  pending : x.reply = .answer .chordPending
  time : x.op.now? = some entered

/-- A step began a drag for which a rule has a command. -/
structure BeginsDrag (g : Drag) (look : Lookup) (x : Step) : Prop where
  start : ∃ args now, x.op = .handle (.drag .start g) args look now
  armed : x.reply = .answer .selectionArmed

end Step

/-- The last key stroke that was let through opened a chord with `first`, at most `timeout` ago, and
nothing has ended that chord since. -/
def ChordWaits (timeout now : Nat) (first : Stroke) (past : List Step) : Prop :=
  ∃ entered, now - entered ≤ timeout ∧
    Since (Step.OpensChord first entered) (fun x => x.stroke? = none ∧ x.op.dropsChord = false) past

/-- The last drag began with `g`, in a context, and nothing has ended it since. -/
def DragGoesOn (g : Drag) (look : Lookup) (past : List Step) : Prop :=
  Since (Step.BeginsDrag g look) (fun x => x.dropsGesture = false) past

/-- A call is justified by the table in force, by its operation and by what happened before. -/
def Justified (timeout : Nat) (past : List Step) (x : Step) (call : Call) : Prop :=
  match x.op with
  | .handle (.keyDown e) args look now =>
    ∃ r ∈ x.before.table.rules.toList, r.Makes args call ∧ r.applies look ∧
      (r.pattern = .single (.stroke e.stroke) ∨
        ∃ first, r.pattern = .chord first e.stroke ∧ ChordWaits timeout now first past)
  | .handle (.click c) args look _ =>
    ∃ r ∈ x.before.table.rules.toList, r.Makes args call ∧ r.applies look ∧
      r.pattern = .single (.click c)
  | .handle (.drag .finish _) args _ _ =>
    ∃ r ∈ x.before.table.rules.toList, r.Makes args call ∧
      ∃ g look, r.pattern = .single (.drag g) ∧ r.applies look ∧ DragGoesOn g look past
  | .handlePattern (.single b) args look now =>
    ∃ r ∈ x.before.table.rules.toList, r.Makes args call ∧ r.applies look ∧
      (r.pattern = .single b ∨
        ∃ first second, b = .stroke second ∧ r.pattern = .chord first second ∧
          ChordWaits timeout now first past)
  | _ => False

/-- What is in progress goes back to an input of the past. -/
structure Explained (timing : ChordTiming) (past : List Step) (d : Dispatcher) : Prop where
  timing_eq : d.timing = timing
  chord : ∀ c, d.chord = some c → ∃ first : Stroke, c.first = first.encode ∧
    Since (Step.OpensChord first c.enteredAt)
      (fun x => x.stroke? = none ∧ x.op.dropsChord = false) past
  gesture : ∀ g, d.gesture = some g → ∃ look,
    d.table.resolve look none (Binding.drag g.drag).encode = some (.execute g.chosen) ∧
      DragGoesOn g.drag look past

variable {σ : Type} {d : Dispatcher} {timing : ChordTiming} {past : List Step}

/-! ## One step -/

/-- A step lets exactly the key strokes through that it offers to the rules. -/
theorem stroke?_step (exec : Executor σ) (s : σ) {op : Operation} {k : Stroke} :
    (step exec s d op).1.stroke? = some k ↔
      ∃ look now, d.offer? op = some (.stroke k, look, now) := by
  rw [Step.stroke?, op_step]
  cases op with
  | handle input args look now =>
    cases input with
    | keyDown e =>
      have filtered := isFiltered_press exec s d e args look now
      cases repeated : d.isRepeated e with
      | true => simp [filtered, repeated, offer?]
      | false => simp [filtered, repeated, offer?]
    | keyUp e => simp [offer?]
    | click c => simp [offer?]
    | drag phase g => simp [offer?]
  | handlePattern p args look now =>
    cases p with
    | single b => cases b <;> simp [offer?]
    | chord s t => simp [offer?]
  | tick now hasFocus => simp [offer?]
  | reset => simp [offer?]
  | setTable t => simp [offer?]
  | takeNotices => simp [offer?]

theorem stroke?_step_eq_none (exec : Executor σ) (s : σ) {op : Operation}
    (silent : d.Silent op) : (step exec s d op).1.stroke? = none := by
  rw [Option.eq_none_iff_forall_ne_some]
  intro k through
  obtain ⟨look, now, offered⟩ := (stroke?_step exec s).mp through
  exact silent k look now offered

/-- A step that lets the first key of a chord through opens the chord. -/
theorem opensChord_step (exec : Executor σ) (s : σ) {op : Operation} {first : Stroke}
    {look : Lookup} {now : Nat} (offered : d.offer? op = some (.stroke first, look, now))
    (plan : (d.reaction (.stroke first) look now).plan = .answer .chordPending) :
    Step.OpensChord first now (step exec s d op).1 := by
  have pending : d.plan? op = some (.answer .chordPending, op.args) := by
    rw [plan?_of_offer offered, plan]
  exact ⟨(stroke?_step exec s).mpr ⟨look, now, offered⟩, reply_step exec s pending,
    now?_of_offer offered⟩

/-- On a table of one chord its first key opens the chord. -/
theorem reaction_chord (a b : Stroke) (command : String) (timing : ChordTiming)
    (tracksRelease : Bool) (look : Lookup) (now : Nat) :
    (new (.ofRules [.run (.chord a b) command]) timing tracksRelease).reaction (.stroke a) look now =
      ⟨.answer .chordPending, some (.enter a.encode a.label now timing),
        [.chordStarted a.label]⟩ := by
  have enters := (RuleTable.resolve_chord a b command look).1
  generalize RuleTable.ofRules [.run (.chord a b) command] = table at enters ⊢
  have idle : (new table timing tracksRelease).reaction (.stroke a) look now =
      .first table timing none (.stroke a) look now := rfl
  have encode : (Binding.stroke a).encode = a.encode := rfl
  rw [idle, Reaction.first, encode, enters]
  rfl

/-- A drag is in progress because the step began it, or because it was before and the step did not
end it. -/
theorem of_gestureAfter (exec : Executor σ) (s : σ) {op : Operation} {g : PendingGesture}
    (waits : d.gestureAfter op = some g) :
    (∃ look, d.table.resolve look none (Binding.drag g.drag).encode = some (.execute g.chosen) ∧
        d.tableAfter op = d.table ∧ Step.BeginsDrag g.drag look (step exec s d op).1) ∨
      (d.gesture = some g ∧ d.tableAfter op = d.table ∧
        (step exec s d op).1.dropsGesture = false) := by
  cases op with
  | handle input args look now =>
    cases input with
    | drag phase drag =>
      cases phase with
      | start =>
        obtain ⟨rfl, found⟩ := PendingGesture.begin?_eq_some.mp waits
        have armed := (reply_dragStart exec s d g.drag args look now).mpr ⟨g.chosen, found⟩
        exact .inl ⟨look, found, rfl, ⟨args, now, rfl⟩, armed⟩
      | finish => cases waits
      | cancel => cases waits
    | _ => exact .inr ⟨waits, rfl, rfl⟩
  | handlePattern p args look now => exact .inr ⟨waits, rfl, rfl⟩
  | tick now hasFocus => exact .inr ⟨waits, rfl, rfl⟩
  | takeNotices => exact .inr ⟨waits, rfl, rfl⟩
  | reset => cases waits
  | setTable t => cases waits

/-! ## Runs -/

theorem Explained.step (explained : Explained timing past d) (exec : Executor σ) (s : σ)
    (op : Operation) :
    Explained timing (past ++ [(step exec s d op).1]) (step exec s d op).1.after where
  timing_eq := (timing_after exec s d op).trans explained.timing_eq
  chord c waits := by
    rw [chord_after] at waits
    obtain ⟨first, look, now, offered, plan, rfl⟩ | ⟨silent, keeps, c', tick, waited, rfl⟩ :=
      of_chordAfter waits
    · exact ⟨first, rfl, .now past (opensChord_step exec s offered plan)⟩
    · obtain ⟨first, encoding, since⟩ := explained.chord c' waited
      exact ⟨first, encoding, since.later ⟨stroke?_step_eq_none exec s silent, keeps⟩⟩
  gesture g waits := by
    rw [gesture_after] at waits
    rw [table_after]
    obtain ⟨look, found, same, begins⟩ | ⟨before, same, keeps⟩ := of_gestureAfter exec s waits
    · exact ⟨look, same ▸ found, .now past begins⟩
    · obtain ⟨look, found, since⟩ := explained.gesture g before
      exact ⟨look, same ▸ found, since.later keeps⟩

theorem Explained.rule_of_invoke (explained : Explained timing past d) {b : Binding} {look : Lookup}
    {now : Nat} {m : Match} (plan : (d.reaction b look now).plan = .invoke m) :
    ∃ r ∈ d.table.rules.toList, r.resolution = .execute m ∧ r.applies look ∧
      (r.pattern = .single b ∨ ∃ first second, b = .stroke second ∧
        r.pattern = .chord first second ∧ ChordWaits timing.timeout now first past) := by
  obtain found | ⟨second, c, rfl, waits, found⟩ := of_react_invoke plan
  · obtain ⟨r, mem, pattern, applies, resolution⟩ := RuleTable.exists_rule_of_first found
    exact ⟨r, mem, resolution, applies, .inl pattern⟩
  · obtain ⟨waited, inTime⟩ := freshChord_eq_some.mp waits
    obtain ⟨first, encoding, since⟩ := explained.chord c waited
    rw [encoding] at found
    obtain ⟨r, mem, pattern, applies, resolution⟩ := RuleTable.exists_rule_of_second found
    rw [explained.timing_eq] at inTime
    exact ⟨r, mem, resolution, applies, .inr ⟨first, second, rfl, pattern, c.enteredAt, inTime,
      since⟩⟩

theorem Explained.justified (explained : Explained timing past d) (exec : Executor σ) (s : σ)
    {op : Operation} {call : Call} (made : call ∈ (Dispatcher.step exec s d op).1.calls) :
    Justified timing.timeout past (Dispatcher.step exec s d op).1 call := by
  rw [calls_step] at made
  obtain ⟨m, command, composed, ⟨b, look, now, offered, plan⟩ | atEnd⟩ := of_mem_calls made
  · obtain ⟨r, mem, resolution, applies, pattern⟩ := explained.rule_of_invoke plan
    obtain ⟨runs, payload, -⟩ := Rule.resolution_eq_execute.mp resolution
    have makes : r.Makes op.args call := ⟨command ▸ runs, payload ▸ composed⟩
    obtain ⟨e, args, rfl, -, rfl⟩ | ⟨c, args, rfl, rfl⟩ | ⟨args, rfl⟩ := offer?_eq_some.mp offered
    · refine ⟨r, mem, makes, applies, ?_⟩
      obtain single | ⟨first, second, same, chord, waits⟩ := pattern
      · exact .inl single
      · cases same
        exact .inr ⟨first, chord, waits⟩
    · obtain single | ⟨first, second, same, -, -⟩ := pattern
      · exact ⟨r, mem, makes, applies, single⟩
      · cases same
    · exact ⟨r, mem, makes, applies, pattern⟩
  · obtain ⟨drag, args, look, now, g, rfl, gesture, rfl⟩ := atEnd
    obtain ⟨look', found, since⟩ := explained.gesture g gesture
    obtain ⟨r, mem, pattern, applies, resolution⟩ := RuleTable.exists_rule_of_first found
    obtain ⟨runs, payload, -⟩ := Rule.resolution_eq_execute.mp resolution
    exact ⟨r, mem, ⟨command ▸ runs, payload ▸ composed⟩, g.drag, look', pattern, applies, since⟩

/-- Every call of a run is justified by the inputs, whatever the executor does and whatever the
clock shows. -/
theorem calls_justified (exec : Executor σ) (s : σ) (table : RuleTable) (timing : ChordTiming)
    (tracksRelease : Bool) (ops : List Operation) (past newer : List Step) (x : Step) (call : Call)
    (split : steps exec s (new table timing tracksRelease) ops = past ++ x :: newer)
    (made : call ∈ x.calls) : Justified timing.timeout past x call := by
  have start : Explained timing [] (new table timing tracksRelease) :=
    ⟨rfl, fun _ waits => (nomatch waits), fun _ waits => (nomatch waits)⟩
  obtain ⟨explained, s, same⟩ :=
    inv_of_split start (fun past d s op explained => explained.step exec s op) split
  rw [same] at made ⊢
  exact explained.justified exec s made

/-- The second key of a chord runs its command one second after the first key. -/
theorem calls_justified_chord :
    let k := Stroke.ofKey (.char 'k') .onlyCtrl
    let table := RuleTable.ofRules [.run (.chord k k) "saveAll"]
    let press := fun now =>
      Operation.handle (.keyDown (.press (.char 'k') .onlyCtrl)) [] Context.empty.get? now
    let exec : Executor Unit := fun s _ _ => (.ok (), s)
    ∃ past x newer,
      steps exec () (new table .standard false) [press 0, press 1000] = past ++ x :: newer ∧
        ("saveAll", []) ∈ x.calls ∧ Justified 5000 past x ("saveAll", []) := by
  intro k table press exec
  obtain ⟨enters, runs⟩ : table.resolve Context.empty.get? none k.encode = some .enterChord ∧
      table.resolve Context.empty.get? (some k.encode) k.encode =
        some (.execute ⟨"saveAll", none, false⟩) := RuleTable.resolve_chord k k "saveAll" _
  clear_value table
  let d := new table .standard false
  let first := step exec () d (press 0)
  let second := step exec first.2 first.1.after (press 1000)
  have split : steps exec () d [press 0, press 1000] = [first.1] ++ second.1 :: [] := by
    rw [steps_cons, steps_cons, steps, List.singleton_append]
  have made : ("saveAll", []) ∈ second.1.calls := by
    have after : first.1.after = _ := after_step exec () d (press 0)
    have opened : d.chordAfter (press 0) = some (.enter k.encode k.label 0 .standard) := by
      have offered : d.offer? (press 0) = some (.stroke k, Context.empty.get?, 0) := rfl
      have reaction : d.reaction (.stroke k) Context.empty.get? 0 =
          .first table .standard none (.stroke k) Context.empty.get? 0 := rfl
      have encode : (Binding.stroke k).encode = k.encode := rfl
      rw [chordAfter_of_offer offered, reaction, Reaction.first, encode, enters]
      rfl
    have offered : first.1.after.offer? (press 1000) =
        some (.stroke k, Context.empty.get?, 1000) := by
      rw [after, move_eq]
      rfl
    have reaction : first.1.after.reaction (.stroke k) Context.empty.get? 1000 =
        .second table (.enter k.encode k.label 0 .standard) k Context.empty.get? := by
      rw [after, move_eq, opened]
      rfl
    have executes : Reaction.second table (.enter k.encode k.label 0 .standard) k
        Context.empty.get? = ⟨.invoke ⟨"saveAll", none, false⟩, none, [.chordCleared]⟩ := by
      have same : (PendingChord.enter k.encode k.label 0 .standard).first = k.encode := rfl
      rw [Reaction.second, same, runs]
    rw [calls_step, calls, plan?_of_offer offered, reaction, executes]
    exact List.mem_singleton_self _
  exact ⟨[first.1], second.1, [], split, made,
    calls_justified exec () table .standard false _ _ [] _ _ split made⟩

end Dispatcher

end Shortcuts
