import Shortcuts.Proofs.Dispatcher.Reaction
/-!
# What an operation changes

Each part of a dispatcher after an operation, as a function of what the operation reads (`move_eq`):
the table, the chord, the drag, the keys that were pressed and are held, and the notices.  What an
operation leaves alone, and what two dispatchers must share to go on alike, is read off these
functions, without another look at the steps.
-/

namespace Shortcuts

def Operation.args : Operation → List Payload
  | .handle _ args _ _ | .handlePattern _ args _ _ => args
  | .tick _ _ | .reset | .setTable _ | .takeNotices => []

/-- Whether an operation ends the chord in progress although no key came and time is left. -/
def Operation.dropsChord : Operation → Bool
  | .tick _ false | .reset | .setTable _ => true
  | _ => false

/-- The drag in progress carries the command that the table has for it. -/
theorem PendingGesture.begin?_eq_some {t : RuleTable} {look : Lookup} {drag : Drag}
    {g : PendingGesture} :
    begin? t look drag = some g ↔
      g.drag = drag ∧ t.resolve look none drag.encode = some (.execute g.chosen) := by
  obtain ⟨drag', chosen⟩ := g
  unfold begin?
  split
  next m found =>
    rw [found]
    simp only [Option.some.injEq, mk.injEq, Resolution.execute.injEq]
    rw [eq_comm (a := drag)]
  next other =>
    simp only [reduceCtorEq, false_iff, not_and]
    rintro - found
    exact other _ found

namespace Dispatcher

/-- The reaction of a dispatcher to a binding, after a chord that has waited too long is left. -/
def reaction (d : Dispatcher) (b : Binding) (look : Lookup) (now : Nat) : Reaction :=
  react d.table d.timing (d.freshChord now) b look now

/-- The binding that an operation offers to the rules, with the context and the time. -/
def offer? (d : Dispatcher) : Operation → Option (Binding × Lookup × Nat)
  | .handle (.keyDown e) _ look now =>
    if d.isRepeated e then none else some (.stroke e.stroke, look, now)
  | .handle (.click c) _ look now => some (.click c, look, now)
  | .handlePattern (.single b) _ look now => some (b, look, now)
  | _ => none

/-- Presses that are no repeats, clicks and patterns of one binding are offered; nothing else is. -/
theorem offer?_eq_some {d : Dispatcher} {op : Operation} {b : Binding} {look : Lookup} {now : Nat} :
    d.offer? op = some (b, look, now) ↔
      (∃ e args, op = .handle (.keyDown e) args look now ∧ d.isRepeated e = false ∧
        b = .stroke e.stroke) ∨
      (∃ c args, op = .handle (.click c) args look now ∧ b = .click c) ∨
      ∃ args, op = .handlePattern (.single b) args look now := by
  constructor
  · intro offered
    cases op with
    | handle input args look' now' =>
      cases input with
      | keyDown e =>
        cases repeated : d.isRepeated e with
        | true => simp [offer?, repeated] at offered
        | false =>
          rw [offer?, repeated] at offered
          cases offered
          exact .inl ⟨e, args, rfl, repeated, rfl⟩
      | keyUp e => cases offered
      | click c =>
        cases offered
        exact .inr (.inl ⟨c, args, rfl, rfl⟩)
      | drag phase g => cases offered
    | handlePattern p args look' now' =>
      cases p with
      | single b' =>
        cases offered
        exact .inr (.inr ⟨args, rfl⟩)
      | chord s t => cases offered
    | tick now' hasFocus => cases offered
    | reset => cases offered
    | setTable t => cases offered
    | takeNotices => cases offered
  · rintro (⟨e, args, rfl, fresh, rfl⟩ | ⟨c, args, rfl, rfl⟩ | ⟨args, rfl⟩)
    · simp [offer?, fresh]
    · rfl
    · rfl

theorem offer?_press {d : Dispatcher} {e : KeyEvent} (args : List Payload) (look : Lookup) (now : Nat)
    (fresh : d.isRepeated e = false) :
    d.offer? (.handle (.keyDown e) args look now) = some (.stroke e.stroke, look, now) :=
  offer?_eq_some.mpr (.inl ⟨e, args, rfl, fresh, rfl⟩)

theorem now?_of_offer {d : Dispatcher} {op : Operation} {b : Binding} {look : Lookup} {now : Nat}
    (offered : d.offer? op = some (b, look, now)) : op.now? = some now := by
  obtain ⟨e, args, rfl, -, -⟩ | ⟨c, args, rfl, -⟩ | ⟨args, rfl⟩ := offer?_eq_some.mp offered <;> rfl

def tableAfter (d : Dispatcher) : Operation → RuleTable
  | .setTable t => t
  | _ => d.table

def chordAfter (d : Dispatcher) (op : Operation) : Option PendingChord :=
  match d.offer? op with
  | some (b, look, now) => (d.reaction b look now).chord
  | none =>
    match op with
    | .handle (.drag .start _) _ _ now => d.freshChord now
    | .tick now true => (d.freshChord now).map (·.postpone now d.timing)
    | .tick _ false | .reset | .setTable _ => none
    | _ => d.chord

theorem chordAfter_of_offer {d : Dispatcher} {op : Operation} {b : Binding} {look : Lookup}
    {now : Nat} (offered : d.offer? op = some (b, look, now)) :
    d.chordAfter op = (d.reaction b look now).chord := by
  unfold chordAfter
  rw [offered]

def Silent (d : Dispatcher) (op : Operation) : Prop :=
  ∀ k look now, d.offer? op ≠ some (.stroke k, look, now)

theorem chordAfter_of_dropsChord {d : Dispatcher} {op : Operation} (drops : op.dropsChord = true) :
    d.chordAfter op = none := by
  cases op with
  | tick now hasFocus =>
    cases hasFocus with
    | true => cases drops
    | false => rfl
  | reset => rfl
  | setTable t => rfl
  | _ => cases drops

/-- Without a key stroke the chord in progress goes on, unless it has waited too long or is dropped;
a check on it puts the next one off. -/
theorem chordAfter_of_silent {d : Dispatcher} {op : Operation} (silent : d.Silent op)
    (goesOn : op.dropsChord = false) :
    d.chordAfter op = d.chord ∨ ∃ now, op.now? = some now ∧
      (d.chordAfter op = d.freshChord now ∨
        d.chordAfter op = (d.freshChord now).map (·.postpone now d.timing)) := by
  cases offered : d.offer? op with
  | some x =>
    obtain ⟨b, look, now⟩ := x
    have other : b.isStroke = false := by
      cases b with
      | stroke k => exact absurd offered (silent k look now)
      | click c => rfl
      | drag g => rfl
    -- a click that finds a stale chord drops it, and that is all
    refine .inr ⟨now, now?_of_offer offered, .inl ?_⟩
    rw [chordAfter_of_offer offered, reaction, chord_react_of_not_stroke other]
  | none =>
    unfold chordAfter
    rw [offered]
    cases op with
    | handle input args look now =>
      cases input with
      | drag phase g =>
        cases phase with
        | start => exact .inr ⟨now, rfl, .inl rfl⟩
        | finish => exact .inl rfl
        | cancel => exact .inl rfl
      | _ => exact .inl rfl
    | handlePattern p args look now => exact .inl rfl
    | tick now hasFocus =>
      cases hasFocus with
      | true => exact .inr ⟨now, rfl, .inr rfl⟩
      | false => cases goesOn
    | reset => cases goesOn
    | setTable t => cases goesOn
    | takeNotices => exact .inl rfl

/-- Without a key stroke no chord begins, and the one in progress is at most checked later. -/
theorem exists_chord_of_silent {d : Dispatcher} {op : Operation} {c : PendingChord}
    (silent : d.Silent op) (waits : d.chordAfter op = some c) :
    op.dropsChord = false ∧ ∃ c' tick, d.chord = some c' ∧ c = { c' with nextTick := tick } := by
  cases drops : op.dropsChord with
  | true =>
    rw [chordAfter_of_dropsChord drops] at waits
    cases waits
  | false =>
    refine ⟨rfl, ?_⟩
    obtain same | ⟨now, -, same | same⟩ := chordAfter_of_silent silent drops
    · exact ⟨c, c.nextTick, same ▸ waits, rfl⟩
    · rw [same] at waits
      exact ⟨c, c.nextTick, (freshChord_eq_some.mp waits).1, rfl⟩
    · rw [same] at waits
      obtain ⟨c', fresh, rfl⟩ := Option.map_eq_some_iff.mp waits
      exact ⟨c', now + d.timing.tick, (freshChord_eq_some.mp fresh).1, rfl⟩

/-- A chord is in progress because its first key was just let through, or because it was before and
no key came. -/
theorem of_chordAfter {d : Dispatcher} {op : Operation} {c : PendingChord}
    (waits : d.chordAfter op = some c) :
    (∃ k look now, d.offer? op = some (.stroke k, look, now) ∧
        (d.reaction (.stroke k) look now).plan = .answer .chordPending ∧
        c = .enter k.encode k.label now d.timing) ∨
      (d.Silent op ∧ op.dropsChord = false ∧
        ∃ c' tick, d.chord = some c' ∧ c = { c' with nextTick := tick }) := by
  by_cases struck : ∃ k look now, d.offer? op = some (.stroke k, look, now)
  · obtain ⟨k, look, now, offered⟩ := struck
    rw [chordAfter_of_offer offered] at waits
    exact .inl ⟨k, look, now, offered, of_chord_react waits⟩
  · have silent : d.Silent op := fun k look now offered => struck ⟨k, look, now, offered⟩
    exact .inr ⟨silent, exists_chord_of_silent silent waits⟩

/-- The next check on a chord is a tick after the operation, or at the time that was asked for before
it. -/
theorem nextTick_of_chordAfter {d : Dispatcher} {op : Operation} {c : PendingChord}
    (waits : d.chordAfter op = some c) :
    (∃ c', d.chord = some c' ∧ c'.nextTick = c.nextTick) ∨
      ∃ now, op.now? = some now ∧ c.nextTick = now + d.timing.tick := by
  obtain ⟨k, look, now, offered, -, rfl⟩ | ⟨silent, goesOn, -⟩ := of_chordAfter waits
  · exact .inr ⟨now, now?_of_offer offered, rfl⟩
  · obtain same | ⟨now, at_now, same | same⟩ := chordAfter_of_silent silent goesOn
    · exact .inl ⟨c, same ▸ waits, rfl⟩
    · rw [same] at waits
      exact .inl ⟨c, (freshChord_eq_some.mp waits).1, rfl⟩
    · rw [same] at waits
      obtain ⟨c', -, rfl⟩ := Option.map_eq_some_iff.mp waits
      exact .inr ⟨now, at_now, rfl⟩

def gestureAfter (d : Dispatcher) : Operation → Option PendingGesture
  | .handle (.drag .start g) _ look _ => PendingGesture.begin? d.table look g
  | .handle (.drag .finish _) _ _ _ | .handle (.drag .cancel _) _ _ _ => none
  | .reset | .setTable _ => none
  | _ => d.gesture

def consumedAfter (d : Dispatcher) : Operation → List (KeyIdentity × Bool)
  | .handle (.keyDown e) _ look now =>
    if d.isRepeated e then d.consumed
    else
      let prevents := (d.reaction (.stroke e.stroke) look now).plan.ifAccepted.preventsDefault
      (e.identity, prevents) :: d.consumed.filter (·.1 != e.identity)
  | .reset | .setTable _ => []
  | _ => d.consumed

def heldAfter (d : Dispatcher) : Operation → List KeyIdentity
  | .handle (.keyDown e) _ _ _ =>
    if !d.isRepeated e && d.tracksRelease then e.identity :: d.held.filter (· != e.identity)
    else d.held
  | .handle (.keyUp e) _ _ _ => d.held.filter (· != e.identity)
  | .tick _ false | .reset | .setTable _ => []
  | _ => d.held

/-- What the host is told when the chord in progress, if any, is left. -/
def clearing (d : Dispatcher) : List Notice := if d.chord.isSome then [.chordCleared] else []

/-- What the host is told by an operation, apart from what becomes of its command. -/
def told (d : Dispatcher) (op : Operation) : List Notice :=
  match d.offer? op with
  | some (b, look, now) => d.expiry now ++ (d.reaction b look now).told
  | none =>
    match op with
    | .handle (.drag .start _) _ _ now | .tick now true => d.expiry now
    | .tick _ false | .reset | .setTable _ => d.clearing
    | _ => []

theorem told_of_offer {d : Dispatcher} {op : Operation} {b : Binding} {look : Lookup} {now : Nat}
    (offered : d.offer? op = some (b, look, now)) :
    d.told op = d.expiry now ++ (d.reaction b look now).told := by
  unfold told
  rw [offered]

def noticesAfter (d : Dispatcher) (op : Operation) : List Notice :=
  match op with
  | .takeNotices => []
  | _ => d.notices ++ d.told op

theorem leaveChord_eq (d : Dispatcher) :
    d.leaveChord = { d with chord := none, notices := d.notices ++ d.clearing } := by
  obtain ⟨table, timing, chord, gesture, consumed, held, tracks, notices⟩ := d
  cases chord <;> simp [leaveChord, notify, clearing]

theorem planDrop_eq (d : Dispatcher) :
    d.planDrop =
      ((d.gesture.map PendingGesture.chosen).elim (.answer .unhandled) .invoke,
        { d with gesture := none }) := by
  obtain ⟨table, timing, chord, gesture, consumed, held, tracks, notices⟩ := d
  cases gesture <;> rfl

theorem move_tick (d : Dispatcher) (now : Nat) (hasFocus : Bool) :
    (d.tick now hasFocus).2 =
      { d with
        chord := d.chordAfter (.tick now hasFocus)
        held := d.heldAfter (.tick now hasFocus)
        notices := d.notices ++ d.told (.tick now hasFocus) } := by
  obtain ⟨table, timing, chord, gesture, consumed, held, tracks, notices⟩ := d
  cases chord with
  | none =>
    cases hasFocus <;>
      simp [tick, chordAfter, heldAfter, told, offer?, freshChord, expiry, clearing]
  | some c =>
    cases hasFocus with
    | false => simp [tick, leaveChord_eq, chordAfter, heldAfter, told, offer?, clearing]
    | true =>
      cases expired : c.isExpired now timing.timeout <;>
        simp [tick, leaveChord_eq, chordAfter, heldAfter, told, offer?, freshChord, expiry,
          clearing, expired, Option.filter]

/-- All that an operation does to a dispatcher before an executor is asked. -/
theorem move_eq (d : Dispatcher) (op : Operation) :
    d.move op =
      ⟨d.tableAfter op, d.timing, d.chordAfter op, d.gestureAfter op, d.consumedAfter op,
        d.heldAfter op, d.tracksRelease, d.noticesAfter op⟩ := by
  cases op with
  | handle input args look now =>
    cases input with
    | keyDown e =>
      simp only [move, planInput, planPress, planBinding_eq]
      cases repeated : d.isRepeated e <;>
        simp [tableAfter, chordAfter, gestureAfter, consumedAfter, heldAfter, noticesAfter, told,
          offer?, repeated, rememberPress, reaction]
    | keyUp e =>
      simp only [noticesAfter, told, offer?, List.append_nil]
      rfl
    | click c =>
      rw [move, planInput, planBinding_eq]
      rfl
    | drag phase g =>
      cases phase with
      | start =>
        rw [move, planInput, beginDrag, expireChord_eq]
        rfl
      | finish =>
        simp only [move, planInput, planDrop_eq, noticesAfter, told, offer?, List.append_nil]
        rfl
      | cancel =>
        simp only [noticesAfter, told, offer?, List.append_nil]
        rfl
  | handlePattern p args look now =>
    cases p with
    | single b =>
      rw [move, planPattern, planBinding_eq]
      rfl
    | chord s t =>
      simp only [noticesAfter, told, offer?, List.append_nil]
      rfl
  | tick now hasFocus => exact move_tick d now hasFocus
  | reset =>
    rw [move, reset, leaveChord_eq]
    rfl
  | setTable t =>
    rw [move, setTable, reset, leaveChord_eq]
    rfl
  | takeNotices => rfl

/-! ## States after a step -/

section

variable {σ : Type} (exec : Executor σ) (s : σ) (d : Dispatcher) (op : Operation)

theorem table_after :
    (step exec s d op).1.after.table = d.tableAfter op := by
  rw [after_step, move_eq]

theorem chord_after :
    (step exec s d op).1.after.chord = d.chordAfter op := by
  rw [after_step, move_eq]

theorem gesture_after :
    (step exec s d op).1.after.gesture = d.gestureAfter op := by
  rw [after_step, move_eq]

theorem timing_after :
    (step exec s d op).1.after.timing = d.timing := by
  rw [after_step, move_eq]

theorem consumed_after :
    (step exec s d op).1.after.consumed = d.consumedAfter op := by
  rw [after_step, move_eq]

theorem held_after :
    (step exec s d op).1.after.held = d.heldAfter op := by
  rw [after_step, move_eq]

theorem tracksRelease_after :
    (step exec s d op).1.after.tracksRelease = d.tracksRelease := by
  rw [after_step, move_eq]

end

/-! ## Plans and calls -/

theorem plan?_of_offer {d : Dispatcher} {op : Operation} {b : Binding} {look : Lookup} {now : Nat}
    (offered : d.offer? op = some (b, look, now)) :
    d.plan? op = some ((d.reaction b look now).plan, op.args) := by
  obtain ⟨e, args, rfl, fresh, rfl⟩ | ⟨c, args, rfl, rfl⟩ | ⟨args, rfl⟩ := offer?_eq_some.mp offered
  · simp [plan?, planInput, planPress, fresh, planBinding_eq, reaction, Operation.args]
  · simp [plan?, planInput, planBinding_eq, reaction, Operation.args]
  · simp [plan?, planPattern, planBinding_eq, reaction, Operation.args]

/-- A repeat is dropped, and nothing else happens. -/
theorem plan?_of_isRepeated {d : Dispatcher} {e : KeyEvent} (args : List Payload) (look : Lookup)
    (now : Nat) (repeated : d.isRepeated e = true) :
    d.plan? (.handle (.keyDown e) args look now) =
      some (.answer (.filtered (d.wasConsumed e.identity)), args) := by
  simp [plan?, planInput, planPress, repeated]

/-- A press is answered as filtered exactly when it is dropped as a repeat. -/
theorem isFiltered_press {σ : Type} (exec : Executor σ) (s : σ) (d : Dispatcher) (e : KeyEvent)
    (args : List Payload) (look : Lookup) (now : Nat) :
    (step exec s d (.handle (.keyDown e) args look now)).1.reply.isFiltered = d.isRepeated e := by
  cases repeated : d.isRepeated e with
  | true =>
    have plan := plan?_of_isRepeated args look now repeated
    simp [reply_step exec s plan, Plan.outcome, Reply.isFiltered]
  | false =>
    have offered := offer?_press args look now repeated
    -- what a rule has done with a press is never to filter it
    have through (a : Answer) (yields : (d.reaction (.stroke e.stroke) look now).plan.Yields a) :
        (Reply.answer a).isFiltered = false := by
      generalize plan : (d.reaction (.stroke e.stroke) look now).plan = p at yields
      cases yields with
      | answer a =>
        cases a with
        | filtered prevents => exact absurd plan react_ne_filtered
        | _ => rfl
      | executed m => rfl
      | failed m => rfl
    rw [reply_step exec s (plan?_of_offer offered)]
    exact through _ (Plan.yields_outcome _ _ _)

theorem plan?_dragStart (d : Dispatcher) (g : Drag) (args : List Payload) (look : Lookup)
    (now : Nat) :
    d.plan? (.handle (.drag .start g) args look now) =
      some (.answer (if (PendingGesture.begin? d.table look g).isSome then .selectionArmed
        else .unhandled), args) := by
  rw [plan?, planInput, beginDrag, expireChord_eq]

/-- A drag is armed exactly when the table has a command for it. -/
theorem reply_dragStart {σ : Type} (exec : Executor σ) (s : σ) (d : Dispatcher) (g : Drag)
    (args : List Payload) (look : Lookup) (now : Nat) :
    (step exec s d (.handle (.drag .start g) args look now)).1.reply = .answer .selectionArmed ↔
      ∃ m, d.table.resolve look none (Binding.drag g).encode = some (.execute m) := by
  rw [reply_step exec s (plan?_dragStart d g args look now), Plan.outcome, Reply.answer.injEq]
  constructor
  · intro armed
    split at armed
    next begun =>
      obtain ⟨pending, begun⟩ := Option.isSome_iff_exists.mp begun
      exact ⟨pending.chosen, (PendingGesture.begin?_eq_some.mp begun).2⟩
    · cases armed
  · rintro ⟨m, found⟩
    have begun : PendingGesture.begin? d.table look g = some ⟨g, m⟩ :=
      PendingGesture.begin?_eq_some.mpr ⟨rfl, found⟩
    rw [begun]
    rfl

theorem plan?_dragFinish (d : Dispatcher) (g : Drag) (args : List Payload) (look : Lookup)
    (now : Nat) :
    d.plan? (.handle (.drag .finish g) args look now) =
      some ((d.gesture.map PendingGesture.chosen).elim (.answer .unhandled) .invoke, args) := by
  rw [plan?, planInput, planDrop_eq]

/-- A call comes from a binding that is offered, or from the end of a drag in progress. -/
theorem of_mem_calls {d : Dispatcher} {op : Operation} {call : Call} (made : call ∈ d.calls op) :
    ∃ m : Match, m.command = call.1 ∧ composeArguments op.args m.payload = .ok call.2 ∧
      ((∃ b look now, d.offer? op = some (b, look, now) ∧
          (d.reaction b look now).plan = .invoke m) ∨
        ∃ drag args look now g, op = .handle (.drag .finish drag) args look now ∧
          d.gesture = some g ∧ g.chosen = m) := by
  -- what is offered to the rules may be invoked; of the rest only the end of a drag makes calls
  cases offered : d.offer? op with
  | some x =>
    obtain ⟨b, look, now⟩ := x
    rw [calls, plan?_of_offer offered] at made
    obtain ⟨m, plan, command, composed⟩ := Plan.mem_calls.mp made
    exact ⟨m, command, composed, .inl ⟨b, look, now, rfl, plan⟩⟩
  | none =>
    cases op with
    | handle input args look now =>
      cases input with
      | keyDown e =>
        have repeated : d.isRepeated e := by simpa [offer?] using offered
        simp [calls, plan?, planInput, planPress, repeated, Plan.calls] at made
      | keyUp e => cases made
      | click c => cases offered
      | drag phase g =>
        cases phase with
        | start => cases made
        | finish =>
          rw [calls, plan?, planInput, planDrop_eq] at made
          cases gesture : d.gesture with
          | none => simp [gesture, Plan.calls] at made
          | some g =>
            obtain ⟨m, plan, command, composed⟩ := Plan.mem_calls.mp made
            obtain rfl : g.chosen = m := by simpa [gesture] using plan
            exact ⟨g.chosen, command, composed, .inr ⟨_, _, _, _, g, rfl, rfl, rfl⟩⟩
        | cancel => cases made
    | handlePattern p args look now =>
      cases p with
      | single b => cases offered
      | chord s t => cases made
    | tick now hasFocus => cases made
    | reset => cases made
    | setTable t => cases made
    | takeNotices => cases made

end Dispatcher

end Shortcuts
