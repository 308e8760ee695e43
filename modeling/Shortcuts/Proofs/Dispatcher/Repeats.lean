import Shortcuts.Proofs.Dispatcher.Justification
/-!
# Which presses are dropped

A press is dropped as a repeat exactly when its host says that it is one, or when releases are
tracked and the last press of the key that was let through has not been released since
(`filtered_iff_held`).  A dropped press does nothing; it only passes on what became of the press
that it repeats.

A dispatcher keeps two tables of keys, and they do not live equally long: a release, or the loss of
the focus, takes a key out of the one but not out of the other.  `Remembers` says of both what they
hold, as a function of the steps of the past alone.
-/

namespace Shortcuts

namespace Operation

/-- Whether a key no longer counts as held: it is released, or its release might be missed. -/
def releases (id : KeyIdentity) : Operation → Bool
  | .handle (.keyUp e) _ _ _ => e.identity == id
  | .tick _ false | .reset | .setTable _ => true
  | _ => false

/-- Whether it is forgotten what became of the presses of the past. -/
def forgetsPresses : Operation → Bool
  | .reset | .setTable _ => true
  | _ => false

end Operation

namespace Dispatcher

/-- A step lets a press of a key through to the rules. -/
def Step.presses (id : KeyIdentity) (x : Step) : Bool :=
  match x.op with
  | .handle (.keyDown e) _ _ _ => e.identity == id && !x.reply.isFiltered
  | _ => false

/-- Some press of a key was let through, and since the last one the key was not released. -/
def IsHeld (id : KeyIdentity) (past : List Step) : Prop :=
  Since (fun x => x.presses id) (fun x => !x.presses id ∧ !x.op.releases id) past

/-- The last press of a key that was let through, since presses were last forgotten. -/
def lastPress? (id : KeyIdentity) (past : List Step) : Option Step :=
  (past.reverse.takeWhile fun x => !x.op.forgetsPresses).find? (·.presses id)

/-- Whether the host was to leave the last press of a key alone. -/
def lastPrevented (id : KeyIdentity) (past : List Step) : Bool :=
  ((lastPress? id past).bind (·.reply.preventsDefault?)).getD false

/-- The tables of keys, in terms of the past. -/
structure Remembers (tracksRelease : Bool) (past : List Step) (d : Dispatcher) : Prop where
  tracksRelease_eq : d.tracksRelease = tracksRelease
  held (id : KeyIdentity) : id ∈ d.held ↔ tracksRelease ∧ IsHeld id past
  consumed (id : KeyIdentity) :
    d.consumed.lookup id = (lastPress? id past).bind (·.reply.preventsDefault?)

/-! ## The past and one more step -/

theorem isHeld_append {id : KeyIdentity} {past : List Step} {x : Step} :
    IsHeld id (past ++ [x]) ↔
      x.presses id ∨ (!x.presses id ∧ !x.op.releases id) ∧ IsHeld id past :=
  since_append

theorem lastPress?_append (id : KeyIdentity) (past : List Step) (x : Step) :
    lastPress? id (past ++ [x]) =
      if x.op.forgetsPresses then none else if x.presses id then some x else lastPress? id past := by
  unfold lastPress?
  rw [List.reverse_append, List.reverse_singleton, List.singleton_append, List.takeWhile_cons]
  cases x.op.forgetsPresses with
  | true => rfl
  | false => cases pressed : x.presses id <;> simp [pressed]

/-! ## One step -/

variable {σ : Type} {d : Dispatcher} {op : Operation} {id : KeyIdentity}

theorem presses_step (exec : Executor σ) (s : σ) :
    (step exec s d op).1.presses id ↔ ∃ e args look now,
      op = .handle (.keyDown e) args look now ∧ d.isRepeated e = false ∧ e.identity = id := by
  rw [Step.presses, op_step]
  cases op with
  | handle input args look now =>
    cases input with
    | keyDown e =>
      dsimp only
      rw [isFiltered_press]
      simp [and_comm]
    | _ => simp
  | _ => simp

theorem lookup_filter {l : List (KeyIdentity × Bool)} {other : KeyIdentity} (differ : id ≠ other) :
    (l.filter (·.1 != other)).lookup id = l.lookup id := by
  induction l with
  | nil => rfl
  | cons entry l ih =>
    obtain ⟨key, prevents⟩ := entry
    by_cases dropped : key = other
    · subst dropped
      simp [ih, List.lookup_cons, beq_false_of_ne differ]
    · simp [dropped, ih, List.lookup_cons]

/-- A press makes its key held, where releases are tracked; a key stays held until it is released. -/
theorem mem_heldAfter (exec : Executor σ) (s : σ) (untracked : d.tracksRelease = false → d.held = []) :
    id ∈ d.heldAfter op ↔ d.tracksRelease ∧ (step exec s d op).1.presses id ∨
      (!(step exec s d op).1.presses id ∧ !op.releases id) ∧ id ∈ d.held := by
  rw [Step.presses, op_step]
  cases op with
  | handle input args look now =>
    cases input with
    | keyDown e =>
      dsimp only
      rw [isFiltered_press]
      cases repeated : d.isRepeated e with
      | true => simp [heldAfter, repeated, Operation.releases]
      | false =>
        cases tracks : d.tracksRelease with
        | true =>
          by_cases same : e.identity = id
          · simp [heldAfter, repeated, tracks, same]
          · simp [heldAfter, repeated, tracks, same, Ne.symm same, Operation.releases]
        | false => simp [heldAfter, repeated, tracks, untracked tracks]
    | keyUp e =>
      by_cases same : e.identity = id
      · simp [heldAfter, Operation.releases, same]
      · simp [heldAfter, Operation.releases, same, Ne.symm same]
    | click c => simp [heldAfter, Operation.releases]
    | drag phase g => simp [heldAfter, Operation.releases]
  | handlePattern p args look now => simp [heldAfter, Operation.releases]
  | tick now hasFocus => cases hasFocus <;> simp [heldAfter, Operation.releases]
  | reset => simp [heldAfter, Operation.releases]
  | setTable t => simp [heldAfter, Operation.releases]
  | takeNotices => simp [heldAfter, Operation.releases]

/-- What became of a press is remembered until the next press of the key that is let through. -/
theorem lookup_consumedAfter (exec : Executor σ) (s : σ) :
    (d.consumedAfter op).lookup id =
      if op.forgetsPresses then none
      else if (step exec s d op).1.presses id then (step exec s d op).1.reply.preventsDefault?
      else d.consumed.lookup id := by
  rw [Step.presses, op_step]
  cases op with
  | handle input args look now =>
    cases input with
    | keyDown e =>
      dsimp only
      rw [isFiltered_press]
      cases repeated : d.isRepeated e with
      | true => simp [consumedAfter, repeated, Operation.forgetsPresses]
      | false =>
        have offered := offer?_press args look now repeated
        by_cases same : e.identity = id
        · -- whether the command is accepted does not matter to the host's own handling
          have prevents := (Plan.yields_outcome (exec.ask s) args
            (d.reaction (.stroke e.stroke) look now).plan).preventsDefault_eq
          rw [reply_step exec s (plan?_of_offer offered)]
          simp [consumedAfter, repeated, same, Operation.forgetsPresses, Reply.preventsDefault?,
            Operation.args, prevents]
        · simp [consumedAfter, repeated, same, Operation.forgetsPresses, List.lookup_cons,
            beq_false_of_ne (Ne.symm same), lookup_filter (Ne.symm same)]
    | _ => rfl
  | _ => rfl

theorem step_of_isRepeated (exec : Executor σ) (s : σ) {e : KeyEvent} (args : List Payload)
    (look : Lookup) (now : Nat) (repeated : d.isRepeated e = true) :
    step exec s d (.handle (.keyDown e) args look now) =
      (⟨d, .handle (.keyDown e) args look now, .answer (.filtered (d.wasConsumed e.identity)), [],
        d⟩, s) := by
  simp [step, perform, handle, pressKey, repeated]

/-! ## Runs -/

theorem Remembers.step {tracksRelease : Bool} {past : List Step}
    (remembers : Remembers tracksRelease past d) (exec : Executor σ) (s : σ) (op : Operation) :
    Remembers tracksRelease (past ++ [(step exec s d op).1]) (step exec s d op).1.after where
  tracksRelease_eq := (tracksRelease_after exec s d op).trans remembers.tracksRelease_eq
  held id := by
    -- without tracking no key is ever held, so that a press cannot find its key in the table
    have untracked : d.tracksRelease = false → d.held = [] := by
      intro off
      rw [remembers.tracksRelease_eq] at off
      rw [List.eq_nil_iff_forall_not_mem]
      intro key held
      simpa [off] using (remembers.held key).mp held
    rw [held_after, mem_heldAfter exec s untracked, isHeld_append, op_step, remembers.held,
      remembers.tracksRelease_eq]
    tauto
  consumed id := by
    rw [consumed_after, lookup_consumedAfter exec s, lastPress?_append, op_step, remembers.consumed]
    split
    · rfl
    · split <;> rfl

/-- A press is dropped exactly when its host says that it is a repeat, or when releases are tracked
and its key is still held.  Nothing comes of it, and the host treats it like the last press of the
key that was let through, if that is not forgotten. -/
theorem filtered_iff_held (exec : Executor σ) (s : σ) (table : RuleTable) (timing : ChordTiming)
    (tracksRelease : Bool) (ops : List Operation) (past newer : List Step) (x : Step) (e : KeyEvent)
    (args : List Payload) (look : Lookup) (now : Nat)
    (split : steps exec s (new table timing tracksRelease) ops = past ++ x :: newer)
    (press : x.op = .handle (.keyDown e) args look now) :
    (x.reply.isFiltered ↔ e.isRepeat ∨ tracksRelease ∧ IsHeld e.identity past) ∧
      (x.reply.isFiltered →
        x.reply = .answer (.filtered (lastPrevented e.identity past)) ∧
          x.calls = [] ∧ x.after = x.before) := by
  have start : Remembers tracksRelease [] (new table timing tracksRelease) := by
    refine ⟨rfl, fun id => ?_, fun id => rfl⟩
    simp [new, IsHeld, Since]
  obtain ⟨remembers, s, same⟩ :=
    inv_of_split start (fun past d s op remembers => remembers.step exec s op) split
  rw [press] at same
  have dropped : x.reply.isFiltered = x.before.isRepeated e :=
    (congrArg (·.reply.isFiltered) same).trans (isFiltered_press exec s x.before e args look now)
  rw [dropped]
  constructor
  · rw [isRepeated, Bool.or_eq_true, List.contains_iff_mem, remembers.held]
  · intro repeated
    have nothing := step_of_isRepeated exec s args look now repeated
    have treatment : x.before.wasConsumed e.identity = lastPrevented e.identity past := by
      rw [wasConsumed, remembers.consumed, lastPrevented]
    rw [nothing] at same
    rw [← treatment]
    exact ⟨congrArg Step.reply same, congrArg Step.calls same, congrArg Step.after same⟩

/-- While its first key is held, a chord of twice the same key does not go on. -/
theorem filtered_iff_held_chord :
    let k := Stroke.ofKey (.char 'k') .onlyCtrl
    let e := KeyEvent.press (.char 'k') .onlyCtrl
    let press := fun now => Operation.handle (.keyDown e) [] Context.empty.get? now
    let exec : Executor Unit := fun s _ _ => (.ok (), s)
    let d := new (.ofRules [.run (.chord k k) "saveAll"]) .standard true
    ∃ past x, steps exec () d [press 0, press 30] = past ++ [x] ∧ x.op = press 30 ∧
      x.reply = .answer (.filtered true) ∧ x.calls = [] ∧ x.after = x.before := by
  intro k e press exec d
  obtain ⟨x, s, first, run⟩ := exists_steps_cons exec () d (press 0) [press 30]
  obtain ⟨y, s', second, rest⟩ := exists_steps_cons exec s x.after (press 30) []
  have split : steps exec () d [press 0, press 30] = [x] ++ y :: [] := by
    rw [run, rest, steps, List.singleton_append]
  have pressed : x.presses e.identity := by
    rw [first]
    exact (presses_step exec ()).mpr ⟨e, [], Context.empty.get?, 0, rfl, rfl, rfl⟩
  have opened : x.reply = .answer .chordPending := by
    have offered : d.offer? (press 0) = some (.stroke k, Context.empty.get?, 0) := rfl
    have plan := plan?_of_offer offered
    rw [reaction_chord] at plan
    rw [first, reply_step exec () plan]
    rfl
  have prevented : lastPrevented e.identity [x] = true := by
    have notReset : x.op.forgetsPresses = false := by rw [first, op_step]; rfl
    have last : lastPress? e.identity ([] ++ [x]) = some x := by
      rw [lastPress?_append, notReset, pressed]
      rfl
    rw [lastPrevented, ← List.nil_append [x], last, Option.bind_some, opened]
    rfl
  have again : y.op = press 30 := by rw [second, op_step]
  obtain ⟨exactly, nothing⟩ := filtered_iff_held exec () (.ofRules [.run (.chord k k) "saveAll"])
    .standard true [press 0, press 30] [x] [] y e [] Context.empty.get? 30 split again
  have held : IsHeld e.identity [x] := Since.now [] pressed
  have dropped := nothing (exactly.mpr (.inr ⟨rfl, held⟩))
  rw [prevented] at dropped
  exact ⟨[x], y, split, again, dropped⟩

end Dispatcher

end Shortcuts
