import Shortcuts.Proofs.Dispatcher.Repeats
/-!
# Dispatchers that agree with their table

What a dispatcher has in progress, it found in a table that may be replaced while it waits.  All the
same, after every run what is in progress agrees with the table that is in force then
(`coherent_run`): the chord is one that a rule of this table can complete, and the drag carries the
command that a rule of this table gives it.  This is so because another table drops both, and
because a key that opens a chord is the first key of some rule with a command, even where the rule
that decided is for the key alone and only waits.
-/

namespace Shortcuts.Dispatcher

/-- A dispatcher agrees with its table, and its two tables of keys with each other. -/
structure Coherent (d : Dispatcher) : Prop where
  /-- The chord in progress is shown and found by one key, and some rule can complete it. -/
  chord (c : PendingChord) : d.chord = some c →
    ∃ k : Stroke, c.first = k.encode ∧ c.label = k.label ∧
      ∃ r ∈ d.table.rules.toList, (∃ b, r.pattern = .chord k b) ∧ r.command.isSome
  /-- The drag in progress carries what a rule for that drag says. -/
  gesture (g : PendingGesture) : d.gesture = some g →
    ∃ r ∈ d.table.rules.toList, r.pattern = .single (.drag g.drag) ∧
      r.command = some g.chosen.command ∧ r.payload = g.chosen.payload ∧
      r.bubbles = g.chosen.bubbles
  /-- What became of the press of a held key is remembered. -/
  held (id : KeyIdentity) : id ∈ d.held → (d.consumed.lookup id).isSome
  untracked : d.tracksRelease = false → d.held = []

/-! ## One step -/

section

variable {d : Dispatcher} {op : Operation}

/-- Another table leaves no chord in progress. -/
theorem tableAfter_of_chordAfter {c : PendingChord} (waits : d.chordAfter op = some c) :
    d.tableAfter op = d.table := by
  cases op with
  | setTable t => cases waits
  | _ => rfl

theorem releases_of_forgetsPresses (id : KeyIdentity) (forgets : op.forgetsPresses = true) :
    op.releases id = true := by
  cases op with
  | reset => rfl
  | setTable t => rfl
  | _ => cases forgets

/-- What becomes of a press that is let through is known at once. -/
theorem preventsDefault?_isSome_of_presses {σ : Type} {exec : Executor σ} {s : σ} {id : KeyIdentity}
    (pressed : (step exec s d op).1.presses id) :
    op.forgetsPresses = false ∧ (step exec s d op).1.reply.preventsDefault?.isSome := by
  obtain ⟨e, args, look, now, rfl, fresh, -⟩ := (presses_step exec s).mp pressed
  rw [reply_step exec s (plan?_of_offer (offer?_press args look now fresh))]
  exact ⟨rfl, rfl⟩

end

variable {σ : Type} {d : Dispatcher}

theorem Coherent.step (coherent : d.Coherent) (exec : Executor σ) (s : σ) (op : Operation) :
    (step exec s d op).1.after.Coherent where
  chord c waits := by
    rw [chord_after] at waits
    rw [table_after, tableAfter_of_chordAfter waits]
    obtain ⟨k, look, now, -, plan, rfl⟩ | ⟨-, -, c', tick, waited, rfl⟩ := of_chordAfter waits
    · -- the rule that decided need not be a chord, but some chord made it wait
      obtain ⟨-, -, opens⟩ := of_react_chordPending plan
      exact ⟨k, rfl, rfl, RuleTable.exists_chord_of_enterChord opens⟩
    · exact coherent.chord c' waited
  gesture g waits := by
    rw [gesture_after] at waits
    rw [table_after]
    obtain ⟨look, found, same, -⟩ | ⟨before, same, -⟩ := of_gestureAfter exec s waits
    · obtain ⟨r, mem, pattern, -, resolution⟩ := RuleTable.exists_rule_of_first found
      rw [same]
      exact ⟨r, mem, pattern, Rule.resolution_eq_execute.mp resolution⟩
    · rw [same]
      exact coherent.gesture g before
  held id held := by
    rw [held_after, mem_heldAfter exec s coherent.untracked] at held
    rw [consumed_after, lookup_consumedAfter exec s]
    -- whatever forgets what became of a press also counts its key as released
    obtain ⟨-, pressed⟩ | ⟨⟨unpressed, unreleased⟩, before⟩ := held
    · obtain ⟨kept, known⟩ := preventsDefault?_isSome_of_presses pressed
      simp only [kept, pressed, Bool.false_eq_true, if_false, if_true]
      exact known
    · have kept : ¬op.forgetsPresses := by
        intro forgets
        simp [releases_of_forgetsPresses id forgets] at unreleased
      rw [if_neg kept, if_neg (by simpa using unpressed)]
      exact coherent.held id before
  untracked off := by
    rw [tracksRelease_after] at off
    rw [held_after, List.eq_nil_iff_forall_not_mem]
    intro id held
    simp [mem_heldAfter exec s coherent.untracked, off, coherent.untracked off] at held

/-! ## Runs -/

/-- After every run a dispatcher agrees with the table that is then in force. -/
theorem coherent_run (exec : Executor σ) (s : σ) (table : RuleTable) (timing : ChordTiming)
    (tracksRelease : Bool) (ops : List Operation) :
    (run exec s (new table timing tracksRelease) ops).Coherent := by
  have start : (new table timing tracksRelease).Coherent :=
    ⟨fun _ waits => (nomatch waits), fun _ waits => (nomatch waits), fun _ held => (nomatch held),
      fun _ => rfl⟩
  exact inv_run start (fun d s op coherent => coherent.step exec s op) ops

end Shortcuts.Dispatcher
