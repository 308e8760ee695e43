import Shortcuts.Proofs.Dispatcher.Decision
/-!
# Reactions to a binding

What a binding comes to depends on three things only: the table, the timing and the chord in
progress, once a chord that has waited too long is out of the way.  `react` is that function, and
`planBinding_eq` says that a dispatcher does nothing else with a binding.  A second key ends its
chord, whatever it is; a first key leaves alone any chord that it does not open itself.
-/

namespace Shortcuts

/-- What a binding comes to: what is left to do, which chord is in progress afterwards, and what
the host is told. -/
structure Reaction where
  plan : Plan
  chord : Option PendingChord
  told : List Notice

namespace Reaction

/-- The reaction to a second key. -/
def second (t : RuleTable) (c : PendingChord) (s : Stroke) (look : Lookup) : Reaction :=
  match t.resolve look (some c.first) s.encode with
  | some (.execute m) => ⟨.invoke m, none, [.chordCleared]⟩
  | _ => ⟨.answer .chordAborted, none, [.chordCleared, .notACommand c.label s.label]⟩

/-- The reaction to a binding on its own, which leaves alone any chord that it does not open. -/
def first (t : RuleTable) (timing : ChordTiming) (chord : Option PendingChord) (b : Binding)
    (look : Lookup) (now : Nat) : Reaction :=
  match t.resolve look none b.encode with
  | none | some .removed => ⟨.answer .unhandled, chord, []⟩
  | some (.execute m) => ⟨.invoke m, chord, []⟩
  | some .enterChord =>
    if b.isStroke then
      ⟨.answer .chordPending, some (.enter b.encode b.label now timing), [.chordStarted b.label]⟩
    else ⟨.answer .unhandled, chord, []⟩

end Reaction

/-- The reaction to a binding while a chord, if any, waits for its second key. -/
def react (t : RuleTable) (timing : ChordTiming) (chord : Option PendingChord) (b : Binding)
    (look : Lookup) (now : Nat) : Reaction :=
  match b, chord with
  | .stroke s, some c => .second t c s look
  | _, _ => .first t timing chord b look now

section

variable {t : RuleTable} {timing : ChordTiming} {chord : Option PendingChord} {look : Lookup}
  {now : Nat}

/-- A command is chosen for the binding on its own, or for the chord that it completes. -/
theorem of_react_invoke {b : Binding} {m : Match}
    (plan : (react t timing chord b look now).plan = .invoke m) :
    t.resolve look none b.encode = some (.execute m) ∨
      ∃ s c, b = .stroke s ∧ chord = some c ∧
        t.resolve look (some c.first) s.encode = some (.execute m) := by
  unfold react at plan
  split at plan
  next s c =>
    refine .inr ⟨s, c, rfl, rfl, ?_⟩
    unfold Reaction.second at plan
    split at plan
    next m' found =>
      cases plan
      exact found
    · cases plan
  · refine .inl ?_
    unfold Reaction.first at plan
    split at plan
    · cases plan
    · cases plan
    next m' found =>
      cases plan
      exact found
    · split at plan <;> cases plan

/-- Only a repeat is filtered, and a repeat is offered to no rule. -/
theorem react_ne_filtered {b : Binding} {prevents : Bool} :
    (react t timing chord b look now).plan ≠ .answer (.filtered prevents) := by
  unfold react Reaction.second Reaction.first
  intro filtered
  repeat' split at filtered
  all_goals cases filtered

/-- After a key stroke only the chord that it opens is in progress. -/
theorem of_chord_react {s : Stroke} {c : PendingChord}
    (waits : (react t timing chord (.stroke s) look now).chord = some c) :
    (react t timing chord (.stroke s) look now).plan = .answer .chordPending ∧
      c = .enter s.encode s.label now timing := by
  cases chord with
  | some c' =>
    simp only [react, Reaction.second] at waits
    split at waits <;> cases waits
  | none =>
    simp only [react, Reaction.first] at waits ⊢
    split at waits
    · cases waits
    · cases waits
    · cases waits
    · have stroke : (Binding.stroke s).isStroke = true := rfl
      rw [if_pos stroke] at waits ⊢
      cases waits
      exact ⟨rfl, rfl⟩

/-- A chord is opened only by a key stroke, and only while none is in progress. -/
theorem of_react_chordPending {b : Binding}
    (pending : (react t timing chord b look now).plan = .answer .chordPending) :
    chord = none ∧ b.isStroke = true ∧ t.resolve look none b.encode = some .enterChord := by
  unfold react at pending
  split at pending
  next s c =>
    unfold Reaction.second at pending
    split at pending <;> cases pending
  next noSecond =>
    unfold Reaction.first at pending
    split at pending
    · cases pending
    · cases pending
    · cases pending
    next found =>
      split at pending
      next stroke =>
        refine ⟨?_, stroke, found⟩
        cases b with
        | stroke s =>
          rw [Option.eq_none_iff_forall_ne_some]
          intro c waits
          exact noSecond s c rfl waits
        | click c => cases stroke
        | drag g => cases stroke
      · cases pending

/-- Clicks and drags are never second keys. -/
theorem react_of_not_stroke {b : Binding} (other : b.isStroke = false) :
    react t timing chord b look now = .first t timing chord b look now := by
  cases b with
  | stroke s => cases other
  | click c => rfl
  | drag g => rfl

/-- Clicks and drags leave the chord in progress alone. -/
theorem chord_react_of_not_stroke {b : Binding} (other : b.isStroke = false) :
    (react t timing chord b look now).chord = chord := by
  rw [react_of_not_stroke other, Reaction.first]
  split
  · rfl
  · rfl
  · rfl
  · rw [if_neg (by simp [other])]

end

namespace Dispatcher

/-- The chord in progress, unless it has waited too long. -/
def freshChord (d : Dispatcher) (now : Nat) : Option PendingChord :=
  d.chord.filter fun c => !c.isExpired now d.timing.timeout

/-- What the host is told when a chord that has waited too long is left. -/
def expiry (d : Dispatcher) (now : Nat) : List Notice :=
  if d.chord.any (·.isExpired now d.timing.timeout) then [.chordCleared] else []

theorem freshChord_eq_some {d : Dispatcher} {now : Nat} {c : PendingChord} :
    d.freshChord now = some c ↔ d.chord = some c ∧ now - c.enteredAt ≤ d.timing.timeout := by
  simp [freshChord, Option.filter_eq_some_iff, PendingChord.isExpired]

theorem expireChord_eq (d : Dispatcher) (now : Nat) :
    d.expireChord now =
      { d with chord := d.freshChord now, notices := d.notices ++ d.expiry now } := by
  obtain ⟨table, timing, chord, gesture, consumed, held, tracks, notices⟩ := d
  cases chord with
  | none => simp [expireChord, freshChord, expiry]
  | some c =>
    cases expired : c.isExpired now timing.timeout <;>
      simp [expireChord, leaveChord, notify, freshChord, expiry, expired, Option.filter]

theorem planFirst_eq (d : Dispatcher) (b : Binding) (look : Lookup) (now : Nat) :
    d.planFirst b look now =
      let r := Reaction.first d.table d.timing d.chord b look now
      (r.plan, { d with chord := r.chord, notices := d.notices ++ r.told }) := by
  unfold planFirst Reaction.first
  cases d.table.resolve look none b.encode with
  | none => simp
  | some resolution =>
    cases resolution with
    | execute m => simp
    | removed => simp
    | enterChord => cases b.isStroke <;> simp [notify]

theorem planSecond_told (d : Dispatcher) (c : PendingChord) (s : Stroke) (look : Lookup) :
    d.planSecond c s look =
      let r := Reaction.second d.table c s look
      (r.plan, { d with chord := r.chord, notices := d.notices ++ r.told }) := by
  unfold planSecond Reaction.second
  dsimp only [notify]
  cases d.table.resolve look (some c.first) s.encode with
  | none => simp
  | some resolution => cases resolution <;> simp

/-- A dispatcher leaves a chord that has waited too long, and reacts. -/
theorem planBinding_eq (d : Dispatcher) (b : Binding) (look : Lookup) (now : Nat) :
    d.planBinding b look now =
      let r := react d.table d.timing (d.freshChord now) b look now
      (r.plan, { d with chord := r.chord, notices := d.notices ++ (d.expiry now ++ r.told) }) := by
  unfold planBinding
  rw [expireChord_eq]
  cases b with
  | stroke s =>
    cases fresh : d.freshChord now with
    | none => simp [planFirst_eq, react]
    | some c => simp [planSecond_told, react]
  | click c => simp [planFirst_eq, react]
  | drag g => simp [planFirst_eq, react]

end Dispatcher

end Shortcuts
