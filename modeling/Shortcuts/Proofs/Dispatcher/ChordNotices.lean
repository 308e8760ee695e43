import Shortcuts.Proofs.Dispatcher.Justification
import Shortcuts.Proofs.Dispatcher.Notices
/-!
# What a host learns of chords

A host that shows the chord in progress relies on notices alone.  They form a small language,
`ChordTrail`: a chord starts only while none is open, it is cleared before the next one starts, and
a second key that is not a command is named at once after the clearing, with the first key of the
chord that it ended.  Every operation continues the trail from the chord that was in progress to the
one that is (`chordTrail_step`), and so does a whole run, however its host takes the notices
(`chord_notices`).

That a chord starts only while none is open is not a matter of one function: entering a chord would
replace the one in progress without a word.  It holds because a key finds no open chord unless that
chord takes the key for its second.
-/

namespace Shortcuts

namespace Notice

/-- The notices that a chord begins or ends with. -/
def marksChord : Notice → Bool
  | chordStarted _ | chordCleared => true
  | _ => false

def startsChord : Notice → Bool
  | chordStarted _ => true
  | _ => false

end Notice

/-- The notices that lead from one open chord, or none, to another; chords go by their labels. -/
inductive ChordTrail : Option String → List Notice → Option String → Prop
  | nil (chord : Option String) : ChordTrail chord [] chord
  | started {told : List Notice} {chord : Option String} (label : String) :
    ChordTrail (some label) told chord → ChordTrail none (.chordStarted label :: told) chord
  | cleared {told : List Notice} {chord : Option String} (label : String) :
    ChordTrail none told chord → ChordTrail (some label) (.chordCleared :: told) chord
  | refused {told : List Notice} {chord : Option String} (label second : String) :
    ChordTrail none told chord →
      ChordTrail (some label) (.chordCleared :: .notACommand label second :: told) chord
  | outcome {told : List Notice} {before chord : Option String} {n : Notice} :
    n.isOutcome = true → ChordTrail before told chord → ChordTrail before (n :: told) chord

/-- A log of notices tells of chords faithfully, if `chord` is the one in progress at its end. -/
structure FaithfulLog (log : List Notice) (chord : Option PendingChord) : Prop where
  /-- Starts and clearings take turns, and a start comes first. -/
  alternates (i : Nat) (n : Notice) :
    (log.filter Notice.marksChord)[i]? = some n → (n.startsChord ↔ i % 2 = 0)
  /-- The chord in progress is the one that was started last and not cleared. -/
  pending (label : String) :
    chord.map (·.label) = some label ↔
      (log.filter Notice.marksChord).getLast? = some (.chordStarted label)
  /-- What is not a command is named right after the clearing, with the label of the start. -/
  refused (older newer : List Notice) (first second : String) :
    log = older ++ .notACommand first second :: newer →
      ∃ before between, older = before ++ .chordStarted first :: between ++ [.chordCleared] ∧
        ∀ n ∈ between, n.marksChord = false

/-- What a step tells of chords is what it does. -/
structure Dispatcher.Step.TellsOfChords (x : Step) : Prop where
  /-- A chord is entered only while none is pending, a stale one being left first. -/
  entered : x.reply = .answer .chordPending →
    ∃ now, x.op.now? = some now ∧ (x.before.expireChord now).chord = none
  /-- Unless one is entered, the chord in progress is that of before, and only checked later. -/
  kept : x.reply ≠ .answer .chordPending → ∀ c, x.after.chord = some c →
    ∃ c' tick, x.before.chord = some c' ∧ c = { c' with nextTick := tick }
  /-- What is not a command is the key that was just pressed. -/
  refused (first second : String) : .notACommand first second ∈ x.told →
    ∃ k, x.stroke? = some k ∧ second = k.label
  /-- A check answers that the chord ended exactly when it tells so. -/
  checked (now : Nat) (hasFocus : Bool) : x.op = .tick now hasFocus →
    ((∃ e, x.reply = .exit (some e)) ↔ .chordCleared ∈ x.told)

/-! ## Trails -/

namespace ChordTrail

variable {before chord : Option String} {told : List Notice}

theorem append {middle : Option String} {more : List Notice} (trail : ChordTrail before told middle)
    (goesOn : ChordTrail middle more chord) : ChordTrail before (told ++ more) chord := by
  induction trail with
  | nil => exact goesOn
  | started label _ ih => exact .started label (ih goesOn)
  | cleared label _ ih => exact .cleared label (ih goesOn)
  | refused label second _ ih => exact .refused label second (ih goesOn)
  | outcome about _ ih => exact .outcome about (ih goesOn)

theorem of_outcomes (chord : Option String) (about : ∀ n ∈ told, n.isOutcome = true) :
    ChordTrail chord told chord := by
  induction told with
  | nil => exact .nil chord
  | cons n told ih =>
    rw [List.forall_mem_cons] at about
    exact .outcome about.1 (ih about.2)

theorem marksChord_of_isOutcome {n : Notice} (about : n.isOutcome = true) :
    n.marksChord = false := by
  cases n <;> first | rfl | cases about

theorem alternates_cleared {marks : List Notice} {n : Notice}
    (rest : ∀ i, marks[i]? = some n → (n.startsChord ↔ i % 2 = 0)) (i : Nat)
    (mark : (Notice.chordCleared :: marks)[i]? = some n) : n.startsChord ↔ (i + 1) % 2 = 0 := by
  cases i with
  | zero =>
    cases mark
    simp [Notice.startsChord]
  | succ i =>
    rw [rest i mark]
    omega

theorem getLast?_cleared {marks : List Notice} {label : String} :
    (Notice.chordCleared :: marks).getLast? = some (.chordStarted label) ↔
      marks.getLast? = some (.chordStarted label) := by
  cases last : marks.getLast? with
  | none => simp [List.getLast?_eq_none_iff.mp last]
  | some n => simp [List.getLast?_cons, last]

/-- Of the notices that mark chords, every second one starts a chord. -/
theorem alternates (trail : ChordTrail before told chord) (i : Nat) (n : Notice)
    (mark : (told.filter Notice.marksChord)[i]? = some n) :
    n.startsChord ↔ (i + if before.isSome then 1 else 0) % 2 = 0 := by
  induction trail generalizing i with
  | nil => simp at mark
  | started label _ ih =>
    rw [List.filter_cons_of_pos rfl] at mark
    cases i with
    | zero =>
      cases mark
      simp [Notice.startsChord]
    | succ i => simpa using ih i mark
  | cleared label _ ih =>
    rw [List.filter_cons_of_pos rfl] at mark
    exact alternates_cleared (by simpa using ih) i mark
  | refused label second _ ih =>
    rw [List.filter_cons_of_pos rfl, List.filter_cons_of_neg (by simp [Notice.marksChord])] at mark
    exact alternates_cleared (by simpa using ih) i mark
  | outcome about _ ih =>
    rw [List.filter_cons_of_neg (by simp [marksChord_of_isOutcome about])] at mark
    exact ih i mark

/-- The last notice that marks a chord tells which chord is open; without one nothing changed. -/
theorem open_iff (trail : ChordTrail before told chord) (label : String) :
    chord = some label ↔
      (told.filter Notice.marksChord).getLast? = some (.chordStarted label) ∨
        told.filter Notice.marksChord = [] ∧ before = some label := by
  induction trail with
  | nil => simp
  | started label' _ ih =>
    rw [List.filter_cons_of_pos rfl, ih, List.getLast?_cons]
    cases last : (List.filter Notice.marksChord _).getLast? with
    | none => simp [List.getLast?_eq_none_iff.mp last]
    | some n => simp [List.ne_nil_of_mem (List.mem_of_getLast? last)]
  | cleared label' _ ih =>
    rw [List.filter_cons_of_pos rfl, getLast?_cleared, ih]
    simp
  | refused label' second _ ih =>
    rw [List.filter_cons_of_pos rfl, List.filter_cons_of_neg (by simp [Notice.marksChord]),
      getLast?_cleared, ih]
    simp
  | outcome about _ ih =>
    rw [List.filter_cons_of_neg (by simp [marksChord_of_isOutcome about])]
    exact ih

/-- A refusal follows the clearing of a chord, which was open before or was started since. -/
theorem refusal (trail : ChordTrail before told chord) {older newer : List Notice}
    {first second : String} (split : told = older ++ .notACommand first second :: newer) :
    (∃ past between, older = past ++ .chordStarted first :: between ++ [.chordCleared] ∧
        ∀ n ∈ between, n.marksChord = false) ∨
      ∃ between, older = between ++ [.chordCleared] ∧ before = some first ∧
        ∀ n ∈ between, n.marksChord = false := by
  -- along the trail: a refusal is the second notice of a `refused` step, or further on
  induction trail generalizing older with
  | nil => simp at split
  | started label _ ih =>
    cases older with
    | nil => cases split
    | cons n older =>
      obtain ⟨rfl, rest⟩ := List.cons.inj split
      obtain ⟨past, between, rfl, unmarked⟩ | ⟨between, rfl, same, unmarked⟩ := ih rest
      · exact .inl ⟨.chordStarted label :: past, between, rfl, unmarked⟩
      · cases same
        exact .inl ⟨[], between, rfl, unmarked⟩
  | cleared label _ ih =>
    cases older with
    | nil => cases split
    | cons n older =>
      obtain ⟨rfl, rest⟩ := List.cons.inj split
      obtain ⟨past, between, rfl, unmarked⟩ | ⟨between, rfl, same, unmarked⟩ := ih rest
      · exact .inl ⟨.chordCleared :: past, between, rfl, unmarked⟩
      · cases same
  | refused label second' _ ih =>
    cases older with
    | nil => cases split
    | cons n older =>
      obtain ⟨rfl, rest⟩ := List.cons.inj split
      cases older with
      | nil =>
        cases rest
        exact .inr ⟨[], rfl, rfl, by simp⟩
      | cons n' older =>
        obtain ⟨rfl, later⟩ := List.cons.inj rest
        obtain ⟨past, between, rfl, unmarked⟩ | ⟨between, rfl, same, unmarked⟩ := ih later
        · exact .inl ⟨.chordCleared :: .notACommand label second' :: past, between, rfl, unmarked⟩
        · cases same
  | @outcome told before chord n about _ ih =>
    cases older with
    | nil =>
      obtain ⟨rfl, -⟩ := List.cons.inj split
      cases about
    | cons n' older =>
      obtain ⟨rfl, rest⟩ := List.cons.inj split
      obtain ⟨past, between, rfl, unmarked⟩ | ⟨between, rfl, same, unmarked⟩ := ih rest
      · exact .inl ⟨n :: past, between, rfl, unmarked⟩
      · refine .inr ⟨n :: between, rfl, same, ?_⟩
        rw [List.forall_mem_cons]
        exact ⟨marksChord_of_isOutcome about, unmarked⟩

/-- A trail that begins without an open chord is a faithful log. -/
theorem faithful {chord : Option PendingChord} {log : List Notice}
    (trail : ChordTrail none log (chord.map (·.label))) : FaithfulLog log chord where
  alternates i n mark := by simpa using trail.alternates i n mark
  pending label := by simpa using trail.open_iff label
  refused older newer first second split := by
    obtain found | ⟨-, -, open?, -⟩ := trail.refusal split
    · exact found
    · cases open?

end ChordTrail

namespace Dispatcher

/-! ## One operation -/

section

variable {t : RuleTable} {timing : ChordTiming} {chord : Option PendingChord} {look : Lookup}
  {now : Nat}

/-- A binding that opens a chord finds none open: a key would have been its second key. -/
theorem chordTrail_react (b : Binding) :
    ChordTrail (chord.map (·.label)) (react t timing chord b look now).told
      ((react t timing chord b look now).chord.map (·.label)) := by
  unfold react
  split
  next s c =>
    unfold Reaction.second
    split
    · exact .cleared c.label (.nil none)
    · exact .refused c.label s.label (.nil none)
  next noSecond =>
    unfold Reaction.first
    split
    · exact .nil _
    · exact .nil _
    · exact .nil _
    · split
      next stroke =>
        cases b with
        | stroke s =>
          cases chord with
          | none => exact .started s.label (.nil _)
          | some c => exact absurd rfl (noSecond s c rfl)
        | click c => cases stroke
        | drag g => cases stroke
      · exact .nil _

end

variable (d : Dispatcher)

theorem chordTrail_expiry (now : Nat) :
    ChordTrail (d.chord.map (·.label)) (d.expiry now) ((d.freshChord now).map (·.label)) := by
  rw [expiry, freshChord]
  cases d.chord with
  | none => exact .nil none
  | some c =>
    -- a chord is cleared exactly when it is no longer fresh
    cases gone : c.isExpired now d.timing.timeout with
    | true => simpa [gone, Option.filter] using ChordTrail.cleared c.label (.nil none)
    | false => simpa [gone, Option.filter] using ChordTrail.nil (some c.label)

theorem chordTrail_clearing : ChordTrail (d.chord.map (·.label)) d.clearing none := by
  rw [clearing]
  cases d.chord with
  | none => exact .nil none
  | some c => exact .cleared c.label (.nil none)

theorem chordTrail_told (op : Operation) :
    ChordTrail (d.chord.map (·.label)) (d.told op) ((d.chordAfter op).map (·.label)) := by
  unfold told chordAfter
  split
  next b look now offered => exact (d.chordTrail_expiry now).append (chordTrail_react b)
  next quiet =>
    cases op with
    | handle input args look now =>
      cases input with
      | drag phase g =>
        cases phase with
        | start => exact d.chordTrail_expiry now
        | _ => exact .nil _
      | _ => exact .nil _
    | tick now hasFocus =>
      cases hasFocus with
      | true =>
        -- a check that leaves the chord puts the next check off, and the label stays
        have same : ((d.freshChord now).map (·.postpone now d.timing)).map (·.label) =
            (d.freshChord now).map (·.label) := by
          cases d.freshChord now <;> rfl
        dsimp only
        rw [same]
        exact d.chordTrail_expiry now
      | false => exact d.chordTrail_clearing
    | reset => exact d.chordTrail_clearing
    | setTable t => exact d.chordTrail_clearing
    | _ => exact .nil _

theorem eq_chordCleared {p : Prop} [Decidable p] {n : Notice}
    (mem : n ∈ if p then [Notice.chordCleared] else []) : n = .chordCleared := by
  split at mem
  · exact List.mem_singleton.mp mem
  · cases mem

/-- Only a second key is named as no command. -/
theorem of_notACommand_mem_told {op : Operation} {first second : String}
    (mem : .notACommand first second ∈ d.told op) :
    ∃ k look now, d.offer? op = some (.stroke k, look, now) ∧ second = k.label := by
  unfold told at mem
  split at mem
  next b look now offered =>
    rw [List.mem_append] at mem
    obtain stale | told := mem
    · cases eq_chordCleared stale
    · -- a first key starts a chord or says nothing; only a second key is refused
      unfold reaction react at told
      split at told
      next k c waits =>
        refine ⟨k, look, now, offered, ?_⟩
        unfold Reaction.second at told
        split at told
        · simp at told
        · simp only [List.mem_cons, reduceCtorEq, Notice.notACommand.injEq, false_or,
            List.not_mem_nil, or_false] at told
          exact told.2
      · unfold Reaction.first at told
        split at told
        · cases told
        · cases told
        · cases told
        · split at told <;> simp at told
  next quiet =>
    split at mem
    · cases eq_chordCleared mem
    · cases eq_chordCleared mem
    · cases eq_chordCleared mem
    · cases eq_chordCleared mem
    · cases eq_chordCleared mem
    · cases mem

/-- A second key that comes in time and is not a command ends the chord, and both keys are named. -/
theorem reaction_refused {d : Dispatcher} {c : PendingChord} {k : Stroke} {look : Lookup} {now : Nat}
    (waits : d.chord = some c) (inTime : now - c.enteredAt ≤ d.timing.timeout)
    (unknown : d.table.resolve look (some c.first) k.encode = none) :
    d.expiry now = [] ∧ d.reaction (.stroke k) look now =
      ⟨.answer .chordAborted, none, [.chordCleared, .notACommand c.label k.label]⟩ := by
  have fresh : d.freshChord now = some c := freshChord_eq_some.mpr ⟨waits, inTime⟩
  constructor
  · have stays : c.isExpired now d.timing.timeout = false := by
      simpa [PendingChord.isExpired] using inTime
    simp [expiry, waits, stays]
  · rw [reaction, fresh, react, Reaction.second, unknown]

theorem exit_tick_isSome (now : Nat) (hasFocus : Bool) :
    (d.tick now hasFocus).1.isSome ↔ .chordCleared ∈ d.told (.tick now hasFocus) := by
  obtain ⟨table, timing, chord, gesture, consumed, held, tracks, notices⟩ := d
  cases chord with
  | none => cases hasFocus <;> simp [tick, told, offer?, expiry, clearing]
  | some c =>
    cases hasFocus with
    | false => simp [tick, told, offer?, clearing]
    | true =>
      cases gone : c.isExpired now timing.timeout <;> simp [tick, told, offer?, expiry, gone]

/-! ## One step -/

variable {d} {σ : Type} {exec : Executor σ} {s : σ} {op : Operation}

/-- Whoever answers that a chord is pending was offered the key that opened it. -/
theorem offer?_of_chordPending (pending : (step exec s d op).1.reply = .answer .chordPending) :
    ∃ b look now, d.offer? op = some (b, look, now) ∧
      (d.reaction b look now).plan = .answer .chordPending := by
  obtain ⟨p, args, plan, yields⟩ := exists_plan_of_reply pending
  obtain rfl : p = .answer .chordPending := by cases yields; rfl
  cases offered : d.offer? op with
  | some x =>
    obtain ⟨b, look, now⟩ := x
    rw [plan?_of_offer offered] at plan
    exact ⟨b, look, now, rfl, (Prod.mk.inj (Option.some.inj plan)).1⟩
  | none =>
    -- what is not offered to the rules is never answered like this
    cases op with
    | handle input args look now =>
      cases input with
      | keyDown e =>
        have repeated : d.isRepeated e := by simpa [offer?] using offered
        rw [plan?_of_isRepeated args look now repeated] at plan
        cases plan
      | keyUp e => cases plan
      | click c => cases offered
      | drag phase g =>
        cases phase with
        | start =>
          rw [plan?_dragStart] at plan
          split at plan <;> cases plan
        | finish =>
          rw [plan?_dragFinish] at plan
          cases gesture : d.gesture <;> simp [gesture] at plan
        | cancel => cases plan
    | handlePattern p args look now =>
      cases p with
      | single b => cases offered
      | chord a b => cases plan
    | tick now hasFocus => cases plan
    | reset => cases plan
    | setTable t => cases plan
    | takeNotices => cases plan

theorem chordTrail_step (exec : Executor σ) (s : σ) (d : Dispatcher) (op : Operation) :
    ChordTrail (d.chord.map (·.label)) (step exec s d op).1.told
      ((step exec s d op).1.after.chord.map (·.label)) := by
  rw [told_step, chord_after]
  apply (d.chordTrail_told op).append
  apply ChordTrail.of_outcomes
  intro n reported
  exact isOutcome_of_mem_reported d op reported

theorem tellsOfChords_step (exec : Executor σ) (s : σ) (d : Dispatcher) (op : Operation) :
    (step exec s d op).1.TellsOfChords where
  entered pending := by
    obtain ⟨b, look, now, offered, plan⟩ := offer?_of_chordPending pending
    obtain ⟨none?, -, -⟩ := of_react_chordPending plan
    refine ⟨now, now?_of_offer offered, ?_⟩
    have before : (step exec s d op).1.before = d := rfl
    rw [before, expireChord_eq]
    exact none?
  kept other c waits := by
    rw [chord_after] at waits
    obtain ⟨k, look, now, offered, plan, -⟩ | ⟨-, -, same⟩ := of_chordAfter waits
    · exact absurd (opensChord_step exec s offered plan).pending other
    · exact same
  refused first second mem := by
    rw [told_step, List.mem_append] at mem
    obtain told | reported := mem
    · obtain ⟨k, look, now, offered, same⟩ := of_notACommand_mem_told d told
      exact ⟨k, (stroke?_step exec s).mpr ⟨look, now, offered⟩, same⟩
    · cases isOutcome_of_mem_reported d op reported
  checked now hasFocus same := by
    rw [op_step] at same
    subst same
    have reply : (step exec s d (.tick now hasFocus)).1.reply = .exit (d.tick now hasFocus).1 := rfl
    have quiet : d.reported (exec.ask s) (.tick now hasFocus) = [] := rfl
    rw [told_step, quiet, List.append_nil, ← exit_tick_isSome, reply, Option.isSome_iff_exists]
    simp only [Reply.exit.injEq]

/-! ## Runs -/

theorem chordTrail_run (exec : Executor σ) (s : σ) (d : Dispatcher) (ops : List Operation) :
    ChordTrail (d.chord.map (·.label)) ((steps exec s d ops).flatMap Step.told)
      ((run exec s d ops).chord.map (·.label)) := by
  induction ops generalizing s d with
  | nil => exact .nil _
  | cons op ops ih =>
    rw [steps_cons, run_cons, List.flatMap_cons]
    exact (chordTrail_step exec s d op).append (ih _ _)

/-- The notices of a run, those that the host took and those that still wait, tell of its chords
faithfully, and each step tells what it does. -/
theorem chord_notices (exec : Executor σ) (s : σ) (table : RuleTable) (timing : ChordTiming)
    (tracksRelease : Bool) (ops : List Operation) :
    let d := new table timing tracksRelease
    let log := (steps exec s d ops).flatMap Step.taken ++ (run exec s d ops).notices
    FaithfulLog log (run exec s d ops).chord ∧
      log = (steps exec s d ops).flatMap Step.told ∧
      ∀ x ∈ steps exec s d ops, x.TellsOfChords := by
  intro d log
  have all : log = (steps exec s d ops).flatMap Step.told := taken_append_waiting exec s d ops
  refine ⟨?_, all, ?_⟩
  · rw [all]
    exact (chordTrail_run exec s d ops).faithful
  · intro x mem
    obtain ⟨s, same⟩ := exists_step_of_mem mem
    rw [same]
    exact tellsOfChords_step exec s x.before x.op

/-- A second key that is not a command is named together with the first. -/
theorem chord_notices_refused :
    let a := Stroke.ofKey (.char 'k') .onlyCtrl
    let b := Stroke.ofKey (.char 'k') .empty
    let press := fun mods now =>
      Operation.handle (.keyDown (.press (.char 'k') mods)) [] Context.empty.get? now
    let exec : Executor Unit := fun s _ _ => (.ok (), s)
    let d := new (.ofRules [.run (.chord a a) "saveAll"]) .standard false
    let ops := [press .onlyCtrl 0, press .empty 100]
    let log := (steps exec () d ops).flatMap Step.taken ++ (run exec () d ops).notices
    log = [.chordStarted a.label, .chordCleared, .notACommand a.label b.label] ∧
      FaithfulLog log (run exec () d ops).chord ∧
      ∃ x ∈ steps exec () d ops, x.op = press .empty 100 ∧ x.TellsOfChords := by
  intro a b press exec d ops log
  obtain ⟨x, s, first, begins⟩ := exists_steps_cons exec () d (press .onlyCtrl 0) [press .empty 100]
  obtain ⟨y, s', second, ends⟩ := exists_steps_cons exec s x.after (press .empty 100) []
  have steps_eq : steps exec () d ops = [x, y] := by rw [begins, ends, steps]
  have started : x.told = [.chordStarted a.label] ∧
      x.after.chord = some (.enter a.encode a.label 0 .standard) ∧ x.after.held = [] ∧
      x.after.timing = .standard ∧ x.after.table = d.table := by
    have offered : d.offer? (press .onlyCtrl 0) = some (.stroke a, Context.empty.get?, 0) := rfl
    have opens := reaction_chord a a "saveAll" .standard false Context.empty.get? 0
    rw [first, told_step_of_answer exec () d offered (congrArg Reaction.plan opens), chord_after,
      chordAfter_of_offer offered, held_after, timing_after, table_after, opens]
    exact ⟨rfl, rfl, rfl, rfl, rfl⟩
  obtain ⟨opened, waits, released, timing, table⟩ := started
  have refused : y.told = [.chordCleared, .notACommand a.label b.label] := by
    have unknown : d.table.resolve Context.empty.get? (some a.encode) b.encode = none := by
      have differ : a ≠ b := by
        intro same
        cases congrArg Stroke.mods same
      refine (RuleTable.resolveSecond_lastSecond _ (.stroke a) (.stroke b)).trans ?_
      simp [d, new, RuleTable.toList_ofRules, lastSecond, Rule.run, Binding.chordWith?, differ]
    have offered : x.after.offer? (press .empty 100) = some (.stroke b, Context.empty.get?, 100) := by
      simp [offer?, press, isRepeated, released, KeyEvent.press, KeyEvent.stroke, b]
    have inTime : 100 - 0 ≤ x.after.timing.timeout := by rw [timing]; decide
    obtain ⟨fresh, reaction⟩ := reaction_refused waits inTime (table ▸ unknown)
    rw [second, told_step_of_answer exec s x.after offered (congrArg Reaction.plan reaction), reaction,
      fresh]
    rfl
  obtain ⟨faithful, all, tells⟩ := chord_notices exec () (.ofRules [.run (.chord a a) "saveAll"])
    .standard false ops
  have log_eq : log = [.chordStarted a.label, .chordCleared, .notACommand a.label b.label] := by
    refine all.trans ?_
    have same : steps exec () (new (.ofRules [.run (.chord a a) "saveAll"]) .standard false) ops =
        [x, y] := steps_eq
    rw [same, List.flatMap_cons, List.flatMap_singleton, opened, refused]
    rfl
  have mem : y ∈ steps exec () d ops := by
    rw [steps_eq]
    exact List.mem_cons_of_mem x List.mem_cons_self
  exact ⟨log_eq, faithful, y, mem, by rw [second, op_step], tells y mem⟩

end Dispatcher

end Shortcuts
