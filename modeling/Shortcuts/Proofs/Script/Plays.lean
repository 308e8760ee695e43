import Mathlib.Algebra.GroupWithZero.Nat
import Shortcuts.Proofs.Script.Steps
/-!
# Plays of a script

A play takes the steps of a script one after the other, and fails for its first faulty step or gets to
the last time of the clock (`play_eq_error`).  The time after it is the sum of the waits (`now_play`).
What holds after each report holds after the play (`play_inv`).
-/

namespace Shortcuts

namespace Session

variable {clock : Clock} {refused : List String} {s t : Session} {step : Step} {e : ScriptError}

theorem play_cons_eq_ok_iff {steps : List Step} {lines : List ReportLine} :
    s.play clock refused (step :: steps) = .ok (lines, t) ↔
      ∃ line u later, s.report clock refused step = .ok (line, u) ∧
        u.play clock refused steps = .ok (later, t) ∧ lines = line :: later := by
  rw [play, bind_eq_ok_iff]
  constructor
  · rintro ⟨⟨line, u⟩, reported, rest⟩
    obtain ⟨⟨later, v⟩, played, rest⟩ := bind_eq_ok_iff.mp rest
    cases rest
    exact ⟨line, u, later, reported, played, rfl⟩
  · rintro ⟨line, u, later, reported, played, rfl⟩
    exact ⟨(line, u), reported, bind_eq_ok_iff.mpr ⟨(later, t), played, rfl⟩⟩

theorem play_cons_eq_error_iff {steps : List Step} :
    s.play clock refused (step :: steps) = .error e ↔
      s.report clock refused step = .error e ∨
        ∃ line u, s.report clock refused step = .ok (line, u) ∧
          u.play clock refused steps = .error e := by
  rw [play, bind_eq_error_iff]
  refine or_congr_right ?_
  constructor
  · rintro ⟨⟨line, u⟩, reported, rest⟩
    obtain fails | ⟨⟨later, v⟩, -, rest⟩ := bind_eq_error_iff.mp rest
    · exact ⟨line, u, reported, fails⟩
    · cases rest
  · rintro ⟨line, u, reported, fails⟩
    exact ⟨(line, u), reported, bind_eq_error_iff.mpr (.inl fails)⟩

theorem play_eq_error_iff_of_report {steps : List Step} {line : ReportLine}
    (reported : s.report clock refused step = .ok (line, t)) :
    s.play clock refused (step :: steps) = .error e ↔ t.play clock refused steps = .error e := by
  rw [play_cons_eq_error_iff, reported]
  constructor
  · rintro (fails | ⟨_, _, same, fails⟩)
    · cases fails
    · cases same
      exact fails
  · intro fails
    exact .inr ⟨line, t, rfl, fails⟩

theorem play_append_eq_ok_iff {before after : List Step} {lines : List ReportLine} :
    s.play clock refused (before ++ after) = .ok (lines, t) ↔
      ∃ earlier u later, s.play clock refused before = .ok (earlier, u) ∧
        u.play clock refused after = .ok (later, t) ∧ lines = earlier ++ later := by
  induction before generalizing s lines with
  | nil =>
    constructor
    · intro played
      exact ⟨[], s, lines, rfl, played, rfl⟩
    · rintro ⟨earlier, u, later, nothing, played, rfl⟩
      cases nothing
      exact played
  | cons step before ih =>
    rw [List.cons_append, play_cons_eq_ok_iff]
    constructor
    · rintro ⟨line, v, rest, first, played, rfl⟩
      obtain ⟨earlier, u, later, middle, last, rfl⟩ := ih.mp played
      have played := play_cons_eq_ok_iff.mpr ⟨line, v, earlier, first, middle, rfl⟩
      exact ⟨line :: earlier, u, later, played, last, rfl⟩
    · rintro ⟨earlier, u, later, played, last, rfl⟩
      obtain ⟨line, v, earlier, first, middle, rfl⟩ := play_cons_eq_ok_iff.mp played
      exact ⟨line, v, earlier ++ later, first, ih.mpr ⟨earlier, u, later, middle, last, rfl⟩, rfl⟩

theorem play_append_eq_error_iff {before after : List Step} :
    s.play clock refused (before ++ after) = .error e ↔
      s.play clock refused before = .error e ∨
        ∃ earlier u, s.play clock refused before = .ok (earlier, u) ∧
          u.play clock refused after = .error e := by
  induction before generalizing s with
  | nil =>
    constructor
    · intro fails
      exact .inr ⟨[], s, rfl, fails⟩
    · rintro (fails | ⟨earlier, u, nothing, fails⟩)
      · cases fails
      · cases nothing
        exact fails
  | cons step before ih =>
    rw [List.cons_append, play_cons_eq_error_iff, play_cons_eq_error_iff, or_assoc]
    refine or_congr_right ?_
    constructor
    · rintro ⟨line, v, first, fails⟩
      obtain fails | ⟨earlier, u, middle, fails⟩ := ih.mp fails
      · exact .inl ⟨line, v, first, fails⟩
      · exact .inr ⟨line :: earlier, u,
          play_cons_eq_ok_iff.mpr ⟨line, v, earlier, first, middle, rfl⟩, fails⟩
    · rintro (⟨line, v, first, fails⟩ | ⟨earlier, u, played, fails⟩)
      · exact ⟨line, v, first, ih.mpr (.inl fails)⟩
      · obtain ⟨line, v, earlier, first, middle, rfl⟩ := play_cons_eq_ok_iff.mp played
        exact ⟨line, v, first, ih.mpr (.inr ⟨earlier, u, middle, fails⟩)⟩

/-- A play that is not brought to its end fails for the first step whose text is faulty, or goes past
the last time of the clock. -/
theorem play_eq_error {steps : List Step} (paced : s.Paced)
    (fails : s.play clock refused steps = .error e) :
    steps.findSome? Step.fault? = some e ∨ e = .overflow ∧
      clock.last <
        clock.after s.now (steps.map Step.duration).sum + s.dispatcher.timing.tick := by
  induction steps generalizing s with
  | nil => cases fails
  | cons step steps ih =>
    rw [List.findSome?_cons, List.map_cons, List.sum_cons, ← Clock.after_after]
    obtain fails | ⟨line, u, reported, fails⟩ := play_cons_eq_error_iff.mp fails
    · obtain faulty | ⟨rfl, late⟩ := take_eq_error paced (report_eq_error_iff.mp fails)
      · exact .inl (by rw [faulty])
      · refine .inr ⟨rfl, Nat.lt_of_lt_of_le late ?_⟩
        exact Nat.add_le_add_right (clock.le_after _ _) _
    · rw [fault?_of_report reported, ← now_report reported, ← timing_report reported]
      exact ih (paced.report reported) fails

section

variable {steps : List Step} {lines : List ReportLine}
  (played : s.play clock refused steps = .ok (lines, t))

include played

/-- What a report of one step keeps, a play keeps. -/
theorem play_inv (inv : Session → Prop) (start : inv s)
    (keeps : ∀ s step line t, inv s → s.report clock refused step = .ok (line, t) → inv t) :
    inv t := by
  induction steps generalizing s lines with
  | nil =>
    cases played
    exact start
  | cons step steps ih =>
    obtain ⟨line, u, later, reported, rest, -⟩ := play_cons_eq_ok_iff.mp played
    exact ih rest (keeps s step line u start reported)

theorem now_play_le (fits : s.now ≤ clock.last) : t.now ≤ clock.last :=
  play_inv played (·.now ≤ clock.last) fits fun _ _ _ _ fits reported => now_report_le reported fits

theorem Paced.play (paced : s.Paced) : t.Paced :=
  play_inv played Paced paced fun _ _ _ _ paced reported => paced.report reported

/-- A play that is brought to its end has read all texts. -/
theorem fault?_of_play : ∀ step ∈ steps, step.fault? = none := by
  induction steps generalizing s lines with
  | nil => exact List.forall_mem_nil _
  | cons step steps ih =>
    obtain ⟨line, u, later, reported, rest, -⟩ := play_cons_eq_ok_iff.mp played
    exact List.forall_mem_cons.mpr ⟨fault?_of_report reported, ih rest⟩

theorem now_play : t.now = clock.after s.now (steps.map Step.duration).sum := by
  induction steps generalizing s lines with
  | nil =>
    cases played
    exact (clock.after_zero t.now).symm
  | cons step steps ih =>
    obtain ⟨line, u, later, reported, rest, -⟩ := play_cons_eq_ok_iff.mp played
    rw [ih rest, now_report reported, Clock.after_after, List.map_cons, List.sum_cons]

/-- A play that is brought to its end has a line for each step. -/
theorem label_play : lines.map ReportLine.step = steps.map Step.label := by
  induction steps generalizing s lines with
  | nil =>
    cases played
    rfl
  | cons step steps ih =>
    obtain ⟨line, u, later, reported, rest, rfl⟩ := play_cons_eq_ok_iff.mp played
    obtain ⟨a?, v, -, rfl, -⟩ := report_eq_ok_iff.mp reported
    rw [List.map_cons, List.map_cons, ih rest]

theorem length_play : lines.length = steps.length := by
  simpa only [List.length_map] using congrArg List.length (label_play played)

end

theorem paced_start (script : Script) (table : RuleTable) {timing : ChordTiming}
    (ticks : 0 < timing.tick) : (start script table timing).Paced :=
  ⟨ticks, fun _ asks => by cases asks⟩

end Session

namespace Script

variable {clock : Clock} {script : Script} {table : RuleTable} {timing : ChordTiming}

theorem playOn_eq_ok_iff {lines : List ReportLine} {calls : Calls} :
    script.playOn clock table timing = .ok (lines, calls) ↔
      ∃ t, (Session.start script table timing).play clock script.refused script.steps =
          .ok (lines, t) ∧ t.calls = calls := by
  rw [playOn]
  cases (Session.start script table timing).play clock script.refused script.steps with
  | ok x =>
    obtain ⟨all, t⟩ := x
    constructor
    · intro played
      cases played
      exact ⟨t, rfl, rfl⟩
    · rintro ⟨u, played, rfl⟩
      cases played
      rfl
  | error e => simp

theorem playOn_eq_error_iff {e : ScriptError} :
    script.playOn clock table timing = .error e ↔
      (Session.start script table timing).play clock script.refused script.steps = .error e := by
  rw [playOn]
  cases (Session.start script table timing).play clock script.refused script.steps with
  | ok x => simp
  | error e => simp

end Script

end Shortcuts
