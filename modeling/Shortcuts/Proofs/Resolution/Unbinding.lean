import Shortcuts.Proofs.Resolution.LastWins
/-!
# Unbinding a chord

Tables are alike when they give the same answer to every first key and execute the same commands for
every second key.  They may differ in why a second key executes nothing: because the chord was
removed, or because there never was one.  So a removal at the end of a list of rules makes a table
like the one without any rule for that chord (`alike_unbound`).
-/

namespace Shortcuts

/-- The command that a resolution executes. -/
def Resolution.match? : Resolution → Option Match
  | execute m => some m
  | _ => none

namespace RuleTable

/-- Two tables answer alike, except for the reason why a second key executes nothing. -/
structure Alike (t u : RuleTable) : Prop where
  first (look : Lookup) (part : String) : t.resolve look none part = u.resolve look none part
  second (look : Lookup) (first part : String) :
    (t.resolve look (some first) part).bind Resolution.match? =
      (u.resolve look (some first) part).bind Resolution.match?

theorem Alike.refl (t : RuleTable) : Alike t t := ⟨fun _ _ => rfl, fun _ _ _ => rfl⟩

variable {look : Lookup}

/-- A rule is for the chord of two strokes exactly when it has their encodings for its parts. -/
theorem pattern_eq_chord_iff {r : Rule} {a b : Stroke} :
    r.pattern = .chord a b ↔ r.firstPart = a.encode ∧ r.secondPart? = some b.encode := by
  have := Rule.parts_eq_iff (r := r) (a := .stroke a) (b := .stroke b)
  simpa [Binding.chordWith?, Binding.encode] using this.symm

/-- After a removal of a chord, older rules compete as if none of them were for that chord. -/
theorem live_removal {m : Rule} {a b : Stroke} (pattern : m.pattern = .chord a b)
    (removal : m.isRemoval) (applies : m.applies look) {older : List Rule}
    (begins : ∀ r ∈ older, r.firstPart = a.encode) :
    live look (m :: older) = live look (older.filter fun r => r.pattern != .chord a b) := by
  have part := (pattern_eq_chord_iff.mp pattern).2
  have absent : m.stands look [] = false := by simp [Rule.stands, part, removal]
  have taken : m.takes look = [b.encode] := by simp [Rule.takes, applies, removal, part]
  rw [live, liveFrom_cons, absent, taken, live]
  calc liveFrom look [b.encode] older
      = liveFrom look [b.encode] (older.filter fun r => r.pattern != .chord a b) := by
        symm
        apply liveFrom_filter
        intro r _ dropped
        have second := (pattern_eq_chord_iff.mp (by simpa using dropped)).2
        refine ⟨fun q hq => ?_, fun more => by simp [Rule.stands, second]⟩
        obtain ⟨-, -, hq⟩ := Rule.mem_takes.mp hq
        simp_all
    _ = liveFrom look [] (older.filter fun r => r.pattern != .chord a b) := by
        -- no rule with that second part is left, so it need not be remembered as removed
        apply liveFrom_congr
        intro r hr q hq
        obtain ⟨mem, kept⟩ := List.mem_filter.mp hr
        have other : q ≠ b.encode := by
          rintro rfl
          have := pattern_eq_chord_iff.mpr ⟨begins r mem, hq⟩
          simp [this] at kept
        simp [other]

/-! ## A removal at the end of a list -/

variable {m : Rule} {a b : Stroke}

theorem resolve_first_unbound (rules : List Rule) (pattern : m.pattern = .chord a b)
    (removal : m.isRemoval) (applies : m.applies look) (part : String) :
    (ofRules (rules ++ [m])).resolve look none part =
      (ofRules (rules.filter fun r => r.pattern != .chord a b)).resolve look none part := by
  have begins := (pattern_eq_chord_iff.mp pattern).1
  simp only [resolve, resolveFirst_eq, toList_ofRules, List.filter_append, List.reverse_append]
  by_cases here : part = a.encode
  · subst here
    have bucket : ([m].filter (·.firstPart == a.encode)).reverse = [m] := by simp [begins]
    rw [reverse_filter_filter, bucket, List.singleton_append, live_removal pattern removal applies]
    intro r hr
    simpa using (List.mem_filter.mp (List.mem_reverse.mp hr)).2
  · have bucket : [m].filter (·.firstPart == part) = [] := by simp [begins, Ne.symm here]
    rw [bucket, filter_of_left_out]
    · rfl
    · intro r dropped
      have begins := (pattern_eq_chord_iff.mp (by simpa using dropped)).1
      simp [begins, Ne.symm here]

/-- The answers to the second key of the chord differ, but neither executes anything. -/
theorem resolve_second_unbound (rules : List Rule) (pattern : m.pattern = .chord a b)
    (removal : m.command = none) (applies : m.applies look) (first part : String) :
    ((ofRules (rules ++ [m])).resolve look (some first) part).bind Resolution.match? =
      ((ofRules (rules.filter fun r => r.pattern != .chord a b)).resolve look (some first)
        part).bind Resolution.match? := by
  simp only [resolve, resolveSecond_eq, toList_ofRules, List.filter_append]
  by_cases here : first = a.encode ∧ part = b.encode
  · obtain ⟨rfl, rfl⟩ := here
    obtain ⟨mFirst, mSecond⟩ := pattern_eq_chord_iff.mp pattern
    have none : (rules.filter fun r => r.pattern != .chord a b).filter (fun r =>
        r.firstPart == a.encode && (r.secondPart? == some b.encode && r.applies look)) = [] := by
      rw [List.filter_filter, List.filter_eq_nil_iff]
      intro r _ matched
      simp only [Bool.and_eq_true, beq_iff_eq, bne_iff_ne] at matched
      obtain ⟨⟨hf, hs, -⟩, other⟩ := matched
      exact other (pattern_eq_chord_iff.mpr ⟨hf, hs⟩)
    rw [none]
    simp [mFirst, mSecond, applies, Rule.resolution, removal, Resolution.match?]
  · have unmatched {r : Rule} (chord : r.pattern = .chord a b) :
        (r.firstPart == first && (r.secondPart? == some part && r.applies look)) = false := by
      obtain ⟨hf, hs⟩ := pattern_eq_chord_iff.mp chord
      simp only [hf, hs, Bool.and_eq_false_imp, beq_iff_eq, Option.some.injEq]
      rintro rfl rfl
      exact absurd ⟨rfl, rfl⟩ here
    have bucket : [m].filter (fun r =>
        r.firstPart == first && (r.secondPart? == some part && r.applies look)) = [] := by
      rw [List.filter_cons, unmatched pattern]
      rfl
    rw [bucket, List.append_nil, filter_of_left_out]
    intro r dropped
    exact unmatched (by simpa using dropped)

/-- Removing a chord at the end of a list of rules is like having no rule for it, whatever the
removal carries besides. -/
theorem alike_unbound (rules : List Rule) (pattern : m.pattern = .chord a b)
    (removal : m.command = none) (always : m.condition = none) :
    Alike (ofRules (rules ++ [m])) (ofRules (rules.filter fun r => r.pattern != .chord a b)) := by
  have applies (look : Lookup) : m.applies look := by simp [Rule.applies, always]
  have isRemoval : m.isRemoval := by simp [Rule.isRemoval, removal]
  constructor
  · intro look part
    exact resolve_first_unbound rules pattern isRemoval (applies look) part
  · intro look first part
    exact resolve_second_unbound rules pattern removal (applies look) first part

end RuleTable

end Shortcuts
