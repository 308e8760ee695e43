import Shortcuts.Proofs.Resolution.ChordMode
/-!
# The rule behind a command

A table never makes a command up: what it executes for an input is the command, the payload and the
bubble flag of one of its rules, which applies and is for exactly that input, or for exactly that
chord.
-/

namespace Shortcuts

theorem Rule.resolution_eq_execute {r : Rule} {m : Match} :
    r.resolution = .execute m ↔
      r.command = some m.command ∧ r.payload = m.payload ∧ r.bubbles = m.bubbles := by
  obtain ⟨command, payload, bubbles⟩ := m
  cases h : r.command <;> simp [resolution, h]

/-- The encodings of the parts of a rule are those that it is looked up by. -/
theorem Rule.parts_eq (r : Rule) : r.pattern.parts = r.firstPart :: r.secondPart?.toList := by
  rw [firstPart, secondPart?]
  cases r.pattern <;> rfl

namespace RuleTable

variable {t : RuleTable} {look : Lookup} {m : Match}

/-- Behind a command there is a rule that applies and has what was looked up for its parts. -/
theorem exists_rule_of_resolve {first : Option String} {part : String}
    (executes : t.resolve look first part = some (.execute m)) :
    ∃ r ∈ t.rules.toList, r.pattern.parts = first.toList ++ [part] ∧ r.applies look ∧
      r.resolution = .execute m := by
  cases first with
  | none =>
    rw [resolve, resolveFirst] at executes
    split at executes
    next => cases executes
    next w rs found =>
      split at executes
      next => cases executes
      next noChord =>
        obtain ⟨inBucket, applies⟩ := mem_of_liveFrom (found ▸ List.mem_cons_self)
        obtain ⟨inside, begins⟩ := mem_startingWith.mp inBucket
        -- a chord would have opened chord mode
        have single : w.secondPart? = none := by simp_all [Rule.isChord_eq]
        refine ⟨w, inside, ?_, applies, Option.some.inj executes⟩
        rw [w.parts_eq, begins, single]
        rfl
  | some first =>
    obtain ⟨w, found, resolution⟩ := Option.map_eq_some_iff.mp executes
    obtain ⟨inside, begins⟩ := mem_startingWith.mp (List.mem_of_find?_eq_some found)
    have matched := List.find?_some found
    rw [Bool.and_eq_true, beq_iff_eq] at matched
    refine ⟨w, inside, ?_, matched.2, resolution⟩
    rw [w.parts_eq, begins, matched.1]
    rfl

theorem exists_rule_of_first {b : Binding}
    (executes : t.resolve look none b.encode = some (.execute m)) :
    ∃ r ∈ t.rules.toList, r.pattern = .single b ∧ r.applies look ∧ r.resolution = .execute m := by
  obtain ⟨r, inside, parts, rest⟩ := exists_rule_of_resolve executes
  exact ⟨r, inside, Pattern.parts_inj.mp parts, rest⟩

theorem exists_rule_of_second {a b : Stroke}
    (executes : t.resolve look (some a.encode) b.encode = some (.execute m)) :
    ∃ r ∈ t.rules.toList, r.pattern = .chord a b ∧ r.applies look ∧ r.resolution = .execute m := by
  obtain ⟨r, inside, parts, rest⟩ := exists_rule_of_resolve executes
  exact ⟨r, inside, Pattern.parts_inj.mp parts, rest⟩

/-- A key opens chord mode only if some chord that begins with it runs a command. -/
theorem exists_chord_of_enterChord {a : Stroke}
    (opens : t.resolve look none a.encode = some .enterChord) :
    ∃ r ∈ t.rules.toList, (∃ b, r.pattern = .chord a b) ∧ r.command.isSome := by
  have last : lastFirst look (.stroke a) t.rules.toList = some .enterChord := by
    rw [← resolveFirst_lastFirst]
    exact opens
  obtain ⟨⟨older, r, newer, split, chord, runs, -⟩, -⟩ := lastFirst_enterChord_iff.mp last
  refine ⟨r, by simp [split], chord, ?_⟩
  rw [Rule.isRemoval, Option.isNone_iff_eq_none] at runs
  exact Option.isSome_iff_ne_none.mpr runs

/-- A table of one chord waits for its second key, and then runs its command. -/
theorem resolve_chord (a b : Stroke) (command : String) (look : Lookup) :
    (ofRules [.run (.chord a b) command]).resolve look none a.encode = some .enterChord ∧
      (ofRules [.run (.chord a b) command]).resolve look (some a.encode) b.encode =
        some (.execute ⟨command, none, false⟩) := by
  constructor
  · refine (resolveFirst_lastFirst _ (.stroke a)).trans ?_
    simp [toList_ofRules, lastFirst, competitors, Rule.competes, Rule.run, Rule.applies,
      Rule.isChord, Rule.isRemoval, Pattern.isChord, Pattern.second?, Pattern.first]
  · refine (resolveSecond_lastSecond _ (.stroke a) (.stroke b)).trans ?_
    simp [toList_ofRules, lastSecond, Rule.run, Rule.applies, Binding.chordWith?, Rule.resolution]

/-- A table of one binding runs its command. -/
theorem resolve_single (b : Binding) (command : String) (look : Lookup) :
    (ofRules [.run (.single b) command]).resolve look none b.encode =
      some (.execute ⟨command, none, false⟩) := by
  refine (resolveFirst_lastFirst _ b).trans ?_
  simp [toList_ofRules, lastFirst, competitors, Rule.competes, Rule.run, Rule.applies,
    Rule.isChord, Pattern.isChord, Pattern.second?, Pattern.first, Rule.resolution]

end RuleTable

end Shortcuts
