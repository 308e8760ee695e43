import Shortcuts.Proofs.Resolution.LastWins
/-!
# When chord mode is worth entering

A first key opens chord mode exactly when some second key would run a command, unless the last
rule for the first key alone comes after every live chord and does not wait (`enterChord_iff`).
The two lookups scan the rules differently; what ties them together is that a chord competes for
its first key exactly when it is live, and that a live chord makes its second key execute.
-/

namespace Shortcuts

/-! ## Live chords -/

/-- A chord rule that begins with `a` is live before `later` rules: it runs a command, it applies,
and no later rule that removes the same chord applies. -/
def Rule.IsLiveChord (look : Lookup) (a : Stroke) (r : Rule) (later : List Rule) : Prop :=
  (∃ b, r.pattern = .chord a b) ∧ ¬r.isRemoval ∧ r.applies look ∧
    ∀ u ∈ later, ¬u.removes look r.pattern

/-- Some chord rule that begins with `a` is live at its place in a list. -/
def HasLiveChord (look : Lookup) (a : Stroke) (rules : List Rule) : Prop :=
  ∃ older r newer, rules = older ++ r :: newer ∧ r.IsLiveChord look a newer

/-- The last rule for `a` alone that applies does not wait, and no live chord comes after it. -/
def SingleComesLast (look : Lookup) (a : Stroke) (rules : List Rule) : Prop :=
  ∃ older s newer, rules = older ++ s :: newer ∧
    s.pattern = .single (.stroke a) ∧ s.applies look ∧ s.waits = false ∧
    (∀ r ∈ newer, r.pattern = .single (.stroke a) → ¬r.applies look) ∧
    ¬HasLiveChord look a newer

/-- A list of rules without the chords that later rules remove. -/
def withoutRemoved (look : Lookup) : List Rule → List Rule
  | [] => []
  | r :: later =>
    if r.isChord && later.any (Rule.removes look r.pattern) then withoutRemoved look later
    else r :: withoutRemoved look later

/-! ## Competing rules by their place -/

variable {look : Lookup} {a : Binding}

theorem mem_competitors {r : Rule} {rules : List Rule} :
    r ∈ competitors look a rules ↔
      ∃ older newer, rules = older ++ r :: newer ∧ r.competes look a newer := by
  induction rules with
  | nil => simp [competitors]
  | cons s later ih =>
    have place : (∃ older newer, s :: later = older ++ r :: newer ∧ r.competes look a newer) ↔
        (s = r ∧ r.competes look a later) ∨ r ∈ competitors look a later := by
      rw [ih]
      constructor
      · rintro ⟨older, newer, split, competes⟩
        cases older with
        | nil =>
          cases split
          exact .inl ⟨rfl, competes⟩
        | cons s' older =>
          cases split
          exact .inr ⟨older, newer, rfl, competes⟩
      · rintro (⟨rfl, competes⟩ | ⟨older, newer, rfl, competes⟩)
        · exact ⟨[], later, rfl, competes⟩
        · exact ⟨s :: older, newer, rfl, competes⟩
    rw [place, competitors]
    split
    next competes =>
      rw [List.mem_cons, eq_comm]
      refine or_congr_left ⟨?_, And.left⟩
      rintro rfl
      exact ⟨rfl, competes⟩
    next idle =>
      refine ⟨.inr, ?_⟩
      rintro (⟨rfl, competes⟩ | mem)
      · exact absurd competes idle
      · exact mem

/-- The rule that decides competes, and no rule after it does. -/
theorem getLast?_competitors {w : Rule} {rules : List Rule} :
    (competitors look a rules).getLast? = some w ↔ ∃ older newer, rules = older ++ w :: newer ∧
      w.competes look a newer ∧ competitors look a newer = [] := by
  constructor
  · intro last
    induction rules with
    | nil => simp [competitors] at last
    | cons r later ih =>
      -- the first rule decides only if nothing after it competes
      by_cases quiet : competitors look a later = []
      · rw [competitors, quiet] at last
        split at last
        next competes =>
          cases last
          exact ⟨[], later, rfl, competes, quiet⟩
        · contradiction
      · have lastLater : (competitors look a later).getLast? = some w := by
          rw [competitors] at last
          split at last
          · rwa [List.getLast?_cons_of_ne_nil quiet] at last
          · exact last
        obtain ⟨older, newer, rfl, rest⟩ := ih lastLater
        exact ⟨r :: older, newer, rfl, rest⟩
  · rintro ⟨older, newer, rfl, competes, quiet⟩
    induction older with
    | nil => simp [competitors, competes, quiet]
    | cons r older ih =>
      rw [List.cons_append, competitors]
      split
      · rw [List.getLast?_cons, ih]
        rfl
      · exact ih

theorem Rule.isChord_of_single {r : Rule} {b : Binding} (single : r.pattern = .single b) :
    r.isChord = false := by
  simp [isChord, Pattern.isChord, Pattern.second?, single]

theorem Rule.isChord_of_chord {r : Rule} {s t : Stroke} (chord : r.pattern = .chord s t) :
    r.isChord = true := by
  simp [isChord, Pattern.isChord, Pattern.second?, chord]

/-- A rule competes for a key as a rule for that key alone or as a live chord. -/
theorem Rule.competes_iff {a : Stroke} {r : Rule} {later : List Rule} :
    r.competes look (.stroke a) later ↔
      (r.pattern = .single (.stroke a) ∧ r.applies look) ∨ r.IsLiveChord look a later := by
  cases hp : r.pattern with
  | single b =>
    simp only [competes, IsLiveChord, isChord_of_single hp, hp, Pattern.first, reduceCtorEq,
      exists_false, false_and, or_false, Bool.false_and, Bool.not_false, Bool.and_true,
      Bool.and_eq_true, beq_iff_eq, Pattern.single.injEq]
    exact and_comm
  | chord s t =>
    simp only [competes, IsLiveChord, isChord_of_chord hp, hp, Pattern.first, reduceCtorEq,
      false_and, false_or, Bool.true_and, Bool.and_eq_true, beq_iff_eq, Binding.stroke.injEq,
      Pattern.chord.injEq, exists_and_left, exists_eq', and_true, Bool.not_or, Bool.not_eq_true',
      Bool.not_eq_true, List.any_eq_false]
    tauto

/-- No rule competes for a key when no rule for it alone applies and no chord is live. -/
theorem competitors_eq_nil {a : Stroke} {rules : List Rule} :
    competitors look (.stroke a) rules = [] ↔
      (∀ r ∈ rules, r.pattern = .single (.stroke a) → ¬r.applies look) ∧
        ¬HasLiveChord look a rules := by
  rw [List.eq_nil_iff_forall_not_mem]
  simp only [mem_competitors, Rule.competes_iff]
  constructor
  · intro quiet
    refine ⟨fun r mem single applies => ?_, ?_⟩
    · obtain ⟨older, newer, split⟩ := List.append_of_mem mem
      exact quiet r ⟨older, newer, split, .inl ⟨single, applies⟩⟩
    · rintro ⟨older, r, newer, split, live⟩
      exact quiet r ⟨older, newer, split, .inr live⟩
  · rintro ⟨idle, dead⟩ r ⟨older, newer, split, single | live⟩
    · exact idle r (by simp [split]) single.1 single.2
    · exact dead ⟨older, r, newer, split, live⟩

theorem any_isChord_competitors {a : Stroke} {rules : List Rule} :
    (competitors look (.stroke a) rules).any Rule.isChord ↔ HasLiveChord look a rules := by
  simp only [List.any_eq_true, mem_competitors, Rule.competes_iff]
  constructor
  · rintro ⟨r, ⟨older, newer, split, single | live⟩, chord⟩
    · simp [Rule.isChord_of_single single.1] at chord
    · exact ⟨older, r, newer, split, live⟩
  · rintro ⟨older, r, newer, split, live⟩
    obtain ⟨b, hb⟩ := live.1
    exact ⟨r, ⟨older, newer, split, .inr live⟩, Rule.isChord_of_chord hb⟩

/-! ## The second key of a live chord -/

/-- A rule's resolution is to execute exactly when it runs a command. -/
theorem Rule.resolution_executes {r : Rule} : (∃ m, r.resolution = .execute m) ↔ ¬r.isRemoval := by
  cases h : r.command <;> simp [resolution, isRemoval, h]

/-- Some second key executes exactly when some chord is live. -/
theorem executes_iff_hasLiveChord {a : Stroke} {rules : List Rule} :
    (∃ p : Stroke, ∃ m, lastSecond look (.stroke a) (.stroke p) rules = some (.execute m)) ↔
      HasLiveChord look a rules := by
  constructor
  · rintro ⟨p, m, executes⟩
    obtain ⟨w, last, resolution⟩ := Option.map_eq_some_iff.mp executes
    obtain ⟨before, chords⟩ := List.getLast?_eq_some_iff.mp last
    obtain ⟨older, rest, rfl, -, tail⟩ := List.filter_eq_append_iff.mp chords
    obtain ⟨between, newer, rfl, -, matched, quiet⟩ := List.filter_eq_cons_iff.mp tail
    simp only [Bool.and_eq_true, beq_iff_eq, Binding.chordWith?, Option.some.injEq] at matched
    refine ⟨older ++ between, w, newer, by simp, ⟨p, matched.2⟩, ?_, matched.1, ?_⟩
    · exact Rule.resolution_executes.mp ⟨m, resolution⟩
    · intro u hu removes
      -- a later rule that removes the chord would be for the same chord and apply
      have := List.filter_eq_nil_iff.mp quiet u hu
      simp_all [Rule.removes, Binding.chordWith?]
  · rintro ⟨older, r, newer, rfl, ⟨p, hp⟩, runs, applies, kept⟩
    refine ⟨p, ?_⟩
    have matched : (r.applies look && some r.pattern == (Binding.stroke a).chordWith? (.stroke p)) =
        true := by
      simp [applies, hp, Binding.chordWith?]
    rw [lastSecond, List.filter_append, List.filter_cons, if_pos matched, List.getLast?_append]
    cases last : (r :: newer.filter fun r =>
        r.applies look && some r.pattern == (Binding.stroke a).chordWith? (.stroke p)).getLast? with
    | none => simp at last
    | some w =>
      -- `w` is the live chord or a later rule for it, and none of these removes it
      have command : ¬w.isRemoval := by
        rcases List.mem_cons.mp (List.mem_of_getLast? last) with rfl | mem
        · exact runs
        · intro removal
          obtain ⟨hw, wMatched⟩ := List.mem_filter.mp mem
          simp only [Bool.and_eq_true, beq_iff_eq, Binding.chordWith?, Option.some.injEq] at wMatched
          exact kept w hw (by simp [Rule.removes, removal, wMatched, hp])
      obtain ⟨m, hm⟩ := Rule.resolution_executes.mpr command
      exact ⟨m, by simp [hm]⟩

/-! ## Chords that were removed -/

theorem any_removes_withoutRemoved (p : Pattern) (rules : List Rule) :
    (withoutRemoved look rules).any (Rule.removes look p) = rules.any (Rule.removes look p) := by
  induction rules with
  | nil => rfl
  | cons r later ih =>
    rw [withoutRemoved]
    split
    next gone =>
      -- if the dropped rule removes the pattern, so does the later rule that drops it
      rw [List.any_cons, ih]
      by_cases removes : r.removes look p
      · have same : r.pattern = p := by simp_all [Rule.removes]
        simp_all
      · simp [removes]
    · rw [List.any_cons, List.any_cons, ih]

/-- Rules compete as if the chords that later rules remove had never been there. -/
theorem competitors_withoutRemoved (a : Binding) (rules : List Rule) :
    competitors look a (withoutRemoved look rules) = competitors look a rules := by
  induction rules with
  | nil => rfl
  | cons r later ih =>
    rw [withoutRemoved]
    split
    next gone =>
      have idle : r.competes look a later = false := by simp_all [Rule.competes]
      rw [ih, competitors, idle]
      rfl
    next stays =>
      have same : r.competes look a (withoutRemoved look later) = r.competes look a later := by
        simp only [Rule.competes, any_removes_withoutRemoved]
      rw [competitors, competitors, same, ih]

/-! ## Entering chord mode -/

theorem lastFirst_eq_enterChord {a : Binding} {rules : List Rule} :
    lastFirst look a rules = some .enterChord ↔ ∃ w, (competitors look a rules).getLast? = some w ∧
      (w.isChord ∨ (w.waits ∧ (competitors look a rules).any Rule.isChord)) := by
  have notEnter (r : Rule) : r.resolution ≠ .enterChord := by
    cases h : r.command <;> simp [Rule.resolution, h]
  simp only [lastFirst, Option.map_eq_some_iff]
  refine exists_congr fun w => and_congr_right fun _ => ?_
  split <;> simp_all

theorem lastFirst_enterChord_iff {a : Stroke} {rules : List Rule} :
    lastFirst look (.stroke a) rules = some .enterChord ↔
      HasLiveChord look a rules ∧ ¬SingleComesLast look a rules := by
  rw [lastFirst_eq_enterChord]
  constructor
  · rintro ⟨w, last, opens⟩
    have live : HasLiveChord look a rules := by
      rw [← any_isChord_competitors]
      rcases opens with chord | ⟨-, chords⟩
      · exact List.any_eq_true.mpr ⟨w, List.mem_of_getLast? last, chord⟩
      · exact chords
    refine ⟨live, ?_⟩
    rintro ⟨older, s, newer, split, single, applies, hasty, idle, dead⟩
    -- such a rule would be the last that competes, so it would decide
    have decides := getLast?_competitors.mpr ⟨older, newer, split,
      Rule.competes_iff.mpr (.inl ⟨single, applies⟩), competitors_eq_nil.mpr ⟨idle, dead⟩⟩
    obtain rfl : w = s := by simpa [decides] using last.symm
    simp [Rule.isChord_of_single single, hasty] at opens
  · rintro ⟨live, notLast⟩
    have chords := any_isChord_competitors.mpr live
    cases last : (competitors look (.stroke a) rules).getLast? with
    | none => simp [List.getLast?_eq_none_iff.mp last] at chords
    | some w =>
      refine ⟨w, rfl, ?_⟩
      obtain ⟨older, newer, split, competes, quiet⟩ := getLast?_competitors.mp last
      obtain ⟨idle, dead⟩ := competitors_eq_nil.mp quiet
      rcases Rule.competes_iff.mp competes with ⟨single, applies⟩ | ⟨⟨b, hb⟩, -⟩
      · cases waits : w.waits with
        | true => exact .inr ⟨rfl, chords⟩
        | false =>
          exact absurd ⟨older, w, newer, split, single, applies, waits, idle, dead⟩ notLast
      · exact .inl (Rule.isChord_of_chord hb)

namespace RuleTable

/-- A key opens chord mode exactly when some second key executes, unless the last rule for the key
alone does not wait and comes after every live chord.  Chords that a later rule removes in this
context play no part. -/
theorem enterChord_iff (t : RuleTable) (look : Lookup) (a : Stroke) :
    (t.resolve look none a.encode = some .enterChord ↔
      (∃ p : Stroke, ∃ m, t.resolve look (some a.encode) p.encode = some (.execute m)) ∧
        ¬SingleComesLast look a t.rules.toList) ∧
    t.resolve look none a.encode =
      (ofRules (withoutRemoved look t.rules.toList)).resolve look none a.encode := by
  have first (t : RuleTable) : t.resolve look none a.encode =
      lastFirst look (.stroke a) t.rules.toList := t.resolveFirst_lastFirst (.stroke a)
  have second (p : Stroke) : t.resolve look (some a.encode) p.encode =
      lastSecond look (.stroke a) (.stroke p) t.rules.toList :=
    t.resolveSecond_lastSecond (.stroke a) (.stroke p)
  refine ⟨?_, ?_⟩
  · simp only [first, second, executes_iff_hasLiveChord, lastFirst_enterChord_iff]
  · rw [first, first, toList_ofRules, lastFirst, lastFirst, competitors_withoutRemoved]

end RuleTable

end Shortcuts
