import Shortcuts.Layering
import Shortcuts.Proofs.Resolution.Scan
/-!
# Laying keymaps over each other keeps every answer

A keymap that takes nothing away by name replaces older rules of the same pattern and condition.
Nobody can tell: a table of the merged rules answers like a table of all rules one after the other
(`resolve_layKeymaps`).  The replaced rules are dominated.  Where they apply, the newer rule applies
too; if it is for a single input, it comes before them, if it is a removal, it takes their chord
away, and if it is a chord that was not taken away, it comes first and keeps chord mode open.
-/

namespace Shortcuts

/-- A rule as if it came from the built-in layer. -/
def Rule.unlayered (r : Rule) : Rule := { r with layer := .builtin }

namespace RuleTable

variable {look : Lookup}

/-! ## The layer of a rule plays no part -/

theorem liveFrom_unlayered (removed : List String) (rs : List Rule) :
    liveFrom look removed (rs.map Rule.unlayered) =
      (liveFrom look removed rs).map Rule.unlayered := by
  induction rs generalizing removed with
  | nil => rfl
  | cons r rs ih =>
    have stands : r.unlayered.stands look removed = r.stands look removed := rfl
    have takes : r.unlayered.takes look = r.takes look := rfl
    rw [List.map_cons, liveFrom_cons, liveFrom_cons, ih, stands, takes]
    split <;> simp

theorem verdict_unlayered (rs : List Rule) : verdict (rs.map Rule.unlayered) = verdict rs := by
  cases rs with
  | nil => rfl
  | cons r rs =>
    have chords : ((r :: rs).map Rule.unlayered).any Rule.isChord = (r :: rs).any Rule.isChord := by
      rw [List.any_map]
      rfl
    rw [List.map_cons] at chords ⊢
    simp only [verdict, chords]
    rfl

/-- What a list of rules answers once it is a table. -/
abbrev answer (look : Lookup) (first : Option String) (part : String) (rules : List Rule) :
    Option Resolution :=
  (ofRules rules).resolve look first part

theorem answer_unlayered (first : Option String) (part : String) (rules : List Rule) :
    answer look first part (rules.map Rule.unlayered) = answer look first part rules := by
  cases first with
  | none =>
    have bucket : (rules.map Rule.unlayered).filter (·.firstPart == part) =
        (rules.filter (·.firstPart == part)).map Rule.unlayered := by
      rw [List.filter_map]
      rfl
    simp only [answer, resolve, resolveFirst_eq, toList_ofRules]
    rw [bucket, ← List.map_reverse, live, liveFrom_unlayered, verdict_unlayered]
    rfl
  | some first =>
    simp only [answer, resolve, resolveSecond_eq, toList_ofRules]
    rw [List.filter_map, List.getLast?_map, Option.map_map]
    rfl

/-! ## Dominated rules -/

/-- A rule that another one replaces has its pattern and its condition. -/
theorem displaces_iff {u r : Rule} (stays : u.takesAway? = none) :
    u.displaces r ↔ r.pattern = u.pattern ∧ r.condition = u.condition := by
  simp [Rule.displaces, stays]

theorem same_of_displaces {u r : Rule} (stays : u.takesAway? = none) (dropped : u.displaces r) :
    r.firstPart = u.firstPart ∧ r.secondPart? = u.secondPart? ∧
      ∀ look, r.applies look = u.applies look := by
  obtain ⟨pattern, condition⟩ := (displaces_iff stays).mp dropped
  simp [Rule.firstPart, Rule.secondPart?, Rule.applies, pattern, condition]

/-- Where a rule is not wanted, the rules that it replaces may be left out before. -/
theorem filter_displaces {u : Rule} {wanted : Rule → Bool}
    (sameFor : ∀ r, u.displaces r → wanted r = wanted u) (unwanted : wanted u = false)
    (rs : List Rule) :
    (rs.filter fun r => !u.displaces r).filter wanted = rs.filter wanted := by
  apply filter_of_left_out
  intro r dropped
  rw [sameFor r (by simpa using dropped), unwanted]

/-- After a rule that does not compete, neither do the rules that it replaces. -/
theorem liveFrom_filter_of_not_stands {u : Rule} (stays : u.takesAway? = none)
    {removed : List String} (beaten : u.stands look removed = false) (older : List Rule) :
    liveFrom look (u.takes look ++ removed) (older.filter fun r => !u.displaces r) =
      liveFrom look (u.takes look ++ removed) older := by
  apply liveFrom_filter
  intro r _ dropped
  obtain ⟨-, part, applies⟩ := same_of_displaces stays (by simpa using dropped)
  by_cases active : u.applies look
  · cases second : u.secondPart? with
    | none => simp [Rule.stands, active, second] at beaten
    | some p =>
      -- `u` is for a chord that a newer rule removes, or that it removes itself
      have gone : p ∈ u.takes look ++ removed := by
        by_cases removal : u.isRemoval
        · simp [Rule.takes, active, removal, second]
        · simp_all [Rule.stands]
      rw [second] at part
      refine ⟨fun q hq => ?_, fun more => ?_⟩
      · obtain ⟨-, -, hp⟩ := Rule.mem_takes.mp hq
        obtain rfl : p = q := by simpa [part] using hp
        exact gone
      · simp only [Rule.stands, part, Option.all_some, List.contains_iff_mem.mpr
          (List.mem_append_right more gone)]
        simp
  · simp [Rule.takes, Rule.stands, applies, active]

/-- After a rule for a single input, the same chords compete whether or not the rules that it
replaces are there. -/
theorem any_isChord_liveFrom_filter {u : Rule} (stays : u.takesAway? = none)
    (single : u.isChord = false) (removed : List String) (older : List Rule) :
    (liveFrom look removed (older.filter fun r => !u.displaces r)).any Rule.isChord =
      (liveFrom look removed older).any Rule.isChord := by
  have sameFor (r : Rule) (dropped : u.displaces r) : r.isChord = u.isChord := by
    obtain ⟨-, part, -⟩ := same_of_displaces stays dropped
    rw [Rule.isChord_eq, part, ← Rule.isChord_eq]
  have chords (rs : List Rule) : rs.any Rule.isChord = (rs.filter Rule.isChord).any Rule.isChord := by
    simp [List.any_filter]
  rw [chords, filter_isChord_liveFrom, filter_displaces sameFor single, ← filter_isChord_liveFrom,
    ← chords]

/-- Of the rules of a bucket from the newest, those that a rule among them replaces may be left
out: the same rule decides, in the same way. -/
theorem verdict_live_filter {u : Rule} (stays : u.takesAway? = none) (newer older : List Rule) :
    verdict (live look (newer ++ u :: older.filter fun r => !u.displaces r)) =
      verdict (live look (newer ++ u :: older)) := by
  simp only [live, liveFrom_append, liveFrom_cons, List.append_nil]
  generalize takenAway look newer = removed
  cases stands : u.stands look removed with
  | false => rw [liveFrom_filter_of_not_stands stays stands]
  | true =>
    -- the newest competing rule is `u` or newer, so only the chords after it are in question
    apply verdict_congr
    · simp [List.head?_append]
    · cases chord : u.isChord with
      | true => simp [chord]
      | false => simp only [List.any_append, any_isChord_liveFrom_filter stays chord]

/-- The rules that a later rule replaces may be left out of a list. -/
theorem answer_filter_displaces {u : Rule} (stays : u.takesAway? = none) (first : Option String)
    (part : String) (older newer : List Rule) :
    answer look first part ((older.filter fun r => !u.displaces r) ++ u :: newer) =
      answer look first part (older ++ u :: newer) := by
  cases first with
  | none =>
    simp only [answer, resolve, resolveFirst_eq, toList_ofRules, List.filter_append,
      List.reverse_append]
    by_cases mine : u.firstPart = part
    · have bucket : (u :: newer).filter (·.firstPart == part) =
          u :: newer.filter (·.firstPart == part) := by simp [mine]
      rw [bucket, reverse_filter_filter, List.reverse_cons, List.append_assoc, List.append_assoc]
      exact verdict_live_filter stays _ _
    · have sameFor (r : Rule) (dropped : u.displaces r) :
          (r.firstPart == part) = (u.firstPart == part) := by
        rw [(same_of_displaces stays dropped).1]
      rw [filter_displaces sameFor (by simpa using mine)]
  | some first =>
    simp only [answer, resolve, resolveSecond_eq, toList_ofRules, List.filter_append]
    generalize hm : (fun r : Rule => r.firstPart == first &&
      (r.secondPart? == some part && r.applies look)) = matched
    have sameFor (r : Rule) (dropped : u.displaces r) : matched r = matched u := by
      obtain ⟨hf, hs, ha⟩ := same_of_displaces stays dropped
      simp only [← hm, hf, hs, ha]
    cases decides : matched u with
    | true =>
      -- the replaced rules are not the last of their kind
      rw [List.filter_cons_of_pos decides, List.getLast?_append, List.getLast?_append]
      cases last : (u :: newer.filter matched).getLast? with
      | none => simp at last
      | some w => rfl
    | false => rw [filter_displaces sameFor decides]

/-! ## Layers -/

theorem answer_layKeymap {layer : List Rule} (stay : ∀ u ∈ layer, u.takesAway? = none)
    (first : Option String) (part : String) (base newer : List Rule) :
    answer look first part (layKeymap base layer ++ newer) =
      answer look first part (base ++ layer ++ newer) := by
  induction layer generalizing base with
  | nil => simp [layKeymap]
  | cons u layer ih =>
    have stays := stay u (by simp)
    have laid : layRule base u =
        (base.filter fun r => !u.displaces r) ++ [{ u with layer := .user }] := by
      simp [layRule, stays]
    have unlayered : ((base.filter fun r => !u.displaces r) ++ [{ u with layer := .user }] ++
          layer ++ newer).map Rule.unlayered =
        ((base.filter fun r => !u.displaces r) ++ u :: (layer ++ newer)).map Rule.unlayered := by
      simp [Rule.unlayered]
    calc answer look first part (layKeymap base (u :: layer) ++ newer)
        = answer look first part (layKeymap (layRule base u) layer ++ newer) := rfl
      _ = answer look first part (layRule base u ++ layer ++ newer) :=
          ih (fun v hv => stay v (by simp [hv])) _
      _ = answer look first part ((base.filter fun r => !u.displaces r) ++ u :: (layer ++ newer)) := by
          rw [laid, ← answer_unlayered, unlayered, answer_unlayered]
      _ = answer look first part (base ++ u :: (layer ++ newer)) :=
          answer_filter_displaces stays first part base (layer ++ newer)
      _ = answer look first part (base ++ u :: layer ++ newer) := by simp

/-- A command that does not begin with a minus sign takes nothing away. -/
theorem takesAway?_eq_none {u : Rule}
    (plain : ∀ command, u.command = some command → command.toList.head? ≠ some '-') :
    u.takesAway? = none := by
  cases h : u.command with
  | none => simp [Rule.takesAway?, h]
  | some command =>
    have noMinus := plain command h
    cases hc : command.toList with
    | nil => simp [Rule.takesAway?, h, hc]
    | cons c cs =>
      simp only [hc, List.head?_cons, ne_eq, Option.some.injEq] at noMinus
      simp [Rule.takesAway?, h, hc, noMinus]

/-- Keymaps laid over each other one after the other answer every lookup like all their rules one
after the other, as long as no command begins with a minus sign. -/
theorem resolve_layKeymaps (base : List Rule) (layers : List (List Rule))
    (plain : ∀ layer ∈ layers, ∀ u ∈ layer, ∀ command, u.command = some command →
      command.toList.head? ≠ some '-')
    (look : Lookup) (first : Option String) (part : String) :
    (ofRules (layers.foldl layKeymap base)).resolve look first part =
      (ofRules (base ++ layers.flatten)).resolve look first part := by
  -- the rules of later keymaps come behind, so the induction speaks of any rules that follow
  have merged (newer : List Rule) :
      answer look first part (layers.foldl layKeymap base ++ newer) =
        answer look first part (base ++ layers.flatten ++ newer) := by
    induction layers generalizing base with
    | nil => simp
    | cons layer layers ih =>
      have stay (u : Rule) (hu : u ∈ layer) : u.takesAway? = none :=
        takesAway?_eq_none (plain layer (by simp) u hu)
      rw [List.foldl_cons, ih _ (fun l hl => plain l (by simp [hl])), List.append_assoc,
        answer_layKeymap stay, List.flatten_cons]
      simp only [List.append_assoc]
  simpa using merged []

/-- A chord that one keymap takes away, the next one binds and the last one takes away again. -/
theorem resolve_layKeymaps_rebound :
    let save : Pattern := .chord (.ofKey (.char 'k') .onlyCtrl) (.ofKey (.char 's') .onlyCtrl)
    let base := [Rule.run save "saveAll", Rule.removal save]
    let layers := [[Rule.run save "save"], [Rule.removal save]]
    (∀ layer ∈ layers, ∀ u ∈ layer, ∀ command, u.command = some command →
      command.toList.head? ≠ some '-') ∧
    (ofRules (layers.foldl layKeymap base)).resolve Context.empty.get? none "ctrl+k" =
      (ofRules (base ++ layers.flatten)).resolve Context.empty.get? none "ctrl+k" := by
  intro save base layers
  have plain : ∀ layer ∈ layers, ∀ u ∈ layer, ∀ command, u.command = some command →
      command.toList.head? ≠ some '-' := by
    simp [layers, Rule.run, Rule.removal]
  exact ⟨plain, resolve_layKeymaps base layers plain _ _ _⟩

end RuleTable

end Shortcuts
