import Shortcuts.Layering
/-!
# What is left when a keymap is laid over another

A keymap is laid over a list of rules one rule at a time, and every rule may delete rules that an
earlier one has just added.  The outcome nevertheless has a closed form
(`layKeymap_eq_append`): the base rules that no rule of the layer supersedes, followed by the rules
of the layer that no later one supersedes.  Laying the same keymap again is then harmless, because
a rule that was added supersedes itself and is added again at its place.
-/

namespace Shortcuts

namespace Rule

/-- The command is that of another rule with a minus sign in front. -/
def IsRetraction (u : Rule) : Prop := ∃ name, u.command = some ("-" ++ name)

/-- A rule of a layer makes an older rule disappear: as a retraction of its command, everywhere or
under the same condition, or else as a rule of the same pattern and condition. -/
inductive Supersedes (u r : Rule) : Prop
  | retracts {name : String} : u.command = some ("-" ++ name) → r.command = some name →
      r.pattern = u.pattern → (u.condition = none ∨ r.condition = u.condition) → Supersedes u r
  | replaces : ¬ u.IsRetraction → r.pattern = u.pattern → r.condition = u.condition →
      Supersedes u r

def fromUser (u : Rule) : Rule := { u with layer := .user }

theorem takesAway?_eq_some_iff {u : Rule} {name : String} :
    u.takesAway? = some name ↔ u.command = some ("-" ++ name) := by
  cases written : u.command with
  | none => simp [takesAway?, written]
  | some command =>
    have spelled : command = "-" ++ name ↔ command.toList = '-' :: name.toList := by
      rw [← String.toList_inj, String.toList_append]
      rfl
    simp only [takesAway?, written, Option.some.injEq, spelled]
    split
    next rest minus =>
      rw [minus, Option.some.injEq, List.cons.injEq, ← String.toList_inj, String.toList_ofList]
      simp
    next other =>
      constructor
      · intro absurdity
        cases absurdity
      · intro minus
        exact absurd minus (other _)

theorem takesAway?_eq_none_iff {u : Rule} : u.takesAway? = none ↔ ¬ u.IsRetraction := by
  simp only [IsRetraction, ← takesAway?_eq_some_iff, Option.eq_none_iff_forall_ne_some,
    not_exists, ne_eq]

theorem displaces_iff_supersedes {u r : Rule} : u.displaces r = true ↔ u.Supersedes r := by
  cases taken : u.takesAway? with
  | some name =>
    have retraction := takesAway?_eq_some_iff.mp taken
    simp only [displaces, taken, Bool.and_eq_true, Bool.or_eq_true, beq_iff_eq,
      Option.isNone_iff_eq_none]
    constructor
    · rintro ⟨⟨sameCommand, samePattern⟩, where_⟩
      exact .retracts retraction sameCommand samePattern where_
    · rintro (⟨written, sameCommand, samePattern, where_⟩ | ⟨plain, -, -⟩)
      · have same := takesAway?_eq_some_iff.mpr written
        rw [taken, Option.some.injEq] at same
        exact ⟨⟨same ▸ sameCommand, samePattern⟩, where_⟩
      · exact absurd ⟨name, retraction⟩ plain
  | none =>
    have plain := takesAway?_eq_none_iff.mp taken
    simp only [displaces, taken, Bool.and_eq_true, beq_iff_eq]
    constructor
    · rintro ⟨samePattern, sameCondition⟩
      exact .replaces plain samePattern sameCondition
    · rintro (⟨written, -, -, -⟩ | ⟨-, samePattern, sameCondition⟩)
      · exact absurd ⟨_, written⟩ plain
      · exact ⟨samePattern, sameCondition⟩

instance (u : Rule) : Decidable u.IsRetraction :=
  decidable_of_iff (u.takesAway?.isSome) (by
    simp [IsRetraction, Option.isSome_iff_exists, takesAway?_eq_some_iff])

instance (u r : Rule) : Decidable (u.Supersedes r) :=
  decidable_of_iff (u.displaces r) displaces_iff_supersedes

/-- The layer that a rule comes from is nothing that another rule asks for. -/
theorem supersedes_fromUser {u r : Rule} : u.Supersedes r.fromUser ↔ u.Supersedes r := by
  rw [← displaces_iff_supersedes, ← displaces_iff_supersedes]
  rfl

end Rule

/-- The rules that a layer contributes: all but its retractions and the rules that a later one
supersedes. -/
def contribution : List Rule → List Rule
  | [] => []
  | u :: later =>
    if u.IsRetraction ∨ ∃ v ∈ later, v.Supersedes u then contribution later
    else u.fromUser :: contribution later

theorem layRule_eq_append (rules : List Rule) (u : Rule) :
    layRule rules u =
      rules.filter (fun r => ¬ u.Supersedes r) ++ if u.IsRetraction then [] else [u.fromUser] := by
  have kept : (rules.filter fun r => !u.displaces r) =
      rules.filter (fun r => ¬ u.Supersedes r) := by
    apply List.filter_congr
    intro r _
    rw [Bool.eq_iff_iff]
    simp [← Rule.displaces_iff_supersedes]
  cases taken : u.takesAway? with
  | some name =>
    have retraction : u.IsRetraction := ⟨name, Rule.takesAway?_eq_some_iff.mp taken⟩
    simp only [layRule, taken, kept, if_pos retraction, List.append_nil]
  | none =>
    have plain := Rule.takesAway?_eq_none_iff.mp taken
    simp only [layRule, taken, kept, if_neg plain]
    rfl

theorem layKeymap_eq_append (base layer : List Rule) :
    layKeymap base layer =
      base.filter (fun r => ∀ u ∈ layer, ¬ u.Supersedes r) ++ contribution layer := by
  induction layer generalizing base with
  | nil =>
    rw [List.filter_eq_self.mpr (by simp), contribution, List.append_nil]
    rfl
  | cons u later ih =>
    have first : layKeymap base (u :: later) = layKeymap (layRule base u) later := rfl
    have keptBase : ((base.filter fun r => ¬ u.Supersedes r).filter
          fun r => ∀ v ∈ later, ¬ v.Supersedes r) =
        base.filter (fun r => ∀ v ∈ u :: later, ¬ v.Supersedes r) := by
      rw [List.filter_filter]
      apply List.filter_congr
      intro r _
      rw [Bool.eq_iff_iff]
      simp [and_comm]
    rw [first, ih, layRule_eq_append, List.filter_append, keptBase, List.append_assoc]
    -- what is left of `u` itself has to stand up to the rules after it
    have keptFirst : ((if u.IsRetraction then [] else [u.fromUser]).filter
          fun r => ∀ v ∈ later, ¬ v.Supersedes r) ++ contribution later =
        contribution (u :: later) := by
      have standsUp : (∀ v ∈ later, ¬ v.Supersedes u.fromUser) ↔
          ¬ ∃ v ∈ later, v.Supersedes u := by
        simp [Rule.supersedes_fromUser]
      by_cases retraction : u.IsRetraction
      · simp [contribution, retraction]
      · by_cases superseded : ∃ v ∈ later, v.Supersedes u
        · rw [if_neg retraction, List.filter_cons_of_neg (by simpa [standsUp] using superseded)]
          simp only [contribution, if_pos (Or.inr superseded), List.filter_nil, List.nil_append]
        · rw [if_neg retraction, List.filter_cons_of_pos (by simpa [standsUp] using superseded)]
          simp [contribution, retraction, superseded]
    rw [keptFirst]

/-! ## What is added -/

theorem exists_of_mem_contribution {layer : List Rule} {r : Rule} (added : r ∈ contribution layer) :
    ∃ u ∈ layer, ¬ u.IsRetraction ∧ r = u.fromUser := by
  induction layer with
  | nil => simp [contribution] at added
  | cons u later ih =>
    simp only [contribution] at added
    split at added
    next gone =>
      obtain ⟨v, member, rest⟩ := ih added
      exact ⟨v, List.mem_cons_of_mem u member, rest⟩
    next stays =>
      rcases List.mem_cons.mp added with rfl | added
      · exact ⟨u, List.mem_cons_self, fun retraction => stays (.inl retraction), rfl⟩
      · obtain ⟨v, member, rest⟩ := ih added
        exact ⟨v, List.mem_cons_of_mem u member, rest⟩

theorem contribution_sublist (layer : List Rule) :
    List.Sublist (contribution layer) (layer.map Rule.fromUser) := by
  induction layer with
  | nil => exact .refl []
  | cons u later ih =>
    simp only [contribution, List.map_cons]
    split
    · exact .cons u.fromUser ih
    · exact .cons_cons u.fromUser ih

theorem nodup_contribution (layer : List Rule) :
    ((contribution layer).map fun r => (r.pattern, r.condition)).Nodup := by
  induction layer with
  | nil => exact .nil
  | cons u later ih =>
    simp only [contribution]
    split
    next => exact ih
    next stays =>
      rw [List.map_cons, List.nodup_cons]
      refine ⟨?_, ih⟩
      -- a later rule that was added for the same pattern and condition would supersede `u`
      intro repeated
      obtain ⟨r, added, same⟩ := List.mem_map.mp repeated
      obtain ⟨v, member, plain, rfl⟩ := exists_of_mem_contribution added
      obtain ⟨samePattern, sameCondition⟩ := Prod.mk.inj same
      exact stays (.inr ⟨v, member, .replaces plain samePattern.symm sameCondition.symm⟩)

/-- A keymap laid over base rules leaves the base rules that it does not supersede, and adds those
of its rules that are no retractions and that no later one supersedes, as rules of the user.  So
nothing else is lost, repeated or moved, no retraction is added, and no two added rules have the
same pattern and condition. -/
theorem layKeymap_exact (base layer : List Rule) :
    layKeymap base layer =
        base.filter (fun r => ∀ u ∈ layer, ¬ u.Supersedes r) ++ contribution layer ∧
      List.Sublist (layKeymap base layer) (base ++ layer.map Rule.fromUser) ∧
      (∀ r ∈ contribution layer, ¬ r.IsRetraction) ∧
      ((contribution layer).map fun r => (r.pattern, r.condition)).Nodup := by
  have closed := layKeymap_eq_append base layer
  refine ⟨closed, ?_, ?_, nodup_contribution layer⟩
  · rw [closed]
    exact .append List.filter_sublist (contribution_sublist layer)
  · intro r added
    obtain ⟨u, -, plain, rfl⟩ := exists_of_mem_contribution added
    exact plain

/-- Laying the same keymap again changes nothing. -/
theorem layKeymap_again (base layer : List Rule) :
    layKeymap (layKeymap base layer) layer = layKeymap base layer := by
  have keptBase : (base.filter fun r => ∀ u ∈ layer, ¬ u.Supersedes r).filter
        (fun r => ∀ u ∈ layer, ¬ u.Supersedes r) =
      base.filter (fun r => ∀ u ∈ layer, ¬ u.Supersedes r) := by
    apply List.filter_eq_self.mpr
    intro r kept
    exact (List.mem_filter.mp kept).2
  have addedGoes : (contribution layer).filter (fun r => ∀ u ∈ layer, ¬ u.Supersedes r) = [] := by
    apply List.filter_eq_nil_iff.mpr
    intro r added stands
    -- the rule that it was added for has its pattern and condition
    obtain ⟨u, member, plain, rfl⟩ := exists_of_mem_contribution added
    exact of_decide_eq_true stands u member (.replaces plain rfl rfl)
  rw [layKeymap_eq_append (layKeymap base layer), layKeymap_eq_append base, List.filter_append,
    keptBase, addedGoes, List.append_nil]

end Shortcuts
