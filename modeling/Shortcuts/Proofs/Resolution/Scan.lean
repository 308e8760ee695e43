import Shortcuts.RuleTable
/-!
# Scanning rules from the newest

`RuleTable.liveFrom` walks over the rules of a bucket from the newest and carries the second parts
that removals took away.  Whether a rule competes depends on these parts only (`liveFrom_cons`), so
a scan of a list splits where the list does (`liveFrom_append`), and rules that neither compete nor
take anything new away may be left out (`liveFrom_filter`).
-/

namespace Shortcuts

/-! ## One rule of a scan -/

/-- The second part that a rule takes away in a context, if it removes a chord there. -/
def Rule.takes (look : Lookup) (r : Rule) : List String :=
  if r.applies look && r.isRemoval then r.secondPart?.toList else []

/-- Whether a rule competes for its first part when some second parts were taken away before. -/
def Rule.stands (look : Lookup) (removed : List String) (r : Rule) : Bool :=
  r.applies look && r.secondPart?.all fun part => !r.isRemoval && !removed.contains part

theorem Rule.mem_takes {look : Lookup} {r : Rule} {part : String} :
    part ∈ r.takes look ↔ r.applies look ∧ r.isRemoval ∧ r.secondPart? = some part := by
  unfold takes
  split <;> simp_all

/-- The second parts that the rules of a list take away. -/
def takenAway (look : Lookup) (rs : List Rule) : List String := rs.flatMap (Rule.takes look)

theorem mem_takenAway {look : Lookup} {rs : List Rule} {part : String} :
    part ∈ takenAway look rs ↔
      ∃ r ∈ rs, r.applies look ∧ r.isRemoval ∧ r.secondPart? = some part := by
  simp [takenAway, Rule.mem_takes]

namespace RuleTable

/-! ## Lists with rules left out -/

/-- Rules that are not wanted may be left out before. -/
theorem filter_of_left_out {rs : List Rule} {keep wanted : Rule → Bool}
    (unwanted : ∀ r, keep r = false → wanted r = false) :
    (rs.filter keep).filter wanted = rs.filter wanted := by
  rw [List.filter_filter]
  apply List.filter_congr
  intro r _
  cases kept : keep r with
  | true => rw [Bool.and_true]
  | false =>
    rw [unwanted r kept]
    rfl

theorem reverse_filter_filter (rs : List Rule) (keep wanted : Rule → Bool) :
    ((rs.filter keep).filter wanted).reverse = (rs.filter wanted).reverse.filter keep := by
  rw [List.filter_reverse, List.filter_filter, List.filter_filter]
  simp only [Bool.and_comm]

/-! ## Whole scans -/

variable {look : Lookup}

theorem liveFrom_cons (removed : List String) (r : Rule) (rs : List Rule) :
    liveFrom look removed (r :: rs) =
      (if r.stands look removed then [r] else []) ++
        liveFrom look (r.takes look ++ removed) rs := by
  by_cases applies : r.applies look
  · cases part : r.secondPart? with
    | none => simp [liveFrom, Rule.stands, Rule.takes, applies, part]
    | some p =>
      by_cases removal : r.isRemoval <;> by_cases gone : p ∈ removed <;>
        simp [liveFrom, Rule.stands, Rule.takes, applies, part, removal, gone]
  · simp [liveFrom, Rule.stands, Rule.takes, applies]

/-- What a scan finds is a rule that it walked over, and applies. -/
theorem mem_of_liveFrom {removed : List String} {rs : List Rule} {r : Rule}
    (member : r ∈ liveFrom look removed rs) : r ∈ rs ∧ r.applies look := by
  induction rs generalizing removed with
  | nil => cases member
  | cons s rs ih =>
    rw [liveFrom_cons, List.mem_append] at member
    obtain here | further := member
    · split at here
      next stands =>
        obtain rfl := List.mem_singleton.mp here
        rw [Rule.stands, Bool.and_eq_true] at stands
        exact ⟨List.mem_cons_self, stands.1⟩
      next => cases here
    · obtain ⟨inside, applies⟩ := ih further
      exact ⟨List.mem_cons_of_mem s inside, applies⟩

/-- Only the parts that occur among the rules matter to a scan. -/
theorem liveFrom_congr {removed removed' : List String} {rs : List Rule}
    (same : ∀ r ∈ rs, ∀ part, r.secondPart? = some part → (part ∈ removed ↔ part ∈ removed')) :
    liveFrom look removed rs = liveFrom look removed' rs := by
  induction rs generalizing removed removed' with
  | nil => rfl
  | cons r rs ih =>
    have stands : r.stands look removed = r.stands look removed' := by
      cases part : r.secondPart? with
      | none => simp [Rule.stands, part]
      | some p => simp [Rule.stands, part, same r (by simp) p part]
    have rest : liveFrom look (r.takes look ++ removed) rs =
        liveFrom look (r.takes look ++ removed') rs := by
      apply ih
      intro s hs part hp
      simp [same s (by simp [hs]) part hp]
    rw [liveFrom_cons, liveFrom_cons, stands, rest]

/-- A scan goes on with the parts that the newer rules took away. -/
theorem liveFrom_append (removed : List String) (newer older : List Rule) :
    liveFrom look removed (newer ++ older) =
      liveFrom look removed newer ++ liveFrom look (takenAway look newer ++ removed) older := by
  induction newer generalizing removed with
  | nil => rfl
  | cons r newer ih =>
    -- the parts come in another order, but a scan asks for membership only
    have reorder : liveFrom look (takenAway look newer ++ (r.takes look ++ removed)) older =
        liveFrom look (takenAway look (r :: newer) ++ removed) older := by
      apply liveFrom_congr
      intro _ _ part _
      simp only [takenAway, List.flatMap_cons, List.mem_append]
      exact or_left_comm.trans (or_assoc.symm)
    rw [List.cons_append, liveFrom_cons, ih, reorder, liveFrom_cons, List.append_assoc]

/-- Rules that never compete and take nothing new away may be left out of a scan. -/
theorem liveFrom_filter {removed : List String} {rs : List Rule} {keep : Rule → Bool}
    (idle : ∀ r ∈ rs, keep r = false →
      r.takes look ⊆ removed ∧ ∀ more, r.stands look (more ++ removed) = false) :
    liveFrom look removed (rs.filter keep) = liveFrom look removed rs := by
  induction rs generalizing removed with
  | nil => rfl
  | cons r rs ih =>
    rw [List.filter_cons]
    split
    · have rest : liveFrom look (r.takes look ++ removed) (rs.filter keep) =
          liveFrom look (r.takes look ++ removed) rs := by
        -- with more parts taken away, the rules that may be left out are still idle
        apply ih
        intro s hs dropped
        obtain ⟨taken, never⟩ := idle s (by simp [hs]) dropped
        refine ⟨fun part hp => List.mem_append_right _ (taken hp), fun more => ?_⟩
        rw [← List.append_assoc]
        exact never _
      rw [liveFrom_cons, liveFrom_cons, rest]
    next dropped =>
      -- the rule takes nothing away that was not gone before
      obtain ⟨taken, never⟩ := idle r (by simp) (by simpa using dropped)
      have known : liveFrom look (r.takes look ++ removed) rs = liveFrom look removed rs := by
        apply liveFrom_congr
        intro _ _ part _
        rw [List.mem_append]
        exact ⟨fun h => h.elim (taken ·) id, .inr⟩
      have absent : r.stands look removed = false := never []
      rw [ih fun s hs => idle s (by simp [hs]), liveFrom_cons, absent, known]
      rfl

/-- Chords compete among themselves: single inputs take nothing away. -/
theorem filter_isChord_liveFrom (removed : List String) (rs : List Rule) :
    (liveFrom look removed rs).filter Rule.isChord =
      liveFrom look removed (rs.filter Rule.isChord) := by
  induction rs generalizing removed with
  | nil => rfl
  | cons r rs ih =>
    rw [liveFrom_cons, List.filter_append, ih, List.filter_cons]
    by_cases chord : r.isChord
    · rw [if_pos chord, liveFrom_cons]
      split <;> simp [chord]
    · have takesNothing : r.takes look = [] := by
        have : r.secondPart? = none := by simpa [Rule.isChord_eq] using chord
        simp [Rule.takes, this]
      rw [if_neg chord, takesNothing]
      split <;> simp [chord]

/-! ## What a table answers -/

theorem mem_startingWith {t : RuleTable} {part : String} {r : Rule} :
    r ∈ t.startingWith part ↔ r ∈ t.rules.toList ∧ r.firstPart = part := by
  simp [startingWith_eq]

/-- What competing rules, from the newest, say about an input on its own. -/
def verdict (competing : List Rule) : Option Resolution :=
  match competing with
  | [] => none
  | r :: rs =>
    if r.isChord || (r.waits && (r :: rs).any Rule.isChord) then some .enterChord
    else some r.resolution

theorem resolveFirst_eq (t : RuleTable) (part : String) :
    t.resolveFirst look part =
      verdict (live look (t.rules.toList.filter (·.firstPart == part)).reverse) := by
  rw [resolveFirst, startingWith_eq]
  rfl

/-- A verdict needs to know the newest competing rule, and whether a chord competes. -/
theorem verdict_congr {rs ss : List Rule} (newest : rs.head? = ss.head?)
    (chords : rs.any Rule.isChord = ss.any Rule.isChord) : verdict rs = verdict ss := by
  cases rs with
  | nil =>
    cases ss with
    | nil => rfl
    | cons s ss => simp at newest
  | cons r rs =>
    cases ss with
    | nil => simp at newest
    | cons s ss =>
      simp only [List.head?_cons, Option.some.injEq] at newest
      subst newest
      simp only [verdict, chords]

/-- The second key of a chord is decided by the last rule for it that applies. -/
theorem resolveSecond_eq (t : RuleTable) (first part : String) :
    t.resolveSecond look first part =
      ((t.rules.toList.filter fun r =>
        r.firstPart == first && (r.secondPart? == some part && r.applies look)).getLast?).map
          Rule.resolution := by
  rw [resolveSecond, startingWith_eq, ← List.head?_filter, List.filter_reverse,
    List.filter_filter, List.head?_reverse]
  simp only [Bool.and_comm]

end RuleTable

end Shortcuts
