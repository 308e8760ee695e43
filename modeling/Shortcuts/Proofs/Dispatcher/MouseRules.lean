import Shortcuts.Proofs.Dispatcher.Transition
import Shortcuts.Proofs.Resolution.ChordMode
/-!
# Rules for the mouse

A chord has two key strokes, so no rule that begins with a click or a drag is for a chord.  Rules are
looked up by encodings, though, and all kinds of input share the buckets; that no key stroke is
written like a click or a drag is what keeps chords out of the buckets of the mouse.  So the last rule
that applies decides there, whether it waits or not (`lastFirst_of_not_stroke`), and a dispatcher
never has a chord to drop for the mouse (`mouse_never_chords`).
-/

namespace Shortcuts

/-- The last rule of a list for a binding alone that applies. -/
def lastAlone? (look : Lookup) (b : Binding) (rules : List Rule) : Option Rule :=
  (rules.filter fun r => r.applies look && r.pattern == .single b).getLast?

/-- A rule that waits for no second key, if it is for a click or a drag. -/
def Rule.withoutMouseWait (r : Rule) : Rule :=
  if r.pattern.first.isStroke then r else { r with waits := false }

section

variable {look : Lookup} {b : Binding}

theorem Pattern.first_eq_iff_of_not_stroke (mouse : b.isStroke = false) {p : Pattern} :
    p.first = b ↔ p = .single b := by
  cases p with
  | single c => rw [first, single.injEq]
  | chord s u =>
    constructor
    · rintro rfl
      cases mouse
    · rintro ⟨⟩

/-- Only for key strokes it matters what follows a rule, and whether the rule is for a chord. -/
theorem Rule.competes_of_not_stroke (mouse : b.isStroke = false) (r : Rule) (later : List Rule) :
    r.competes look b later = (r.applies look && r.pattern == .single b) := by
  have begins : (r.pattern.first == b) = (r.pattern == .single b) := by
    rw [Bool.eq_iff_iff, beq_iff_eq, beq_iff_eq, Pattern.first_eq_iff_of_not_stroke mouse]
  rw [competes, begins]
  cases single : r.pattern == .single b with
  | false => simp
  | true => simp [isChord_of_single (beq_iff_eq.mp single)]

theorem competitors_of_not_stroke (mouse : b.isStroke = false) (rules : List Rule) :
    competitors look b rules =
      rules.filter fun r => r.applies look && r.pattern == .single b := by
  induction rules with
  | nil => rfl
  | cons r later ih =>
    rw [competitors, List.filter_cons, Rule.competes_of_not_stroke mouse, ih]

theorem lastFirst_of_not_stroke (mouse : b.isStroke = false) (rules : List Rule) :
    lastFirst look b rules = (lastAlone? look b rules).map Rule.resolution := by
  have noChord : ∀ r ∈ competitors look b rules, r.isChord = false := by
    intro r competing
    rw [competitors_of_not_stroke mouse] at competing
    have single := (List.mem_filter.mp competing).2
    rw [Bool.and_eq_true, beq_iff_eq] at single
    exact Rule.isChord_of_single single.2
  have none : (competitors look b rules).any Rule.isChord = false := by
    simpa using noChord
  rw [lastFirst, none, competitors_of_not_stroke mouse, lastAlone?]
  refine Option.map_congr fun r last => ?_
  rw [← competitors_of_not_stroke mouse] at last
  simp [noChord r (List.mem_of_getLast? last)]

/-- Whether a rule for the mouse waits changes nothing about which rule is the last. -/
theorem lastAlone?_withoutMouseWait (rules : List Rule) :
    lastAlone? look b (rules.map Rule.withoutMouseWait) =
      (lastAlone? look b rules).map Rule.withoutMouseWait := by
  have applies (r : Rule) : r.withoutMouseWait.applies look = r.applies look := by
    rw [Rule.withoutMouseWait]
    split <;> rfl
  have pattern (r : Rule) : r.withoutMouseWait.pattern = r.pattern := by
    rw [Rule.withoutMouseWait]
    split <;> rfl
  rw [lastAlone?, lastAlone?, List.filter_map, List.getLast?_map]
  simp only [Function.comp_def, applies, pattern]

theorem Rule.resolution_withoutMouseWait (r : Rule) :
    r.withoutMouseWait.resolution = r.resolution := by
  rw [withoutMouseWait]
  split <;> rfl

end

namespace RuleTable

variable {look : Lookup} {b : Binding}

theorem resolve_of_not_stroke (mouse : b.isStroke = false) (t : RuleTable) :
    t.resolve look none b.encode = (lastAlone? look b t.rules.toList).map Rule.resolution := by
  rw [← lastFirst_of_not_stroke mouse]
  exact t.resolveFirst_lastFirst b

theorem resolve_ne_enterChord_of_not_stroke (mouse : b.isStroke = false) (t : RuleTable) :
    t.resolve look none b.encode ≠ some .enterChord := by
  rw [resolve_of_not_stroke mouse]
  intro opens
  obtain ⟨r, -, resolution⟩ := Option.map_eq_some_iff.mp opens
  rw [Rule.resolution] at resolution
  split at resolution <;> cases resolution

end RuleTable

namespace Dispatcher

/-- A click or a drag is left unhandled only for want of a rule, or because a rule removes it. -/
theorem planBinding_eq_unhandled_iff {d : Dispatcher} {b : Binding} {look : Lookup} {now : Nat}
    (mouse : b.isStroke = false) :
    (d.planBinding b look now).1 = .answer .unhandled ↔
      d.table.resolve look none b.encode = none ∨
        d.table.resolve look none b.encode = some .removed := by
  have noChord : d.table.resolve look none b.encode ≠ some .enterChord :=
    d.table.resolve_ne_enterChord_of_not_stroke mouse
  rw [planBinding_eq, react_of_not_stroke mouse, Reaction.first]
  split
  next found => simp [found]
  next found => simp [found]
  next found => simp [found]
  next found => exact absurd found noChord

/-- A drag is armed with the command of the last rule for it that applies. -/
theorem beginDrag_of_command {d : Dispatcher} {g : Drag} {look : Lookup} (now : Nat) {r : Rule}
    {command : String} (last : lastAlone? look (.drag g) d.table.rules.toList = some r)
    (runs : r.command = some command) :
    (d.beginDrag g look now).1 = .selectionArmed ∧
      (d.beginDrag g look now).2.gesture = some ⟨g, ⟨command, r.payload, r.bubbles⟩⟩ := by
  have found : d.table.resolve look none g.encode =
      some (.execute ⟨command, r.payload, r.bubbles⟩) := by
    refine (d.table.resolve_of_not_stroke (b := .drag g) rfl).trans ?_
    rw [last, Option.map_some, Rule.resolution, runs]
  have begun : PendingGesture.begin? d.table look g =
      some ⟨g, ⟨command, r.payload, r.bubbles⟩⟩ := PendingGesture.begin?_eq_some.mpr ⟨rfl, found⟩
  rw [beginDrag, expireChord_eq]
  simp [begun]

end Dispatcher

/-- Clicks and drags never open a chord, and it does not matter to them which of their rules wait.  So
a dispatcher leaves them unhandled only where it finds no rule or a removal, and it arms every drag
for which the last rule that applies has a command. -/
theorem mouse_never_chords (t : RuleTable) (look : Lookup) {b : Binding}
    (mouse : b.isStroke = false) :
    t.resolve look none b.encode ≠ some .enterChord ∧
      (RuleTable.ofRules (t.rules.toList.map Rule.withoutMouseWait)).resolve look none b.encode =
        t.resolve look none b.encode ∧
      ∀ d : Dispatcher, d.table = t → ∀ now,
        ((d.planBinding b look now).1 = .answer .unhandled ↔
          t.resolve look none b.encode = none ∨ t.resolve look none b.encode = some .removed) ∧
        ∀ g r command, b = .drag g → lastAlone? look b t.rules.toList = some r →
          r.command = some command → (d.beginDrag g look now).1 = .selectionArmed ∧
            (d.beginDrag g look now).2.gesture = some ⟨g, ⟨command, r.payload, r.bubbles⟩⟩ := by
  refine ⟨t.resolve_ne_enterChord_of_not_stroke mouse, ?_, ?_⟩
  · rw [RuleTable.resolve_of_not_stroke mouse, RuleTable.resolve_of_not_stroke mouse,
      RuleTable.toList_ofRules, lastAlone?_withoutMouseWait, Option.map_map]
    simp only [Function.comp_def, Rule.resolution_withoutMouseWait]
  · rintro d rfl now
    refine ⟨Dispatcher.planBinding_eq_unhandled_iff mouse, ?_⟩
    rintro g r command rfl last runs
    exact Dispatcher.beginDrag_of_command now last runs

/-- Two rules for drags wait, and a chord waits for its second key; the later drag is armed all the
same. -/
theorem mouse_never_chords_armed :
    let drag : Drag := ⟨.onlyAlt, .left⟩
    let key := Stroke.ofKey (.char 'k') .onlyCtrl
    let rules := [{ Rule.opener (.single (.drag drag)) with condition := some (.has "editor") },
      .run (.chord key key) "saveAll",
      { Rule.run (.single (.drag drag)) "columnSelect" with waits := true }]
    let d := Dispatcher.new (.ofRules rules) .standard true
    (Binding.drag drag).isStroke = false ∧
      d.table.resolve (fun _ => none) none "selection alt+LMB" ≠ some .enterChord ∧
      (d.beginDrag drag (fun _ => none) 0).1 = .selectionArmed := by
  intro drag key rules d
  have mouse : (Binding.drag drag).isStroke = false := rfl
  obtain ⟨closed, -, dispatches⟩ :=
    mouse_never_chords (.ofRules rules) (fun _ => none) mouse
  refine ⟨mouse, closed, ?_⟩
  have last : lastAlone? (fun _ => none) (.drag drag) (RuleTable.ofRules rules).rules.toList =
      some { Rule.run (.single (.drag drag)) "columnSelect" with waits := true } := by
    rw [RuleTable.toList_ofRules]
    rfl
  exact ((dispatches d rfl 0).2 drag _ _ rfl last rfl).1

end Shortcuts
