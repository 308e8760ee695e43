import Mathlib.Tactic.Tauto
import Shortcuts.Proofs.Binding.Encoding
import Shortcuts.Proofs.Resolution.Scan
/-!
# The last rule wins

What a table answers, said on its list of rules and on binding values alone: without encodings,
without indexes, and without a scan that remembers removed chords.  `competitors` keeps the rules
that compete for an input on its own; the last of them decides (`resolve_lastWins`).
-/

namespace Shortcuts

/-! ## The rules that compete -/

def Binding.chordWith? : Binding → Binding → Option Pattern
  | .stroke s, .stroke t => some (.chord s t)
  | _, _ => none

def Rule.removes (look : Lookup) (p : Pattern) (r : Rule) : Bool :=
  r.isRemoval && r.pattern == p && r.applies look

/-- Whether a rule, with `later` after it in its list, competes for a binding on its own: it
applies and begins with the binding, and if it is a chord, it neither removes that chord nor does a
later rule. -/
def Rule.competes (look : Lookup) (a : Binding) (r : Rule) (later : List Rule) : Bool :=
  r.applies look && r.pattern.first == a &&
    !(r.isChord && (r.isRemoval || later.any (Rule.removes look r.pattern)))

/-- The rules of a list that compete for a binding on its own. -/
def competitors (look : Lookup) (a : Binding) : List Rule → List Rule
  | [] => []
  | r :: later =>
    if r.competes look a later then r :: competitors look a later else competitors look a later

/-- What a list of rules says about a binding on its own. The last competing rule decides: a chord
opens chord mode, and so does a rule that waits if any chord competes. -/
def lastFirst (look : Lookup) (a : Binding) (rules : List Rule) : Option Resolution :=
  let competing := competitors look a rules
  competing.getLast?.map fun w =>
    if w.isChord || (w.waits && competing.any Rule.isChord) then .enterChord else w.resolution

/-- What a list of rules says about a chord. The last rule for it that applies decides. -/
def lastSecond (look : Lookup) (a b : Binding) (rules : List Rule) : Option Resolution :=
  (rules.filter fun r => r.applies look && some r.pattern == a.chordWith? b).getLast?.map
    Rule.resolution

/-! ## Parts and patterns -/

theorem Rule.firstPart_eq {r : Rule} {a : Binding} : r.firstPart = a.encode ↔ r.pattern.first = a :=
  Binding.encode_inj

/-- A rule has the encodings of two bindings for its parts exactly when it is for their chord. -/
theorem Rule.parts_eq_iff {r : Rule} {a b : Binding} :
    r.firstPart = a.encode ∧ r.secondPart? = some b.encode ↔ some r.pattern = a.chordWith? b := by
  rw [Rule.firstPart_eq]
  cases hp : r.pattern with
  | single c => cases a <;> cases b <;> simp [secondPart?, hp, Pattern.second?, Binding.chordWith?]
  | chord s t =>
    have second : t.encode = b.encode ↔ .stroke t = b := Binding.encode_inj (b := .stroke t)
    simp only [secondPart?, hp, Pattern.second?, Pattern.first, Option.map_some, Option.some.injEq,
      second]
    cases a <;> cases b <;> simp [Binding.chordWith?]

/-- Among rules that begin alike, the second part tells whether a rule removes a chord. -/
theorem Rule.removes_iff {look : Lookup} {a : Binding} {r u : Rule} {part : String}
    (first : r.pattern.first = a) (second : r.secondPart? = some part) :
    u.removes look r.pattern ↔ u.firstPart = a.encode ∧ u.applies look ∧ u.isRemoval ∧
      u.secondPart? = some part := by
  cases hp : r.pattern with
  | single c => simp [secondPart?, hp, Pattern.second?] at second
  | chord s t =>
    obtain rfl : .stroke s = a := by simpa [hp, Pattern.first] using first
    obtain rfl : t.encode = part := by simpa [secondPart?, hp, Pattern.second?] using second
    have same := Rule.parts_eq_iff (r := u) (a := .stroke s) (b := .stroke t)
    simp only [Binding.chordWith?, Option.some.injEq, Binding.encode] at same
    simp only [removes, Bool.and_eq_true, beq_iff_eq, ← same, Binding.encode]
    tauto

/-! ## Scanning and competing -/

namespace RuleTable

variable {look : Lookup}

/-- In a scan of the rules that begin with a binding, the rules that stand are those that
compete. -/
theorem stands_eq_competes {a : Binding} {r : Rule} (later : List Rule)
    (first : r.pattern.first = a) :
    r.stands look (takenAway look (later.filter (·.firstPart == a.encode)).reverse) =
      r.competes look a later := by
  cases part : r.secondPart? with
  | none =>
    have single : r.isChord = false := by simp [Rule.isChord_eq, part]
    simp [Rule.stands, Rule.competes, part, first, single]
  | some p =>
    have chord : r.isChord = true := by simp [Rule.isChord_eq, part]
    have taken : (takenAway look (later.filter (·.firstPart == a.encode)).reverse).contains p =
        later.any (Rule.removes look r.pattern) := by
      rw [Bool.eq_iff_iff, List.contains_iff_mem, mem_takenAway, List.any_eq_true]
      simp only [Rule.removes_iff first part, List.mem_reverse, List.mem_filter, beq_iff_eq,
        and_assoc]
    simp only [Rule.stands, Rule.competes, part, first, chord, Option.all_some, taken,
      beq_self_eq_true, Bool.and_true, Bool.true_and, Bool.not_or]

/-- The scan of a bucket finds the competing rules, from the last to the first. -/
theorem live_eq_competitors (a : Binding) (rules : List Rule) :
    live look (rules.filter (·.firstPart == a.encode)).reverse =
      (competitors look a rules).reverse := by
  induction rules with
  | nil => rfl
  | cons r later ih =>
    rw [List.filter_cons, competitors]
    -- `r` is scanned after all of `later`, with exactly their removals in force
    by_cases first : r.pattern.first = a
    · rw [if_pos (by simpa [Rule.firstPart_eq] using first), List.reverse_cons, live,
        liveFrom_append, ← live, ih, List.append_nil, liveFrom_cons,
        stands_eq_competes later first]
      split <;> simp [liveFrom]
    · have notFirst : ¬(r.firstPart == a.encode) = true := by simpa [Rule.firstPart_eq] using first
      have absent : r.competes look a later = false := by simp [Rule.competes, first]
      rw [if_neg notFirst, ih, absent]
      rfl

theorem verdict_reverse (competing : List Rule) :
    verdict competing.reverse = competing.getLast?.map fun w =>
      if w.isChord || (w.waits && competing.any Rule.isChord) then .enterChord
      else w.resolution := by
  rw [← List.head?_reverse, ← List.any_reverse]
  cases competing.reverse with
  | nil => rfl
  | cons r rs =>
    simp only [verdict, List.head?_cons, Option.map_some]
    split <;> rfl

theorem resolveFirst_lastFirst (t : RuleTable) (a : Binding) :
    t.resolveFirst look a.encode = lastFirst look a t.rules.toList := by
  rw [resolveFirst_eq, live_eq_competitors, verdict_reverse]
  rfl

theorem resolveSecond_lastSecond (t : RuleTable) (a b : Binding) :
    t.resolveSecond look a.encode b.encode = lastSecond look a b t.rules.toList := by
  have same (r : Rule) :
      (r.firstPart == a.encode && (r.secondPart? == some b.encode && r.applies look)) =
        (r.applies look && some r.pattern == a.chordWith? b) := by
    rw [Bool.eq_iff_iff]
    simp only [Bool.and_eq_true, beq_iff_eq, ← Rule.parts_eq_iff]
    tauto
  rw [resolveSecond_eq, lastSecond]
  simp only [same]

/-- Looking a binding up in a table, however its rules were added, is a search for the last rule in
the list of rules: of those for the chord after a first key, and of those that compete otherwise. -/
theorem resolve_lastWins (base more : List Rule) (look : Lookup) :
    (∀ a b : Binding, (more.foldl add (ofRules base)).resolve look (some a.encode) b.encode =
      lastSecond look a b (base ++ more)) ∧
    ∀ a : Binding, (more.foldl add (ofRules base)).resolve look none a.encode =
      lastFirst look a (base ++ more) := by
  have rules : (more.foldl add (ofRules base)).rules.toList = base ++ more := by
    rw [toList_foldl_add, toList_ofRules]
  rw [← rules]
  exact ⟨resolveSecond_lastSecond _, resolveFirst_lastFirst _⟩

end RuleTable

end Shortcuts
