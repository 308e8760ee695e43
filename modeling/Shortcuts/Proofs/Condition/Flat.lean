import Shortcuts.Condition.Printer
/-!
# Flat conditions

The printer writes no parentheses around a conjunction inside a conjunction, nor around a disjunction
inside a disjunction, so their texts do not show the nesting.  `flat` splices the inner ones and
changes nothing else: the flat condition holds in the same contexts (`holds_flat`).

What is said of both ways of combining conditions is said once, of a `Connective`.
-/

namespace Shortcuts.Condition

/-- The conditions that a conjunction combines.  Any other condition stands alone. -/
def conjuncts : Condition → List Condition
  | all cs => cs
  | c => [c]

/-- The conditions that a disjunction combines.  Any other condition stands alone. -/
def disjuncts : Condition → List Condition
  | any cs => cs
  | c => [c]

mutual
def flat : Condition → Condition
  | always => always
  | never => never
  | has key => has key
  | compare key op value => compare key op value
  | not c => not c.flat
  | all cs => all (flatAll cs)
  | any cs => any (flatAny cs)

def flatAll : List Condition → List Condition
  | [] => []
  | c :: cs => c.flat.conjuncts ++ flatAll cs

def flatAny : List Condition → List Condition
  | [] => []
  | c :: cs => c.flat.disjuncts ++ flatAny cs
end

/-! ## Meaning -/

theorem holdsAll_conjuncts (look : Lookup) (c : Condition) :
    holdsAll look c.conjuncts = c.holds look := by
  cases c <;> simp [conjuncts, holds, holdsAll]

theorem holdsAny_disjuncts (look : Lookup) (c : Condition) :
    holdsAny look c.disjuncts = c.holds look := by
  cases c <;> simp [disjuncts, holds, holdsAny]

theorem holdsAll_append (look : Lookup) (cs ds : List Condition) :
    holdsAll look (cs ++ ds) = (holdsAll look cs && holdsAll look ds) := by
  simp only [holdsAll_eq, List.all_append]

theorem holdsAny_append (look : Lookup) (cs ds : List Condition) :
    holdsAny look (cs ++ ds) = (holdsAny look cs || holdsAny look ds) := by
  simp only [holdsAny_eq, List.any_append]

mutual
theorem holds_flat (look : Lookup) : (c : Condition) → c.flat.holds look = c.holds look
  | always | never | has _ | compare _ _ _ => by rw [flat]
  | not c => by rw [flat, holds, holds, holds_flat look c]
  | all cs => by rw [flat, holds, holds, holdsAll_flatAll look cs]
  | any cs => by rw [flat, holds, holds, holdsAny_flatAny look cs]

theorem holdsAll_flatAll (look : Lookup) :
    (cs : List Condition) → holdsAll look (flatAll cs) = holdsAll look cs
  | [] => by rw [flatAll]
  | c :: cs => by
    rw [flatAll, holdsAll_append, holdsAll_conjuncts, holds_flat look c, holdsAll_flatAll look cs,
      holdsAll]

theorem holdsAny_flatAny (look : Lookup) :
    (cs : List Condition) → holdsAny look (flatAny cs) = holdsAny look cs
  | [] => by rw [flatAny]
  | c :: cs => by
    rw [flatAny, holdsAny_append, holdsAny_disjuncts, holds_flat look c, holdsAny_flatAny look cs,
      holdsAny]
end

/-! ## Connectives -/

inductive Connective
  | and
  | or

namespace Connective

def combine : Connective → List Condition → Condition
  | and => all
  | or => any

/-- The conditions that a condition combines by a connective. -/
def parts : Connective → Condition → List Condition
  | and => conjuncts
  | or => disjuncts

def text : Connective → String
  | and => " && "
  | or => " || "

/-- The text of a condition among those that a connective combines. -/
def partText : Connective → Condition → String
  | and, c => if c.wrapsInAll then parenthesized c.text else c.text
  | or, c => c.text

theorem parts_combine (k : Connective) (cs : List Condition) : k.parts (k.combine cs) = cs := by
  cases k <;> rfl

/-- A condition is a combination or stands alone. -/
theorem eq_combine_or_parts_eq (k : Connective) (c : Condition) :
    (∃ cs, c = k.combine cs) ∨ k.parts c = [c] := by
  cases k with
  | and =>
    cases c with
    | all cs => exact .inl ⟨cs, rfl⟩
    | _ => exact .inr rfl
  | or =>
    cases c with
    | any cs => exact .inl ⟨cs, rfl⟩
    | _ => exact .inr rfl

theorem flat_combine (k : Connective) (cs : List Condition) :
    (k.combine cs).flat = k.combine (cs.flatMap fun c => k.parts c.flat) := by
  cases k with
  | and =>
    have spliced : flatAll cs = cs.flatMap fun c => c.flat.conjuncts := by
      induction cs with
      | nil => rfl
      | cons c cs ih => rw [flatAll, List.flatMap_cons, ih]
    exact congrArg all spliced
  | or =>
    have spliced : flatAny cs = cs.flatMap fun c => c.flat.disjuncts := by
      induction cs with
      | nil => rfl
      | cons c cs ih => rw [flatAny, List.flatMap_cons, ih]
    exact congrArg any spliced

theorem text_combine (k : Connective) (cs : List Condition) :
    (k.combine cs).text = k.text.intercalate (cs.map k.partText) := by
  cases k with
  | and =>
    have texts : allTexts cs = cs.map and.partText := by
      induction cs with
      | nil => rfl
      | cons c cs ih => rw [allTexts, List.map_cons, ih]; rfl
    exact congrArg (String.intercalate " && ") texts
  | or =>
    have texts : anyTexts cs = cs.map or.partText := by
      induction cs with
      | nil => rfl
      | cons c cs ih => rw [anyTexts, List.map_cons, ih]; rfl
    exact congrArg (String.intercalate " || ") texts

/-- A combination is written without parentheses among others of its own kind. -/
theorem partText_combine (k : Connective) (cs : List Condition) :
    k.partText (k.combine cs) = (k.combine cs).text := by
  cases k <;> rfl

theorem intercalate_parts (k : Connective) (c : Condition) :
    k.text.intercalate ((k.parts c).map k.partText) = k.partText c := by
  obtain ⟨cs, rfl⟩ | alone := k.eq_combine_or_parts_eq c
  · rw [parts_combine, partText_combine, text_combine]
  · rw [alone, List.map_singleton, String.intercalate_singleton]

theorem wrapsInAll_flat (c : Condition) : c.flat.wrapsInAll = c.wrapsInAll := by
  cases c <;> rfl

theorem partText_flat (k : Connective) {c : Condition} (text : c.flat.text = c.text) :
    k.partText c.flat = k.partText c := by
  cases k with
  | and => rw [partText, partText, wrapsInAll_flat, text]
  | or => exact text

end Connective

end Shortcuts.Condition
