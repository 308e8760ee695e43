import Shortcuts.Proofs.Condition.Flat
/-!
# Well-formed conditions

A text can only hold what the grammar has: names are words, and a list under a connective has more
than one member.  `Formed` says this of a condition, and what else is to hold of the values that it
compares to.  In a well-formed condition splicing does not show in the text (`Formed.text_flat`).
-/

namespace Shortcuts.Condition

/-! ## Lists of lists that are not empty -/

theorem length_le_flatMap {α β : Type} {xs : List α} {f : α → List β}
    (nonempty : ∀ x ∈ xs, f x ≠ []) : xs.length ≤ (xs.flatMap f).length := by
  induction xs with
  | nil => exact Nat.zero_le _
  | cons x xs ih =>
    obtain ⟨first, nonempty⟩ := List.forall_mem_cons.mp nonempty
    have one := List.length_pos_iff.mpr first
    have more := ih nonempty
    rw [List.flatMap_cons, List.length_append, List.length_cons]
    omega

theorem intercalate_flatMap {α : Type} {separator : String} {xs : List α} {f : α → List String}
    (nonempty : ∀ x ∈ xs, f x ≠ []) :
    separator.intercalate (xs.flatMap f) =
      separator.intercalate (xs.map fun x => separator.intercalate (f x)) := by
  induction xs with
  | nil => rfl
  | cons x xs ih =>
    obtain ⟨first, nonempty⟩ := List.forall_mem_cons.mp nonempty
    cases xs with
    | nil => simp
    | cons y xs =>
      have more : (y :: xs).flatMap f ≠ [] := by simp [nonempty y List.mem_cons_self]
      rw [List.flatMap_cons, String.intercalate_append_of_ne_nil first more, ih nonempty]
      exact String.intercalate_cons_cons.symm

/-! ## Names and values -/

/-- A key that is a word, and not one of the two words that stand for constants. -/
structure IsName (key : String) : Prop where
  nonempty : key.toList ≠ []
  inWord : ∀ c ∈ key.toList, isWordChar c = true
  notTrue : key ≠ "true"
  notFalse : key ≠ "false"

instance (key : String) : Decidable (IsName key) :=
  decidable_of_iff (key.toList ≠ [] ∧ key.toList.all isWordChar = true ∧
    key ≠ "true" ∧ key ≠ "false") <| by
    rw [List.all_eq_true]
    exact ⟨fun ⟨a, b, c, d⟩ => ⟨a, b, c, d⟩, fun ⟨a, b, c, d⟩ => ⟨a, b, c, d⟩⟩

/-- A value that its text gives back, in quotes or as a word. -/
structure IsPlain (value : String) : Prop where
  noQuote : '\'' ∉ value.toList
  inWord : Decimal.isNumeral value.toList = true → ∀ c ∈ value.toList, isWordChar c = true

instance (value : String) : Decidable (IsPlain value) :=
  decidable_of_iff ('\'' ∉ value.toList ∧
    (Decimal.isNumeral value.toList = true → value.toList.all isWordChar = true)) <| by
    rw [List.all_eq_true]
    exact ⟨fun ⟨a, b⟩ => ⟨a, b⟩, fun ⟨a, b⟩ => ⟨a, b⟩⟩

mutual
/-- The values that a condition compares to, in the order of its text. -/
def literals : Condition → List String
  | always | never | has _ => []
  | compare _ _ value => [value]
  | not c => c.literals
  | all cs | any cs => literalsOf cs

def literalsOf : List Condition → List String
  | [] => []
  | c :: cs => c.literals ++ literalsOf cs
end

namespace Connective

theorem literals_combine (k : Connective) (cs : List Condition) :
    (k.combine cs).literals = cs.flatMap literals := by
  have each : literalsOf cs = cs.flatMap literals := by
    induction cs with
    | nil => rfl
    | cons c cs ih => rw [literalsOf, List.flatMap_cons, ih]
  cases k <;> exact each

theorem literals_parts (k : Connective) (c : Condition) :
    (k.parts c).flatMap literals = c.literals := by
  obtain ⟨cs, rfl⟩ | alone := k.eq_combine_or_parts_eq c
  · rw [k.parts_combine, literals_combine]
  · rw [alone, List.flatMap_singleton]

end Connective

/-! ## Well-formed conditions -/

/-- Keys are names, at least two conditions are combined at a time, and all values have a property. -/
inductive Formed (p : String → Prop) : Condition → Prop
  | always : Formed p .always
  | never : Formed p .never
  | has {key : String} : IsName key → Formed p (.has key)
  | compare {key : String} (op : Comparison) {value : String} :
    IsName key → p value → Formed p (.compare key op value)
  | not {c : Condition} : Formed p c → Formed p (.not c)
  | all {cs : List Condition} : 2 ≤ cs.length → (∀ c ∈ cs, Formed p c) → Formed p (.all cs)
  | any {cs : List Condition} : 2 ≤ cs.length → (∀ c ∈ cs, Formed p c) → Formed p (.any cs)

namespace Formed

variable {p : String → Prop}

theorem combine_iff (k : Connective) {cs : List Condition} :
    (k.combine cs).Formed p ↔ 2 ≤ cs.length ∧ ∀ c ∈ cs, c.Formed p := by
  constructor
  · intro formed
    cases k with
    | and =>
      cases formed with
      | all several each => exact ⟨several, each⟩
    | or =>
      cases formed with
      | any several each => exact ⟨several, each⟩
  · rintro ⟨several, each⟩
    cases k with
    | and => exact .all several each
    | or => exact .any several each

theorem pair (k : Connective) {c d : Condition} (first : c.Formed p) (second : d.Formed p) :
    (k.combine [c, d]).Formed p :=
  (combine_iff k).mpr ⟨Nat.le_refl 2, by simp [first, second]⟩

theorem parts (k : Connective) {c : Condition} (formed : c.Formed p) :
    k.parts c ≠ [] ∧ ∀ d ∈ k.parts c, d.Formed p := by
  obtain ⟨cs, rfl⟩ | alone := k.eq_combine_or_parts_eq c
  · rw [k.parts_combine]
    obtain ⟨several, each⟩ := (combine_iff k).mp formed
    exact ⟨List.ne_nil_of_length_pos (by omega), each⟩
  · rw [alone]
    exact ⟨List.cons_ne_nil c [], by simpa using formed⟩

/-- The values of a well-formed condition decide what it is well-formed for. -/
theorem of_literals {q : String → Prop} {c : Condition} (formed : c.Formed p)
    (each : ∀ value ∈ c.literals, q value) : c.Formed q := by
  have of_combine (k : Connective) {cs : List Condition} (several : 2 ≤ cs.length)
      (ih : ∀ c ∈ cs, (∀ value ∈ c.literals, q value) → c.Formed q)
      (each : ∀ value ∈ (k.combine cs).literals, q value) : (k.combine cs).Formed q := by
    rw [k.literals_combine] at each
    refine (combine_iff k).mpr ⟨several, fun c member => ih c member fun value inside => ?_⟩
    exact each value (List.mem_flatMap.mpr ⟨c, member, inside⟩)
  induction formed with
  | always => exact .always
  | never => exact .never
  | has isName => exact .has isName
  | compare op isName _ => exact .compare op isName (each _ List.mem_cons_self)
  | not _ ih => exact .not (ih each)
  | all several _ ih => exact of_combine .and several ih each
  | any several _ ih => exact of_combine .or several ih each

/-! ## Splicing -/

theorem flat_combine (k : Connective) {cs : List Condition} (several : 2 ≤ cs.length)
    (each : ∀ c ∈ cs, c.flat.Formed p) : (k.combine cs).flat.Formed p := by
  rw [k.flat_combine, combine_iff]
  constructor
  · exact Nat.le_trans several (length_le_flatMap fun c member => ((each c member).parts k).1)
  · intro d member
    obtain ⟨c, inList, part⟩ := List.mem_flatMap.mp member
    exact ((each c inList).parts k).2 d part

theorem flat {c : Condition} (formed : c.Formed p) : c.flat.Formed p := by
  induction formed with
  | always => exact .always
  | never => exact .never
  | has isName => exact .has isName
  | compare op isName holds => exact .compare op isName holds
  | not _ ih => exact .not ih
  | all several _ ih => exact flat_combine .and several ih
  | any several _ ih => exact flat_combine .or several ih

theorem literals_flat {c : Condition} (formed : c.Formed p) : c.flat.literals = c.literals := by
  have of_combine (k : Connective) {cs : List Condition}
      (ih : ∀ c ∈ cs, c.flat.literals = c.literals) :
      (k.combine cs).flat.literals = (k.combine cs).literals := by
    have spliced : ∀ c ∈ cs, (k.parts c.flat).flatMap literals = c.literals := by
      intro c member
      rw [k.literals_parts, ih c member]
    rw [k.flat_combine, k.literals_combine, k.literals_combine, List.flatMap_assoc,
      List.flatMap_def, List.flatMap_def, List.map_congr_left spliced]
  induction formed with
  | always | never | has _ | compare _ _ _ => rfl
  | not _ ih => exact ih
  | all _ _ ih => exact of_combine .and ih
  | any _ _ ih => exact of_combine .or ih

/-- Splicing does not show in the text. -/
theorem text_flat {c : Condition} (formed : c.Formed p) : c.flat.text = c.text := by
  have of_combine (k : Connective) {cs : List Condition} (each : ∀ c ∈ cs, c.Formed p)
      (ih : ∀ c ∈ cs, c.flat.text = c.text) :
      (k.combine cs).flat.text = (k.combine cs).text := by
    -- an inner list without members would leave two separators side by side
    have nonempty : ∀ c ∈ cs, (k.parts c.flat).map k.partText ≠ [] := by
      intro c member
      simpa using ((each c member).flat.parts k).1
    have spliced : ∀ c ∈ cs,
        k.text.intercalate ((k.parts c.flat).map k.partText) = k.partText c := by
      intro c member
      rw [k.intercalate_parts, k.partText_flat (ih c member)]
    rw [k.flat_combine, k.text_combine, k.text_combine, List.map_flatMap,
      intercalate_flatMap nonempty, List.map_congr_left spliced]
  induction formed with
  | always | never | has _ | compare _ _ _ => rfl
  | @not c _ ih =>
    have wraps : c.flat.wrapsUnderNot = c.wrapsUnderNot := by cases c <;> rfl
    rw [Condition.flat, text, text, ih, wraps]
  | all _ each ih => exact of_combine .and each ih
  | any _ each ih => exact of_combine .or each ih

end Formed

/-- A condition that is well-formed with plain values. -/
abbrev Printable (c : Condition) : Prop := c.Formed IsPlain

end Shortcuts.Condition
