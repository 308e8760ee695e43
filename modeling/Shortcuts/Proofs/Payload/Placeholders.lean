import Shortcuts.Arguments
import Shortcuts.Proofs.Payload.Places
/-!
# Placeholders of a template

A payload is a template if the text at one of its places is a placeholder (`isTemplate_iff`).  Only
values count: the names of fields are no places.
-/

namespace Shortcuts.Payload

theorem placeholder?_eq_some_iff {s : String} {i : Nat} :
    placeholder? s = some i ↔ ∃ digits, s = "$\x7b" ++ digits ++ "\x7d" ∧
      Decimal.natural? Decimal.wordMax digits.toList = some i := by
  constructor
  · intro found
    unfold placeholder? at found
    split at found
    next rest opens =>
      split at found
      next digits closes =>
        refine ⟨String.ofList digits.reverse, ?_, by simpa using found⟩
        have written : rest = digits.reverse ++ ['\x7d'] := by
          simpa using congrArg List.reverse closes
        rw [← String.toList_inj, opens, written]
        simp
      next => cases found
    next => cases found
  · rintro ⟨digits, rfl, number⟩
    simpa [placeholder?] using number

/-- The text at a place stands for an argument: a number in braces after a dollar sign, and nothing
else. -/
def PlaceholderAt (p : Payload) (place : Place) (i : Nat) : Prop :=
  ∃ digits, p.at? place = some (text ("$\x7b" ++ digits ++ "\x7d")) ∧
    Decimal.natural? Decimal.wordMax digits.toList = some i

theorem placeholderAt_iff {p : Payload} {place : Place} {i : Nat} :
    p.PlaceholderAt place i ↔ ∃ s, p.at? place = some (text s) ∧ placeholder? s = some i := by
  constructor
  · rintro ⟨digits, found, number⟩
    exact ⟨_, found, placeholder?_eq_some_iff.mpr ⟨digits, rfl, number⟩⟩
  · rintro ⟨s, found, stands⟩
    obtain ⟨digits, rfl, number⟩ := placeholder?_eq_some_iff.mp stands
    exact ⟨digits, found, number⟩

theorem placeholderAt_cons {p : Payload} {s : Step} {place : Place} {i : Nat} :
    p.PlaceholderAt (s :: place) i ↔
      ∃ q, p.child? s = some q ∧ q.PlaceholderAt place i := by
  simp only [PlaceholderAt, at?, Option.bind_eq_some_iff]
  constructor
  · rintro ⟨digits, ⟨q, child, found⟩, number⟩
    exact ⟨q, child, digits, found, number⟩
  · rintro ⟨q, child, digits, found, number⟩
    exact ⟨digits, ⟨q, child, found⟩, number⟩

theorem placeholderAt_nil {p : Payload} {i : Nat} :
    p.PlaceholderAt [] i ↔ ∃ s, p = text s ∧ placeholder? s = some i := by
  simp [placeholderAt_iff, at?]

theorem placeholderAt_text {s : String} {place : Place} {i : Nat} :
    (text s).PlaceholderAt place i ↔ place = [] ∧ placeholder? s = some i := by
  cases place with
  | nil => simp [placeholderAt_nil]
  | cons step place => simp [placeholderAt_cons, child?]

theorem placeholderAt_iff_child {p : Payload} (noText : ∀ s, p ≠ text s) {place : Place} {i : Nat} :
    p.PlaceholderAt place i ↔
      ∃ s q rest, place = s :: rest ∧ p.child? s = some q ∧ q.PlaceholderAt rest i := by
  cases place with
  | nil => simp [placeholderAt_nil, noText]
  | cons s place =>
    rw [placeholderAt_cons]
    constructor
    · rintro ⟨q, child, stands⟩
      exact ⟨s, q, place, rfl, child, stands⟩
    · rintro ⟨_, q, _, same, child, stands⟩
      obtain ⟨rfl, rfl⟩ := List.cons.inj same
      exact ⟨q, child, stands⟩

theorem anyTemplate_eq (items : List Payload) : anyTemplate items = items.any isTemplate := by
  induction items with
  | nil => rfl
  | cons p items ih => rw [anyTemplate, List.any_cons, ih]

theorem anyTemplateField_eq (fields : List (String × Payload)) :
    anyTemplateField fields = fields.any (·.2.isTemplate) := by
  induction fields with
  | nil => rfl
  | cons f fields ih => rw [anyTemplateField, List.any_cons, ih]

theorem isTemplate_iff_child {p : Payload}
    (ascending : ∀ fields, p = record fields → IsAscending fields) (noText : ∀ s, p ≠ text s) :
    p.isTemplate ↔ ∃ s q, p.child? s = some q ∧ q.isTemplate := by
  cases p with
  | text s => exact absurd rfl (noText s)
  | list items =>
    simp only [isTemplate, anyTemplate_eq, List.any_eq_true]
    constructor
    · rintro ⟨q, member, template⟩
      obtain ⟨i, found⟩ := List.mem_iff_getElem?.mp member
      exact ⟨.item i, q, found, template⟩
    · rintro ⟨s, q, child, template⟩
      cases s with
      | item i => exact ⟨q, List.mem_of_getElem? child, template⟩
      | field name => cases child
  | record fields =>
    simp only [isTemplate, anyTemplateField_eq, List.any_eq_true]
    constructor
    · rintro ⟨f, member, template⟩
      exact ⟨.field f.1, f.2, lookup_of_mem (ascending fields rfl) member, template⟩
    · rintro ⟨s, q, child, template⟩
      cases s with
      | item i => cases child
      | field name => exact ⟨(name, q), mem_of_lookup child, template⟩
  | _ => simp [isTemplate, child?]

theorem isTemplate_iff {p : Payload} (ordered : p.Ordered) :
    p.isTemplate ↔ ∃ place i, p.PlaceholderAt place i := by
  induction p using induction_on_texts with
  | text s => simp [isTemplate, Option.isSome_iff_exists, placeholderAt_text]
  | other p noText ih =>
    rw [isTemplate_iff_child (fun _ => ordered.ascending) noText]
    constructor
    · rintro ⟨s, q, child, template⟩
      obtain ⟨place, i, stands⟩ := (ih s q child (ordered.child child)).mp template
      exact ⟨s :: place, i, placeholderAt_cons.mpr ⟨q, child, stands⟩⟩
    · rintro ⟨place, i, stands⟩
      obtain ⟨s, q, rest, -, child, stands⟩ := (placeholderAt_iff_child noText).mp stands
      exact ⟨s, q, child, (ih s q child (ordered.child child)).mpr ⟨rest, i, stands⟩⟩

end Shortcuts.Payload
