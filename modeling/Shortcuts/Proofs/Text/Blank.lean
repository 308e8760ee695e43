import Shortcuts.Proofs.Text.Lowercase
import Shortcuts.Text.Blank
/-!
# Blanks one by one

The blank characters are given by the ends of their runs.  They are few, so a property of all of
them can be checked by going through the list (`of_isBlank`).  In particular case has nothing to do
with blanks: a blank has no other lowercase, and nothing else has a blank for its lowercase.
-/

namespace Shortcuts.Text

/-- The members of a set that is given by the ends of its runs. -/
def points : List Nat → List Nat
  | first :: last :: ends => List.range' first (last - first) ++ points ends
  | _ => []

/-- If the last run is closed, every member is among the points. -/
theorem mem_points {ends : List Nat} {n : Nat} (closed : ends.length % 2 = 0)
    (member : inRuns ends n = true) : n ∈ points ends := by
  induction ends using points.induct with
  | case1 first last ends ih =>
    simp only [List.length_cons] at closed
    rw [points, List.mem_append, List.mem_range'_1]
    by_cases below : n < first
    · rw [inRuns_of_lt below] at member
      cases member
    · rw [inRuns_of_le (Nat.le_of_not_lt below)] at member
      by_cases within : n < last
      · exact .inl (by omega)
      · rw [inRuns_of_le (Nat.le_of_not_lt within), Bool.not_not] at member
        exact .inr (ih (by omega) member)
  | case2 ends short =>
    match ends with
    | [] => cases member
    | [last] => simp at closed
    | first :: last :: ends => exact absurd rfl (short first last ends)

/-- What holds of each blank on the list holds of every blank. -/
theorem of_isBlank (p : Char → Prop) (each : ∀ n ∈ points blankEnds, p (Char.ofNat n)) {c : Char}
    (blank : isBlank c = true) : p c := by
  have holds := each c.toNat (mem_points (by decide) blank)
  rwa [Char.ofNat_toNat] at holds

/-! ## Blanks and case -/

theorem lower_of_isBlank {c : Char} (blank : isBlank c = true) : lower c = [c] :=
  of_isBlank (fun c => lower c = [c]) (by decide +kernel) blank

theorem bits_blanks : bits (points blankEnds) &&& bits (images lowercaseRuns) = 0 := by
  decide +kernel

theorem isBlank_of_firstLower {c : Char} (blank : isBlank (firstLower c) = true) :
    isBlank c = true := by
  rcases firstLower_cases c with dotted | ⟨-, -, same⟩ | image
  · rw [dotted] at blank
    exact absurd blank (by decide)
  · rwa [same] at blank
  · exact absurd (mem_points (by decide) blank) (not_mem_of_bits bits_blanks image)

theorem isBlank_of_mem_lower {c d : Char} (member : d ∈ lower c) (blank : isBlank d = true) :
    isBlank c = true := by
  by_cases dotted : c.toNat = 0x130
  · -- the two characters of this lowercase are no blanks
    rw [lower, if_pos dotted, List.mem_cons, List.mem_singleton] at member
    rcases member with rfl | rfl
    · exact absurd blank (by decide)
    · exact absurd blank (by decide)
  · rw [lower_eq_of_ne dotted, List.mem_singleton] at member
    exact isBlank_of_firstLower (member ▸ blank)

end Shortcuts.Text
