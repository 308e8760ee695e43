/-!
# Sets of code points

A large set of code points is written by the ends of its runs. `inRuns` decides membership by one
walk over the ends; what it says on an ascending list is that membership changes at each of them.
-/

namespace Shortcuts.Text

/-- Whether `n` lies in one of the runs whose ends are listed in ascending order: membership
starts out false and changes at every end. -/
def inRuns : List Nat → Nat → Bool
  | [], _ => false
  | e :: ends, n => if n < e then false else !inRuns ends n

/-- Nothing before the first end belongs to the set. -/
theorem inRuns_of_lt {e n : Nat} {ends : List Nat} (h : n < e) : inRuns (e :: ends) n = false := by
  simp [inRuns, h]

/-- From the first end on, membership is the opposite of that in the remaining runs. -/
theorem inRuns_of_le {e n : Nat} {ends : List Nat} (h : e ≤ n) :
    inRuns (e :: ends) n = !inRuns ends n := by
  simp [inRuns, Nat.not_lt.mpr h]

end Shortcuts.Text
