/-!
# Computations that may fail

How a computation in `Except` can have ended, read off its parts.  A traversal of a list succeeds
with the results of all elements (`mapM_eq_ok_iff`), or fails like the first element that fails
(`mapM_eq_error_iff`).
-/

namespace Shortcuts

variable {α β ε : Type} {e : ε}

theorem map_eq_ok_iff {f : α → β} {r : Except ε α} {b : β} :
    f <$> r = .ok b ↔ ∃ a, r = .ok a ∧ f a = b := by
  cases r with
  | error e => simp [Functor.map, Except.map]
  | ok a => simp [Functor.map, Except.map]

theorem map_eq_error_iff {f : α → β} {r : Except ε α} : f <$> r = .error e ↔ r = .error e := by
  cases r with
  | error e => simp [Functor.map, Except.map]
  | ok a => simp [Functor.map, Except.map]

theorem bind_eq_ok_iff {r : Except ε α} {f : α → Except ε β} {b : β} :
    r >>= f = .ok b ↔ ∃ a, r = .ok a ∧ f a = .ok b := by
  cases r with
  | error e => simp [bind, Except.bind]
  | ok a => simp [bind, Except.bind]

theorem bind_eq_error_iff {r : Except ε α} {f : α → Except ε β} :
    r >>= f = .error e ↔ r = .error e ∨ ∃ a, r = .ok a ∧ f a = .error e := by
  cases r with
  | error e => simp [bind, Except.bind]
  | ok a => simp [bind, Except.bind]

section Traversal

variable {f : α → Except ε β}

theorem mapM_eq_ok_iff {l : List α} {out : List β} :
    l.mapM f = .ok out ↔ l.map f = out.map .ok := by
  induction l generalizing out with
  | nil => cases out <;> simp [pure, Except.pure]
  | cons x l ih =>
    simp only [List.mapM_cons, bind_eq_ok_iff, ih, pure, Except.pure, Except.ok.injEq]
    cases out with
    | nil => simp
    | cons y out => simp

/-- Elements and their results in pairs. -/
theorem exists_pairs_of_map_eq {l : List α} {out : List β} (results : l.map f = out.map .ok) :
    ∃ pairs : List (α × β), l = pairs.map Prod.fst ∧ out = pairs.map Prod.snd ∧
      ∀ p ∈ pairs, f p.1 = .ok p.2 := by
  induction l generalizing out with
  | nil =>
    cases out with
    | nil => exact ⟨[], rfl, rfl, List.forall_mem_nil _⟩
    | cons y out => cases results
  | cons x l ih =>
    cases out with
    | nil => cases results
    | cons y out =>
      obtain ⟨first, rest⟩ := List.cons.inj results
      obtain ⟨pairs, rfl, rfl, each⟩ := ih rest
      exact ⟨(x, y) :: pairs, rfl, rfl, List.forall_mem_cons.mpr ⟨first, each⟩⟩

theorem mapM_eq_error_iff {l : List α} :
    l.mapM f = .error e ↔ ∃ before x after, l = before ++ x :: after ∧
      (∀ y ∈ before, ∃ z, f y = .ok z) ∧ f x = .error e := by
  induction l with
  | nil => simp [pure, Except.pure]
  | cons x l ih =>
    have noError {y : β} {ys : List β} : (pure (y :: ys) : Except ε (List β)) ≠ .error e := nofun
    simp only [List.mapM_cons, bind_eq_error_iff, ih, noError, and_false, exists_false, or_false]
    constructor
    · rintro (fails | ⟨y, succeeds, before, z, after, rfl, earlier, fails⟩)
      · exact ⟨[], x, l, rfl, by simp, fails⟩
      · refine ⟨x :: before, z, after, rfl, ?_, fails⟩
        intro w member
        rcases List.mem_cons.mp member with rfl | member
        · exact ⟨y, succeeds⟩
        · exact earlier w member
    · rintro ⟨before, z, after, split, earlier, fails⟩
      cases before with
      | nil =>
        obtain ⟨rfl, rfl⟩ := List.cons.inj split
        exact .inl fails
      | cons w before =>
        obtain ⟨rfl, rfl⟩ := List.cons.inj split
        obtain ⟨y, succeeds⟩ := earlier x List.mem_cons_self
        exact .inr ⟨y, succeeds, before, z, after, rfl,
          fun v member => earlier v (List.mem_cons_of_mem x member), fails⟩

end Traversal

end Shortcuts
