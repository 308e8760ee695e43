/-!
# Walks along a list

A walk reads the items of a list through a cursor, which it may move past the end of the list.  It
may fail, and then the cursor stays where it was; and it may be given up, and then it has no result.
A function that calls itself without a reason why it ends is a family of walks, one for every number
of calls inside one another: the walk is given up where one call more were needed.  That the function
ends is then a statement about the family, `Walk.Ends`: from some number of calls on there is a
result, always the same.
-/

namespace Shortcuts

/-- A computation with a cursor on a list of items. -/
abbrev Walk (τ ε α : Type) := ReaderT (List τ) (ExceptT ε (StateT Nat Option)) α

namespace Walk

variable {τ ε α β : Type}

/-- The outcome of a walk from a place, and the last place; there is none if the walk is given up. -/
def run (w : Walk τ ε α) (items : List τ) (pos : Nat) : Option (Except ε α × Nat) :=
  StateT.run (ExceptT.run (ReaderT.run w items)) pos

def giveUp : Walk τ ε α := fun _ _ => none

/-- The item at the cursor, if it is not past the end. -/
def peek : Walk τ ε (Option τ) := do return (← read)[← get]?

/-- The item next to the one at the cursor. -/
def peekNext : Walk τ ε (Option τ) := do return (← read)[(← get) + 1]?

/-- All items behind the one at the cursor. -/
def behind : Walk τ ε (List τ) := do return (← read).drop ((← get) + 1)

/-- Move the cursor, past the end as well. -/
def skip (n : Nat) : Walk τ ε Unit := modify (· + n)

/-- The item at the cursor, which is moved behind it. -/
def advance : Walk τ ε (Option τ) := do
  let item ← peek
  skip 1
  return item

theorem run_bind (w : Walk τ ε α) (f : α → Walk τ ε β) (items : List τ) (pos : Nat) :
    (w >>= f).run items pos = (w.run items pos).bind fun x =>
      match x.1 with
      | .ok a => (f a).run items x.2
      | .error e => some (.error e, x.2) := by
  simp only [run, ReaderT.run_bind, ExceptT.run_bind, StateT.run_bind]
  show Option.bind _ _ = _
  congr 1
  funext x
  rcases x with ⟨_ | _, pos⟩ <;> rfl

/-- From a place, all walks that allow a given number of calls inside one another, or more, come to
the same end, and its outcome and its last place are as told. -/
def Ends (w : Nat → Walk τ ε α) (calls : Nat) (items : List τ) (pos : Nat)
    (post : Except ε α → Nat → Prop) : Prop :=
  ∃ outcome last, (∀ n, calls ≤ n → (w n).run items pos = some (outcome, last)) ∧ post outcome last

section

variable {w : Nat → Walk τ ε α} {calls : Nat} {items : List τ} {pos : Nat}

theorem Ends.pure {post : Except ε α → Nat → Prop} {a : α} (holds : post (.ok a) pos) :
    Ends (fun _ => pure a) calls items pos post := ⟨_, _, fun _ _ => rfl, holds⟩

theorem Ends.throw {post : Except ε α → Nat → Prop} {e : ε} (holds : post (.error e) pos) :
    Ends (fun _ => throw e) calls items pos post := ⟨_, _, fun _ _ => rfl, holds⟩

/-- More calls may be allowed than are needed. -/
theorem Ends.more {fewer : Nat} {post : Except ε α → Nat → Prop}
    (ends : Ends w fewer items pos post) (le : fewer ≤ calls) : Ends w calls items pos post := by
  obtain ⟨outcome, last, runs, holds⟩ := ends
  exact ⟨outcome, last, fun n enough => runs n (Nat.le_trans le enough), holds⟩

/-- The call itself is one of the calls. -/
theorem Ends.call {post : Except ε α → Nat → Prop}
    (body : Ends (fun n => w (n + 1)) calls items pos post) : Ends w (calls + 1) items pos post := by
  obtain ⟨outcome, last, runs, holds⟩ := body
  refine ⟨outcome, last, fun n enough => ?_, holds⟩
  obtain ⟨m, rfl⟩ : ∃ m, n = m + 1 := ⟨n - 1, by omega⟩
  exact runs m (Nat.le_of_succ_le_succ enough)

theorem Ends.bind {f : Nat → α → Walk τ ε β} {post : Except ε α → Nat → Prop}
    {post' : Except ε β → Nat → Prop} (first : Ends w calls items pos post)
    (fails : ∀ e last, post (.error e) last → post' (.error e) last)
    (goesOn : ∀ a last, post (.ok a) last → Ends (fun n => f n a) calls items last post') :
    Ends (fun n => w n >>= f n) calls items pos post' := by
  obtain ⟨outcome, last, runs, holds⟩ := first
  cases outcome with
  | error e =>
    refine ⟨_, last, fun n enough => ?_, fails e last holds⟩
    rw [run_bind, runs n enough]
    rfl
  | ok a =>
    obtain ⟨outcome, last', runs', holds'⟩ := goesOn a last holds
    refine ⟨outcome, last', fun n enough => ?_, holds'⟩
    rw [run_bind, runs n enough]
    exact runs' n enough

end

section

variable {calls : Nat} {items : List τ} {pos : Nat} {post : Except ε β → Nat → Prop}

theorem ends_peek_bind {f : Nat → Option τ → Walk τ ε β} :
    Ends (fun n => peek >>= f n) calls items pos post ↔
      Ends (fun n => f n items[pos]?) calls items pos post := Iff.rfl

theorem ends_peekNext_bind {f : Nat → Option τ → Walk τ ε β} :
    Ends (fun n => peekNext >>= f n) calls items pos post ↔
      Ends (fun n => f n items[pos + 1]?) calls items pos post := Iff.rfl

theorem ends_behind_bind {f : Nat → List τ → Walk τ ε β} :
    Ends (fun n => behind >>= f n) calls items pos post ↔
      Ends (fun n => f n (items.drop (pos + 1))) calls items pos post := Iff.rfl

theorem ends_skip_bind {k : Nat} {f : Nat → Unit → Walk τ ε β} :
    Ends (fun n => skip k >>= f n) calls items pos post ↔
      Ends (fun n => f n ()) calls items (pos + k) post := Iff.rfl

theorem ends_advance_bind {f : Nat → Option τ → Walk τ ε β} :
    Ends (fun n => advance >>= f n) calls items pos post ↔
      Ends (fun n => f n items[pos]?) calls items (pos + 1) post := Iff.rfl

end

/-! ## What is left from a place on -/

section

variable {items : List τ} {pos : Nat}

theorem drop_of_getElem?_eq_some {t : τ} (here : items[pos]? = some t) :
    pos < items.length ∧ items.drop pos = t :: items.drop (pos + 1) := by
  obtain ⟨below, rfl⟩ := List.getElem?_eq_some_iff.mp here
  exact ⟨below, List.drop_eq_getElem_cons below⟩

theorem drop_of_getElem?_eq_none (here : items[pos]? = none) :
    items.length ≤ pos ∧ items.drop pos = [] :=
  have past := List.getElem?_eq_none_iff.mp here
  ⟨past, List.drop_eq_nil_of_le past⟩

theorem drop_ne_cons {t : τ} (here : items[pos]? ≠ some t) (rest : List τ) :
    items.drop pos ≠ t :: rest := by
  intro same
  rw [← List.head?_drop, same] at here
  exact here rfl

end

end Walk

end Shortcuts
