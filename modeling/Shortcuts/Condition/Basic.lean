import Shortcuts.Context
/-!
# Conditions

A condition decides, for a context, whether a rule applies. `Condition.holds` is its meaning; the
lists under `all` and `any` are read as conjunction and disjunction (`holdsAll_eq`, `holdsAny_eq`).
-/

namespace Shortcuts

inductive Comparison
  | eq
  | ne
  | lt
  | le
  | gt
  | ge
  deriving DecidableEq

inductive Condition
  | always
  | never
  /-- The name has a value that counts as true. -/
  | has (key : String)
  | compare (key : String) (op : Comparison) (value : String)
  | not (c : Condition)
  | all (cs : List Condition)
  | any (cs : List Condition)

namespace Condition

mutual
def decEq : (c d : Condition) → Decidable (c = d)
  | always, always => .isTrue rfl
  | never, never => .isTrue rfl
  | has k, has l => decidable_of_iff (k = l) (by simp)
  | compare k o v, compare l p w => decidable_of_iff (k = l ∧ o = p ∧ v = w) (by simp)
  | not c, not d =>
    match decEq c d with
    | .isTrue h => .isTrue (by rw [h])
    | .isFalse h => .isFalse (by simp [h])
  | all cs, all ds =>
    match decEqList cs ds with
    | .isTrue h => .isTrue (by rw [h])
    | .isFalse h => .isFalse (by simp [h])
  | any cs, any ds =>
    match decEqList cs ds with
    | .isTrue h => .isTrue (by rw [h])
    | .isFalse h => .isFalse (by simp [h])
  | always, never | always, has _ | always, compare _ _ _ | always, not _ | always, all _
  | always, any _ | never, always | never, has _ | never, compare _ _ _ | never, not _
  | never, all _ | never, any _ | has _, always | has _, never | has _, compare _ _ _
  | has _, not _ | has _, all _ | has _, any _ | compare _ _ _, always | compare _ _ _, never
  | compare _ _ _, has _ | compare _ _ _, not _ | compare _ _ _, all _ | compare _ _ _, any _
  | not _, always | not _, never | not _, has _ | not _, compare _ _ _ | not _, all _
  | not _, any _ | all _, always | all _, never | all _, has _ | all _, compare _ _ _
  | all _, not _ | all _, any _ | any _, always | any _, never | any _, has _
  | any _, compare _ _ _ | any _, not _ | any _, all _ => .isFalse (by simp)

/-- Whether two lists hold the same conditions in the same order. -/
def decEqList : (cs ds : List Condition) → Decidable (cs = ds)
  | [], [] => .isTrue rfl
  | [], _ :: _ => .isFalse (by simp)
  | _ :: _, [] => .isFalse (by simp)
  | c :: cs, d :: ds =>
    match decEq c d with
    | .isFalse h => .isFalse (by simp [h])
    | .isTrue h =>
      match decEqList cs ds with
      | .isTrue hs => .isTrue (by rw [h, hs])
      | .isFalse hs => .isFalse (by simp [hs])
end

instance : DecidableEq Condition := decEq

end Condition

/-- Whether a value equals a literal. Truth values equal their two words, numbers equal numerals
of the same value, and a missing value equals nothing. -/
def valueEquals (value : Option ContextValue) (literal : String) : Bool :=
  match value with
  | none => false
  | some (.truth b) => literal == (if b then "true" else "false")
  | some (.number x) => (Decimal.float? literal.toList).any (· == x)
  | some (.text s) => s == literal

namespace Comparison

def symbol : Comparison → String
  | eq => "=="
  | ne => "!="
  | lt => "<"
  | le => "<="
  | gt => ">"
  | ge => ">="

/-- Whether two numbers are ordered as a comparison asks; equality is not asked of numbers alone. -/
def ofNumbers : Comparison → Float → Float → Bool
  | lt, x, y => x < y
  | le, x, y => x ≤ y
  | gt, x, y => y < x
  | ge, x, y => y ≤ x
  | eq, _, _ | ne, _, _ => false

/-- Whether a value compares to a literal as asked. An ordering holds only between numbers. -/
def holds (op : Comparison) (value : Option ContextValue) (literal : String) : Bool :=
  match op with
  | eq => valueEquals value literal
  | ne => !valueEquals value literal
  | op =>
    match value.bind ContextValue.asNumber?, Decimal.float? literal.toList with
    | some x, some y => op.ofNumbers x y
    | _, _ => false

end Comparison

namespace Condition

mutual
def holds (look : Lookup) : Condition → Bool
  | always => true
  | never => false
  | has key => (look key).any ContextValue.isTruthy
  | compare key op value => op.holds (look key) value
  | not c => !c.holds look
  | all cs => holdsAll look cs
  | any cs => holdsAny look cs

def holdsAll (look : Lookup) : List Condition → Bool
  | [] => true
  | c :: cs => c.holds look && holdsAll look cs

def holdsAny (look : Lookup) : List Condition → Bool
  | [] => false
  | c :: cs => c.holds look || holdsAny look cs
end

/-- A list holds as a conjunction when each of its conditions holds. -/
theorem holdsAll_eq (look : Lookup) (cs : List Condition) :
    holdsAll look cs = cs.all (holds look) := by
  induction cs with
  | nil => rfl
  | cons c cs ih => simp [holdsAll, ih]

/-- A list holds as a disjunction when one of its conditions holds. -/
theorem holdsAny_eq (look : Lookup) (cs : List Condition) :
    holdsAny look cs = cs.any (holds look) := by
  induction cs with
  | nil => rfl
  | cons c cs ih => simp [holdsAny, ih]

end Condition

end Shortcuts
