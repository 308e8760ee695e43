import Shortcuts.Decimal.Numeral
/-!
# Contexts

A context tells a rule about the state of its host: named values, each a truth value, a number or
a text. Conditions see a context through a lookup only, so a host may answer from anywhere;
`Context` is the plain store of named values.
-/

namespace Shortcuts

inductive ContextValue
  | truth (b : Bool)
  | number (x : Float)
  | text (s : String)
  deriving DecidableEq

namespace ContextValue

def isTruthy : ContextValue → Bool
  | truth b => b
  | number x => x != 0.0
  | text s => !s.isEmpty

/-- The number that a value can be compared as: texts count if they are numerals. -/
def asNumber? : ContextValue → Option Float
  | truth _ => none
  | number x => some x
  | text s => Decimal.float? s.toList

/-- Whether two values are of one sort and equal, numbers as floats. -/
def same : ContextValue → ContextValue → Bool
  | truth a, truth b => a == b
  | number x, number y => x == y
  | text s, text t => s == t
  | _, _ => false

end ContextValue

/-- What conditions see of a context: the value of a name, if it has one. -/
abbrev Lookup := String → Option ContextValue

/-- A store of named values; each name occurs once. -/
structure Context where
  entries : List (String × ContextValue)

namespace Context

def empty : Context := ⟨[]⟩

def get? (c : Context) (key : String) : Option ContextValue := c.entries.lookup key

def erase (c : Context) (key : String) : Context := ⟨c.entries.filter (·.1 != key)⟩

def set (c : Context) (key : String) (value : ContextValue) : Context :=
  ⟨(key, value) :: (c.erase key).entries⟩

/-- Give each of a list of names its value, one after the other. -/
def setAll (c : Context) (entries : List (String × ContextValue)) : Context :=
  entries.foldl (fun c e => c.set e.1 e.2) c

/-- The context of a list of named values; the last value of a name counts. -/
def ofList (entries : List (String × ContextValue)) : Context := empty.setAll entries

def merge (c other : Context) : Context := c.setAll other.entries

/-- Whether two contexts have the same names with the same values. -/
def same (c d : Context) : Bool :=
  c.entries.length == d.entries.length &&
    c.entries.all fun e => (d.get? e.1).any (e.2.same ·)

theorem get?_set_self (c : Context) (key : String) (value : ContextValue) :
    (c.set key value).get? key = some value := by
  simp [set, get?]

theorem get?_cons (entries : List (String × ContextValue)) (key other : String)
    (value : ContextValue) :
    get? ⟨(key, value) :: entries⟩ other =
      if other = key then some value else get? ⟨entries⟩ other := by
  by_cases h : other = key
  · simp [get?, h]
  · show (match other == key with
      | true => some value
      | false => entries.lookup other) = _
    rw [beq_false_of_ne h, if_neg h]
    rfl

theorem get?_erase (c : Context) (key other : String) :
    (c.erase key).get? other = if other = key then none else c.get? other := by
  obtain ⟨entries⟩ := c
  induction entries with
  | nil => simp [erase, get?]
  | cons e entries ih =>
    obtain ⟨name, value⟩ := e
    by_cases hn : name = key
    · have dropped : erase ⟨(name, value) :: entries⟩ key = erase ⟨entries⟩ key := by
        simp [erase, hn]
      rw [dropped, ih, get?_cons, hn]
      split <;> rfl
    · have kept : erase ⟨(name, value) :: entries⟩ key =
          ⟨(name, value) :: (erase ⟨entries⟩ key).entries⟩ := by
        simp [erase, hn]
      rw [kept, get?_cons, ih, get?_cons]
      by_cases ho : other = name
      · rw [if_pos ho, if_pos ho, if_neg (ho ▸ hn)]
      · rw [if_neg ho, if_neg ho]

theorem get?_set (c : Context) (key other : String) (value : ContextValue) :
    (c.set key value).get? other = if other = key then some value else c.get? other := by
  rw [set, get?_cons]
  by_cases h : other = key
  · rw [if_pos h, if_pos h]
  · rw [if_neg h, if_neg h, get?_erase, if_neg h]

end Context

end Shortcuts
