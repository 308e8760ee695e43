import Shortcuts.Text.CaseTable
/-!
# Upper and lower case

Unicode's full case mappings, one character at a time: the case of a character never depends on
its neighbours here. Main statements: a lowercase starts with `firstLower` (`head_lower`), and
that is all of it but for one character (`lower_eq_of_ne`).
-/

namespace Shortcuts.Text

/-- The distance that a table of ascending runs assigns to a code point, if it lists it. -/
def shiftOf : List CaseRun → Nat → Option Int
  | [], _ => none
  | r :: runs, n =>
    if n < r.first then none
    else if n ≤ r.last then
      if (n - r.first) % r.step = 0 then some r.shift else none
    else shiftOf runs n

/-- The code point that a table maps a code point to; one that is not listed stays. -/
def mapped (runs : List CaseRun) (n : Nat) : Nat :=
  match shiftOf runs n with
  | none => n
  | some d => (n + d).toNat

/-- The lowercase of one character. Only `İ` has a lowercase of two characters. -/
def lower (c : Char) : List Char :=
  if c.toNat = 0x130 then ['i', '\u0307'] else [Char.ofNat (mapped lowercaseRuns c.toNat)]

/-- The first character of the lowercase of a character. -/
def firstLower (c : Char) : Char :=
  if c.toNat = 0x130 then 'i' else Char.ofNat (mapped lowercaseRuns c.toNat)

/-- The uppercase of one character. -/
def upper (c : Char) : List Char :=
  match uppercaseSequences.lookup c.toNat with
  | some ns => ns.map Char.ofNat
  | none => [Char.ofNat (mapped uppercaseRuns c.toNat)]

def lowercase (cs : List Char) : List Char := cs.flatMap lower

def lowercaseString (s : String) : String := String.ofList (lowercase s.toList)

/-- Outside the one exception, the lowercase of a character is its first lowercase character. -/
theorem lower_eq_of_ne {c : Char} (h : c.toNat ≠ 0x130) : lower c = [firstLower c] := by
  simp [lower, firstLower, h]

/-- The first character of a lowercase is what `firstLower` says. -/
theorem head_lower (c : Char) : (lower c).head? = some (firstLower c) := by
  unfold lower firstLower
  split <;> rfl

end Shortcuts.Text
