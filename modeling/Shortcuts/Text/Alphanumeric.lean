import Shortcuts.Text.AlphanumericTable
import Shortcuts.Text.CodePoints
/-!
# Letters and numbers

`isAlphanumeric` is Unicode's notion; `isAsciiAlphanumeric` is its ASCII part, which needs no
table.
-/

namespace Shortcuts.Text

def isAsciiAlphanumeric (c : Char) : Bool :=
  ('a' ≤ c && c ≤ 'z') || ('A' ≤ c && c ≤ 'Z') || ('0' ≤ c && c ≤ '9')

/-- Whether a character is a letter or a number of any script. -/
def isAlphanumeric (c : Char) : Bool :=
  if c.toNat < 0x80 then isAsciiAlphanumeric c else inRuns alphanumericEnds c.toNat

/-- On ASCII the two notions agree. -/
theorem isAlphanumeric_of_ascii {c : Char} (h : c.toNat < 0x80) :
    isAlphanumeric c = isAsciiAlphanumeric c := by
  simp [isAlphanumeric, h]

end Shortcuts.Text
