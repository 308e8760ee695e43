import Shortcuts.Text.CodePoints
/-!
# Blank characters

Blank means Unicode's `White_Space`. `trim` drops blanks at both ends, `words` cuts a text at its
blanks, and `pieces` cuts a text at every character of a class, keeping empty pieces.
-/

namespace Shortcuts.Text

/-- The ends of the runs of blank code points. -/
def blankEnds : List Nat := [
  0x9, 0xe, 0x20, 0x21, 0x85, 0x86, 0xa0, 0xa1, 0x1680, 0x1681, 0x2000, 0x200b, 0x2028, 0x202a,
  0x202f, 0x2030, 0x205f, 0x2060, 0x3000, 0x3001]

def isBlank (c : Char) : Bool := inRuns blankEnds c.toNat

def trimStart (cs : List Char) : List Char := cs.dropWhile isBlank

def trimEnd (cs : List Char) : List Char := (cs.reverse.dropWhile isBlank).reverse

def trim (cs : List Char) : List Char := trimEnd (trimStart cs)

def extendFirst (c : Char) : List (List Char) → List (List Char)
  | [] => [[c]]
  | p :: ps => (c :: p) :: ps

/-- The stretches between the characters of a class, empty ones included: there is always one
more of them than there are such characters. -/
def pieces (isCut : Char → Bool) : List Char → List (List Char)
  | [] => [[]]
  | c :: cs => if isCut c then [] :: pieces isCut cs else extendFirst c (pieces isCut cs)

def words (cs : List Char) : List (List Char) :=
  (pieces isBlank cs).filter fun w => !w.isEmpty

def joined (separator : List Char) : List (List Char) → List Char
  | [] => []
  | [p] => p
  | p :: ps => p ++ separator ++ joined separator ps

/-- A text always has at least one piece. -/
theorem pieces_ne_nil (isCut : Char → Bool) (cs : List Char) : pieces isCut cs ≠ [] := by
  cases cs with
  | nil => simp [pieces]
  | cons c cs =>
    unfold pieces
    split
    · simp
    · cases pieces isCut cs <;> simp [extendFirst]

end Shortcuts.Text
