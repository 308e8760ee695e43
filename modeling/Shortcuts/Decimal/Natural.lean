/-!
# Natural numbers in decimal

Reading an unsigned number that must fit a bound: ASCII digits, at least one, with an optional
plus sign and any number of leading zeros. Writing uses the shortest digits.
-/

namespace Shortcuts.Decimal

def digit? (c : Char) : Option Nat :=
  if '0' ≤ c && c ≤ '9' then some (c.toNat - '0'.toNat) else none

/-- Whether a character is an ASCII digit. -/
def isDigit (c : Char) : Bool := (digit? c).isSome

def readFrom? (acc : Nat) : List Char → Option Nat
  | [] => some acc
  | c :: cs => (digit? c).bind fun d => readFrom? (acc * 10 + d) cs

def digits? : List Char → Option Nat
  | [] => none
  | cs => readFrom? 0 cs

def natural? (bound : Nat) (cs : List Char) : Option Nat :=
  let unsigned := match cs with
    | '+' :: rest => rest
    | _ => cs
  (digits? unsigned).filter (· ≤ bound)

def byteMax : Nat := 0xff

def wordMax : Nat := 0xffffffffffffffff

def twoTo (n : Nat) : Nat := Nat.pow 2 n

def tenTo (n : Nat) : Nat := Nat.pow 10 n

theorem natural?_le {bound n : Nat} {cs : List Char} (h : natural? bound cs = some n) :
    n ≤ bound := by
  simp only [natural?, Option.filter_eq_some_iff] at h
  simpa using h.2

end Shortcuts.Decimal
