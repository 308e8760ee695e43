import Shortcuts.Decimal.Natural
/-!
# Decimal numerals

The text of a number with optional sign, fraction and exponent, or one of the words for infinity
and not-a-number. Reading yields an exact numeral; rounding to a float is a second step.
-/

namespace Shortcuts.Decimal

inductive Numeral
  /-- Plus or minus `digits · 10 ^ exponent`. -/
  | finite (negative : Bool) (digits : Nat) (exponent : Int)
  | infinite (negative : Bool)
  | nan
  deriving DecidableEq

def asciiLower (cs : List Char) : List Char := cs.map Char.toLower

/-- The exponent at the end of a numeral: nothing, or a mark, an optional sign and digits. -/
def exponent? : List Char → Option Int
  | [] => some 0
  | e :: rest =>
    if e = 'e' || e = 'E' then
      match rest with
      | '-' :: ds => (digits? ds).map fun n => -(n : Int)
      | '+' :: ds => (digits? ds).map Int.ofNat
      | ds => (digits? ds).map Int.ofNat
    else none

/-- An unsigned numeral: digits with an optional point among them, then an optional exponent. -/
def magnitude? (cs : List Char) : Option (Nat × Int) :=
  let whole := cs.takeWhile isDigit
  let rest := cs.dropWhile isDigit
  let fraction := match rest with
    | '.' :: fs => fs.takeWhile isDigit
    | _ => []
  let tail := match rest with
    | '.' :: fs => fs.dropWhile isDigit
    | _ => rest
  match digits? (whole ++ fraction), exponent? tail with
  | some n, some e => some (n, e - fraction.length)
  | _, _ => none

def splitSign : List Char → Bool × List Char
  | '-' :: cs => (true, cs)
  | '+' :: cs => (false, cs)
  | cs => (false, cs)

/-- Read a numeral; the words `inf`, `infinity` and `nan` count in any case. -/
def numeral? (cs : List Char) : Option Numeral :=
  let (negative, body) := splitSign cs
  let word := asciiLower body
  if word = "inf".toList || word = "infinity".toList then some (.infinite negative)
  else if word = "nan".toList then some .nan
  else (magnitude? body).map fun (n, e) => .finite negative n e

def digitCount (n : Nat) : Nat := (Nat.toDigits 10 n).length

/-- The float nearest to `digits · 10 ^ exponent`. Values far outside the range of floats are
settled without computing the power. -/
def nearestFloat (digits : Nat) (exponent : Int) : Float :=
  let magnitude := (digitCount digits : Int) + exponent
  if digits = 0 || magnitude < -330 then 0
  else if 310 < magnitude then Float.ofScientific 1 false 400
  else if exponent < 0 then Float.ofScientific digits true exponent.natAbs
  else Float.ofScientific digits false exponent.natAbs

def Numeral.toFloat : Numeral → Float
  | .finite negative n e => if negative then -nearestFloat n e else nearestFloat n e
  | .infinite negative => if negative then -(1.0 / 0.0) else 1.0 / 0.0
  | .nan => 0.0 / 0.0

def isNumeral (cs : List Char) : Bool := (numeral? cs).isSome

def float? (cs : List Char) : Option Float := (numeral? cs).map Numeral.toFloat

theorem isSome_float? (cs : List Char) : (float? cs).isSome = isNumeral cs := by
  simp [float?, isNumeral]

end Shortcuts.Decimal
