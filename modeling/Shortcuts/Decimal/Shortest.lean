import Shortcuts.Decimal.Numeral
/-!
# The shortest decimal of a float

A float is a number `m · 2 ^ q`. Its shortest decimal has the fewest digits among the decimals
that read back as the same float, and of those it is the nearest. For each count of digits only
the two neighbours of the value on that decimal grid can read back, so the search looks at two
candidates per count, in exact arithmetic.
-/

namespace Shortcuts.Decimal

structure Binary where
  significand : Nat
  exponent : Int
  /-- Whether the float below is only half as far away as the one above. -/
  narrowBelow : Bool

def Binary.ofBits (bits : Nat) : Binary :=
  let fraction : Nat := bits % twoTo 52
  let biased : Nat := bits / twoTo 52 % twoTo 11
  if biased = 0 then ⟨fraction, -1074, false⟩
  else ⟨fraction + twoTo 52, (biased : Int) - 1075, fraction = 0 && 1 < biased⟩

/-- The reals that round to a float, over a common denominator. -/
structure Interval where
  low : Nat
  value : Nat
  high : Nat
  denominator : Nat
  closed : Bool

/-- The interval of a float reaches half-way to each neighbour, ends included for an even
significand. -/
def Binary.interval (b : Binary) : Interval :=
  let scale := twoTo b.exponent.toNat
  { low := (4 * b.significand - (if b.narrowBelow then 1 else 2)) * scale
    value := 4 * b.significand * scale
    high := (4 * b.significand + 2) * scale
    denominator := 4 * twoTo (-b.exponent).toNat
    closed := b.significand % 2 = 0 }

/-- Compare `n · 10 ^ e` with `x / denominator`, as the two sides of a comparison of naturals. -/
def crossed (n : Nat) (e : Int) (x denominator : Nat) : Nat × Nat :=
  (n * tenTo e.toNat * denominator, x * tenTo (-e).toNat)

def Interval.holds (i : Interval) (n : Nat) (e : Int) : Bool :=
  let (l, low) := crossed n e i.low i.denominator
  let (h, high) := crossed n e i.high i.denominator
  if i.closed then low ≤ l && h ≤ high else low < l && h < high

def Interval.leading (i : Interval) : Int :=
  if i.denominator ≤ i.value then (digitCount (i.value / i.denominator) : Int) - 1
  else
    let k := digitCount (i.denominator / i.value) - 1
    if i.denominator ≤ i.value * tenTo k then -(k : Int) else -(k + 1 : Nat)

/-- The decimal with `count` digits that reads back, if there is one: the nearer of the two
neighbours, and of two equally near the even one. -/
def Interval.atCount? (i : Interval) (count : Nat) : Option (Nat × Int) :=
  let e := i.leading - ((count : Int) - 1)
  let n := i.value * tenTo (-e).toNat / (i.denominator * tenTo e.toNat)
  match i.holds n e, i.holds (n + 1) e with
  | true, false => some (n, e)
  | false, true => some (n + 1, e)
  | false, false => none
  | true, true =>
    let (mid, twice) := crossed (2 * n + 1) e (2 * i.value) i.denominator
    if twice < mid then some (n, e)
    else if mid < twice then some (n + 1, e)
    else if n % 2 = 0 then some (n, e) else some (n + 1, e)

/-- The first count of digits, from `count` up, whose grid has a decimal that reads back. -/
def Interval.search (i : Interval) : (fuel count : Nat) → Nat × Int
  | 0, count => (i.atCount? count).getD (0, 0)
  | fuel + 1, count => (i.atCount? count).getD (search i fuel (count + 1))

/-- Drop the zeros at the end of a number into its exponent, at most `fuel` of them. -/
def dropZeros : (fuel : Nat) → Nat → Int → Nat × Int
  | 0, n, e => (n, e)
  | fuel + 1, n, e => if n % 10 = 0 && n ≠ 0 then dropZeros fuel (n / 10) (e + 1) else (n, e)

/-- The shortest decimal of a positive finite float: digits and exponent. Seventeen digits always
suffice. -/
def shortest (bits : Nat) : Nat × Int :=
  let (n, e) := (Binary.ofBits bits).interval.search 17 1
  dropZeros 17 n e

/-- `digits · 10 ^ exponent` written out without an exponent. -/
def positional (digits : Nat) (exponent : Int) : String :=
  let ds := Nat.toDigits 10 digits
  if 0 ≤ exponent then String.ofList (ds ++ List.replicate exponent.toNat '0')
  else
    let places := exponent.natAbs
    let padded := List.replicate (places + 1 - ds.length) '0' ++ ds
    let whole := padded.length - places
    String.ofList (padded.take whole ++ '.' :: padded.drop whole)

/-- The text of a float: the shortest decimal, written out without an exponent, with no point for
a whole number. -/
def floatText (x : Float) : String :=
  let bits := x.toBits.toNat
  let sign := if twoTo 63 ≤ bits then "-" else ""
  let magnitude := bits % twoTo 63
  if x.isNaN then "NaN"
  else if x.isInf then sign ++ "inf"
  else if magnitude = 0 then sign ++ "0"
  else
    let (n, e) := shortest magnitude
    sign ++ positional n e

end Shortcuts.Decimal
