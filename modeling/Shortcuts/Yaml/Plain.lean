import Shortcuts.Decimal.Numeral
import Shortcuts.Yaml.Node
/-!
# What plain scalars mean

A plain scalar is a word for nothing, a truth value, a number or else a text. Decimal digits after
a leading zero are no number, and neither are underscores. Whole numbers that fit a signed or an
unsigned machine word are usable; those of up to two machine words are whole but too large; larger
ones are floats.
-/

namespace Shortcuts.Yaml

inductive ScalarValue
  | null
  | truth (b : Bool)
  | whole (n : Int)
  /-- A whole number that fits two machine words but not one. -/
  | tooLarge
  | float (x : Float)
  | text (s : String)

def isNullWord (s : String) : Bool := s == "null" || s == "Null" || s == "NULL" || s == "~"

def truth? (s : String) : Option Bool :=
  if s == "true" || s == "True" || s == "TRUE" then some true
  else if s == "false" || s == "False" || s == "FALSE" then some false
  else none

def digitIn? (base : Nat) (c : Char) : Option Nat := (hexDigit? c).filter (· < base)

/-- The number written by a non-empty text of digits in a base. -/
def digitsIn? (base : Nat) : List Char → Option Nat
  | [] => none
  | cs => (cs.mapM (digitIn? base)).map fun ds => ds.foldl (fun n d => base * n + d) 0

/-- Whether a text is a zero followed by more digits, perhaps behind a sign. -/
def hasLeadingZero (cs : List Char) : Bool :=
  match (Decimal.splitSign cs).2 with
  | '0' :: d :: ds => (d :: ds).all Decimal.isDigit
  | _ => false

/-- The size of a whole number without its sign: decimal, or with a mark for another base. -/
def magnitudeOf? (cs : List Char) : Option Nat :=
  match cs with
  | '0' :: 'x' :: ds => digitsIn? 16 ds
  | '0' :: 'o' :: ds => digitsIn? 8 ds
  | '0' :: 'b' :: ds => digitsIn? 2 ds
  | ds => if hasLeadingZero cs then none else Decimal.digits? ds

def whole? (cs : List Char) : Option Int :=
  match cs with
  | '-' :: ds => (magnitudeOf? ds).map fun n => -(n : Int)
  | '+' :: ds => (magnitudeOf? ds).map Int.ofNat
  | ds => (magnitudeOf? ds).map Int.ofNat

/-- The whole number that a text writes without a minus sign. -/
def unsigned? (cs : List Char) : Option Nat :=
  match cs with
  | '+' :: ds => magnitudeOf? ds
  | ds => magnitudeOf? ds

/-- Whether a whole number fits a signed or an unsigned machine word. -/
def fitsWord (n : Int) : Bool := -0x8000000000000000 ≤ n && n ≤ Decimal.wordMax

/-- Whether a whole number fits two machine words, signed or unsigned. -/
def fitsTwoWords (n : Int) : Bool :=
  -0x80000000000000000000000000000000 ≤ n && n ≤ 0xffffffffffffffffffffffffffffffff

/-- The float that a text writes: a finite numeral, or a word that begins with a point. -/
def scalarFloat? (cs : List Char) : Option Float :=
  let s := String.ofList cs
  if s == ".nan" || s == ".NaN" || s == ".NAN" then some (0.0 / 0.0)
  else
    let (negative, body) := Decimal.splitSign cs
    let word := String.ofList body
    if word == ".inf" || word == ".Inf" || word == ".INF" then
      some (if negative then -(1.0 / 0.0) else 1.0 / 0.0)
    else if cs.head? == some '+' && (body.head? == some '+' || body.head? == some '-') then none
    else (Decimal.float? cs).filter Float.isFinite

def plainValue (s : String) : ScalarValue :=
  if s.isEmpty || isNullWord s then .null
  else
    match truth? s with
    | some b => .truth b
    | none =>
      let cs := s.toList
      match whole? cs with
      | some n =>
        if fitsWord n then .whole n
        else if fitsTwoWords n then .tooLarge
        else
          match scalarFloat? cs with
          | some x => .float x
          | none => .text s
      | none =>
        if hasLeadingZero cs then .text s
        else
          match scalarFloat? cs with
          | some x => .float x
          | none => .text s

/-- The value of a scalar. All styles but the plain one make a text; a tag of the language asks for
one sort of value, and a custom tag is refused. -/
def scalarValue? (tag : Option Tag) (s : String) (style : Style) : Option ScalarValue :=
  match tag with
  | none => some (if style = .plain then plainValue s else .text s)
  | some tag =>
    if tag.isCustom then none
    else if tag = .core "null" then if isNullWord s then some .null else none
    else if tag = .core "bool" then (truth? s).map .truth
    else if tag = .core "int" then
      match plainValue s with
      | .whole n => some (.whole n)
      | _ => none
    else if tag = .core "float" then (scalarFloat? s.toList).map .float
    else some (if tag.isLocal && style = .plain then plainValue s else .text s)

end Shortcuts.Yaml
