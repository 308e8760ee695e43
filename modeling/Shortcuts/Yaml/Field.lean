import Shortcuts.Context
import Shortcuts.Payload
import Shortcuts.Yaml.Plain
/-!
# Reading fields

Readers of nodes at the types that documents have fields of. Where a text is asked for, any scalar
is taken by its text; truth values and numbers have to be plain scalars, or literal blocks whose tag
says so.
-/

namespace Shortcuts.Yaml.Node

def maxDepth : Nat := 125

/-- Whether a tag, if there is one, leaves open how to read a collection. -/
def hasKnownTag (tag : Option Tag) : Bool := !tag.any Tag.isCustom

/-- Whether a scalar may be read as a sort of value other than a text, where a field asks for it. -/
def mayBe (sort : String) (tag : Option Tag) : Style → Bool
  | .plain => true
  | .literal => tag = some (.core sort)
  | _ => false

def text? : Node → Option String
  | scalar _ s _ => some s
  | _ => none

def truth? : Node → Option Bool
  | scalar tag s style => if mayBe "bool" tag style then Yaml.truth? s else none
  | _ => none

/-- The whole number that a scalar stands for, without a minus sign and up to a bound. -/
def natural? (bound : Nat) : Node → Option Nat
  | scalar tag s style =>
    if mayBe "int" tag style then (unsigned? s.toList).filter (· ≤ bound) else none
  | _ => none

/-- Whether a node stands for nothing. A node that says so by its tag has to be a word for it. -/
def isNull? : Node → Option Bool
  | scalar none s .plain => some (s.isEmpty || isNullWord s)
  | scalar (some tag) s .plain =>
    if tag = .core "null" then if isNullWord s then some true else none else some false
  | _ => some false

def optional? {α : Type} (read : Node → Option α) : Option Node → Option (Option α)
  | none => some none
  | some n => do if ← n.isNull? then some none else (read n).map some

/-- A field that has a value of its own when it is absent, but may not be null. -/
def withDefault? {α : Type} (read : Node → Option α) (absent : α) : Option Node → Option α
  | none => some absent
  | some n => read n

/-- The items of a sequence; an empty place counts as an empty one. -/
def items? : Node → Option (List Node)
  | sequence _ items => some items
  | scalar _ "" .plain => some []
  | _ => none

/-- The entries of a mapping whose keys are scalars, with the texts of the keys; an empty place
counts as an empty one. -/
def entries? : Node → Option (List (String × Node))
  | mapping _ entries => entries.mapM fun (k, v) => k.text?.map fun k => (k, v)
  | scalar _ "" .plain => some []
  | _ => none

/-- The entries of a mapping in which none of the known names occurs twice. Other names are
allowed and mean nothing. -/
def fields? (known : List String) (n : Node) : Option (List (String × Node)) :=
  n.entries?.filter fun entries =>
    known.all fun name => (entries.filter (·.1 == name)).length ≤ 1

def texts? (n : Node) : Option (List String) := n.items?.bind fun items => items.mapM text?

def typedText? : Node → Option String
  | scalar tag s style =>
    match scalarValue? tag s style with
    | some (.text s) => some s
    | _ => none
  | _ => none

/-- A node as data for a command. Floats that are not finite become null, names of fields are the
texts of their scalars, and a tag of its own is refused. -/
def payload? : (depth : Nat) → Node → Option Payload
  | _, scalar tag s style =>
    match scalarValue? tag s style with
    | none | some .tooLarge => none
    | some .null => some .null
    | some (.truth b) => some (.truth b)
    | some (.whole n) => some (.whole n)
    | some (.float x) => some (if x.isFinite then .float x else .null)
    | some (.text s) => some (.text s)
  | 0, _ => none
  | depth + 1, sequence tag items =>
    if hasKnownTag tag then (items.mapM (payload? depth)).map .list else none
  | depth + 1, mapping tag entries =>
    if hasKnownTag tag then
      (entries.mapM fun (e : Node × Node) =>
        match e.1.text?, payload? depth e.2 with
        | some k, some v => some (k, v)
        | _, _ => none).map .ofFields
    else none

/-- A node as the value of a name in a context: a truth value, a number or a text. -/
def contextValue? : Node → Option ContextValue
  | scalar tag s style =>
    match scalarValue? tag s style with
    | some (.truth b) => some (.truth b)
    | some (.whole n) => some (.number (Float.ofInt n))
    | some (.float x) => some (.number x)
    | some (.text s) => some (.text s)
    | _ => none
  | _ => none

def context? (n : Node) : Option Context := do
  let entries ← n.entries?
  let values ← entries.mapM fun (k, v) => v.contextValue?.map fun v => (k, v)
  some (.ofList values)

end Shortcuts.Yaml.Node
