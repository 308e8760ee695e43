import Shortcuts.Decimal.Natural
import Shortcuts.Payload
/-!
# Arguments of a command

A command receives the arguments of its caller together with the payload of its rule. A payload
may be a template: a text of the form `$` and a number in braces, alone in a string, is a
placeholder for the caller's argument with that number.
-/

namespace Shortcuts

/-- A placeholder asks for an argument that the caller did not give. -/
structure MissingArgument where
  index : Nat
  given : Nat
  deriving DecidableEq

def MissingArgument.message (e : MissingArgument) : String :=
  "Placeholder $\x7b" ++ Nat.repr e.index ++ "\x7d has no caller argument (" ++
    Nat.repr e.given ++ " given)"

namespace Payload

/-- The number of the argument that a text stands for, if it is a placeholder. -/
def placeholder? (s : String) : Option Nat :=
  match s.toList with
  | '$' :: '\x7b' :: rest =>
    match rest.reverse with
    | '\x7d' :: digits => Decimal.natural? Decimal.wordMax digits.reverse
    | _ => none
  | _ => none

mutual
/-- Whether a placeholder stands anywhere among the values of a payload. -/
def isTemplate : Payload → Bool
  | text s => (placeholder? s).isSome
  | list items => anyTemplate items
  | record fields => anyTemplateField fields
  | _ => false

def anyTemplate : List Payload → Bool
  | [] => false
  | p :: ps => p.isTemplate || anyTemplate ps

def anyTemplateField : List (String × Payload) → Bool
  | [] => false
  | (_, p) :: fs => p.isTemplate || anyTemplateField fs
end

mutual
/-- A template with every placeholder replaced by the argument that it stands for. The error is
the first placeholder without one: items from left to right, fields in their order. -/
def fill (caller : List Payload) : Payload → Except MissingArgument Payload
  | text s =>
    match placeholder? s with
    | none => .ok (text s)
    | some i =>
      match caller[i]? with
      | some p => .ok p
      | none => .error ⟨i, caller.length⟩
  | list items =>
    match fillItems caller items with
    | .ok ps => .ok (list ps)
    | .error e => .error e
  | record fields =>
    match fillFields caller fields with
    | .ok fs => .ok (record fs)
    | .error e => .error e
  | p => .ok p

def fillItems (caller : List Payload) : List Payload → Except MissingArgument (List Payload)
  | [] => .ok []
  | p :: ps =>
    match fill caller p with
    | .error e => .error e
    | .ok q =>
      match fillItems caller ps with
      | .error e => .error e
      | .ok qs => .ok (q :: qs)

def fillFields (caller : List Payload) :
    List (String × Payload) → Except MissingArgument (List (String × Payload))
  | [] => .ok []
  | (k, p) :: fs =>
    match fill caller p with
    | .error e => .error e
    | .ok q =>
      match fillFields caller fs with
      | .error e => .error e
      | .ok gs => .ok ((k, q) :: gs)
end

/-- The arguments that a payload contributes: the items of a list, or itself. -/
def spread : Payload → List Payload
  | list items => items
  | p => [p]

end Payload

/-- The arguments of a command. Without a payload they are the caller's; a template is filled and
replaces them; any other payload follows them. -/
def composeArguments (caller : List Payload) (payload : Option Payload) :
    Except MissingArgument (List Payload) :=
  match payload with
  | none => .ok caller
  | some p =>
    if p.isTemplate then Payload.spread <$> p.fill caller
    else .ok (caller ++ p.spread)

end Shortcuts
