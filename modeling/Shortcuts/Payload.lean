/-!
# Payloads

The data that a command is called with: a value as in a document, made of nothing, truth values,
numbers, texts, lists and records. Whole numbers and floats are different numbers even when they
are equal in size. The fields of a record are kept in ascending order of their names.
-/

namespace Shortcuts

inductive Payload
  | null
  | truth (b : Bool)
  | whole (n : Int)
  | float (x : Float)
  | text (s : String)
  | list (items : List Payload)
  | record (fields : List (String × Payload))

namespace Payload

/-- Give a field of an ascending record a value, in place or in its place in the order. -/
def putField (key : String) (value : Payload) :
    List (String × Payload) → List (String × Payload)
  | [] => [(key, value)]
  | (k, v) :: fields =>
    if key < k then (key, value) :: (k, v) :: fields
    else if key = k then (key, value) :: fields
    else (k, v) :: putField key value fields

/-- The record of a list of fields; the last value of a name counts. -/
def ofFields (fields : List (String × Payload)) : Payload :=
  record (fields.foldl (fun fs f => putField f.1 f.2 fs) [])

end Payload

end Shortcuts
