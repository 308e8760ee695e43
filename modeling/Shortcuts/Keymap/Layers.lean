import Shortcuts.Keymap.Builtin
import Shortcuts.Layering
/-!
# Loading layers of keymaps

The built-in keymap comes first, then the project's, then the user's. A layer that is missing or
faulty is left out, and so is a copy of the built-in keymap when that is loaded already.
-/

namespace Shortcuts

/-- What is found where a file is looked for. -/
inductive FileContent
  | missing
  /-- There is something, but it is no text. -/
  | unreadable
  | text (s : String)
  deriving DecidableEq

def FileContent.text? : FileContent → Option String
  | text s => some s
  | _ => none

namespace Keymap

def ofFile (f : FileContent) : Except KeymapError (List Rule) :=
  match f.text? with
  | some s => parse s
  | none => .error .unreadable

def layer? (hasBuiltin : Bool) (f : FileContent) : Option (List Rule) :=
  match f.text? with
  | none => none
  | some s => if hasBuiltin && s == builtinText then none else (parse s).toOption

def layFile (hasBuiltin : Bool) (rules : List Rule) (f : FileContent) : List Rule :=
  match layer? hasBuiltin f with
  | some layer => layKeymap rules layer
  | none => rules

/-- The rules of all layers: the built-in ones if they are wanted, the project's and the user's. -/
def layered (hasBuiltin : Bool) (project user : FileContent) : List Rule :=
  let base := if hasBuiltin then builtinRules else []
  [project, user].foldl (layFile hasBuiltin) base

end Keymap

end Shortcuts
