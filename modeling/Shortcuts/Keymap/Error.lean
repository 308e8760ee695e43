import Shortcuts.Binding.Error
import Shortcuts.Condition.Parser
/-!
# What can be wrong with a keymap
-/

namespace Shortcuts

/-- Why a keymap cannot be used. -/
inductive KeymapError
  | pattern (e : PatternError)
  /-- A separate count of clicks does not fit its pattern. -/
  | times (count : Nat) (key : String)
  | condition (e : ConditionError)
  /-- The document does not have the structure of a keymap. -/
  | malformed
  /-- The file cannot be read. -/
  | unreadable
  deriving DecidableEq

def Fault.words : Fault → String
  | .key => "Invalid key"
  | .mouseButton => "Invalid mouse button"
  | .clickCount => "Invalid click count"
  | .chord => "Invalid chord"
  | .condition => "Invalid condition"
  | .document => "Parse error"
  | .file => "IO error"

namespace KeymapError

def fault : KeymapError → Fault
  | pattern e => e.fault
  | times _ _ => .clickCount
  | condition _ => .condition
  | malformed => .document
  | unreadable => .file

/-- What an error says, without the words for what it is about. -/
def detail : KeymapError → String
  | pattern e => e.detail
  | times count key => "times: " ++ Nat.repr count ++ " does not apply to '" ++ key ++ "'"
  | condition e => e.detail
  | malformed | unreadable => ""

def message (e : KeymapError) : String := e.fault.words ++ ": " ++ e.detail

end KeymapError

end Shortcuts
