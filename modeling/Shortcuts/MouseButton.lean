import Shortcuts.Text.Case
/-!
# Mouse buttons

The three buttons that bindings may use.
-/

namespace Shortcuts

inductive MouseButton
  | left
  | middle
  | right
  deriving DecidableEq

namespace MouseButton

def name : MouseButton → String
  | left => "LMB"
  | middle => "MMB"
  | right => "RMB"

def ofName? (cs : List Char) : Option MouseButton :=
  [("lmb", left), ("left", left), ("mmb", middle), ("middle", middle), ("rmb", right),
    ("right", right)].lookup (String.ofList (Text.lowercase cs))

def label : MouseButton → String
  | left => "Left Click"
  | middle => "Middle Click"
  | right => "Right Click"

end MouseButton

end Shortcuts
