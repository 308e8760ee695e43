import Shortcuts.Decimal.Natural
import Shortcuts.Key.Basic
/-!
# Names of keys

`name` is the canonical name of a key, used in encodings; `ofName?` reads that name and its
aliases in any case; `label` and `spoken` are for people.
-/

namespace Shortcuts.Key

/-- The canonical name of a key, in lower case. The plus sign and the space have words, since
encodings use these characters themselves. -/
def name : Key → String
  | char c =>
    if c = '+' then "plus" else if c = ' ' then "space" else String.ofList (Text.lower c)
  | enter => "enter"
  | escape => "escape"
  | tab => "tab"
  | backspace => "backspace"
  | delete => "delete"
  | space => "space"
  | up => "up"
  | down => "down"
  | left => "left"
  | right => "right"
  | home => "home"
  | endKey => "end"
  | pageUp => "pageup"
  | pageDown => "pagedown"
  | insert => "insert"
  | function n => "f" ++ Nat.repr n.toNat
  | numpad d => "numpad" ++ Nat.repr d.val
  | numpadAdd => "numpad_add"
  | numpadSubtract => "numpad_subtract"
  | numpadMultiply => "numpad_multiply"
  | numpadDivide => "numpad_divide"
  | numpadEnter => "numpad_enter"
  | numpadDecimal => "numpad_decimal"

/-- Every word for a key that is neither a character nor a function key, in lower case. -/
def words : List (String × Key) :=
  [("plus", char '+'), ("enter", enter), ("return", enter), ("escape", escape), ("esc", escape),
    ("tab", tab), ("backspace", backspace), ("back", backspace), ("delete", delete),
    ("del", delete), ("space", space), ("up", up), ("arrowup", up), ("down", down),
    ("arrowdown", down), ("left", left), ("arrowleft", left), ("right", right),
    ("arrowright", right), ("home", home), ("end", endKey), ("pageup", pageUp), ("pgup", pageUp),
    ("pagedown", pageDown), ("pgdown", pageDown), ("pgdn", pageDown), ("insert", insert),
    ("ins", insert), ("numpad0", numpad 0), ("num0", numpad 0), ("numpad1", numpad 1),
    ("num1", numpad 1), ("numpad2", numpad 2), ("num2", numpad 2), ("numpad3", numpad 3),
    ("num3", numpad 3), ("numpad4", numpad 4), ("num4", numpad 4), ("numpad5", numpad 5),
    ("num5", numpad 5), ("numpad6", numpad 6), ("num6", numpad 6), ("numpad7", numpad 7),
    ("num7", numpad 7), ("numpad8", numpad 8), ("num8", numpad 8), ("numpad9", numpad 9),
    ("num9", numpad 9), ("numpad_add", numpadAdd), ("numadd", numpadAdd), ("numplus", numpadAdd),
    ("numpad_subtract", numpadSubtract), ("numsub", numpadSubtract), ("numminus", numpadSubtract),
    ("numpad_multiply", numpadMultiply), ("nummul", numpadMultiply),
    ("numpad_divide", numpadDivide), ("numdiv", numpadDivide), ("numpad_enter", numpadEnter),
    ("numenter", numpadEnter), ("numpad_decimal", numpadDecimal), ("numdot", numpadDecimal)]

/-- The number of the function key that a name in lower case names, whether or not keyboards have
that key. -/
def functionNumber? : List Char → Option Nat
  | 'f' :: ds => Decimal.natural? Decimal.byteMax ds
  | _ => none

/-- The key with a name in lower case. A single character names itself. -/
def ofLowerName? (cs : List Char) : Option Key :=
  match cs with
  | [c] => some (if c = ' ' then space else char c)
  | _ =>
    match functionNumber? cs with
    | some n => if 1 ≤ n && n ≤ 24 then some (function (UInt8.ofNat n)) else none
    | none => words.lookup (String.ofList cs)

def ofName? (cs : List Char) : Option Key := ofLowerName? (Text.lowercase cs)

def label : Key → String
  | char c => if c = '+' then "Plus" else String.ofList (Text.upper c)
  | enter => "Enter"
  | escape => "Escape"
  | tab => "Tab"
  | backspace => "Backspace"
  | delete => "Delete"
  | space => "Space"
  | up => "↑"
  | down => "↓"
  | left => "←"
  | right => "→"
  | home => "Home"
  | endKey => "End"
  | pageUp => "PageUp"
  | pageDown => "PageDown"
  | insert => "Insert"
  | function n => "F" ++ Nat.repr n.toNat
  | numpad d => "Num" ++ Nat.repr d.val
  | numpadAdd => "Num+"
  | numpadSubtract => "Num-"
  | numpadMultiply => "Num*"
  | numpadDivide => "Num/"
  | numpadEnter => "NumEnter"
  | numpadDecimal => "Num."

/-- The name of a key for a screen reader: arrows are spelled out. -/
def spoken : Key → String
  | up => "UpArrow"
  | down => "DownArrow"
  | left => "LeftArrow"
  | right => "RightArrow"
  | k => k.label

end Shortcuts.Key
