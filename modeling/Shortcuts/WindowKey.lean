import Shortcuts.Input
/-!
# Keys as window systems report them

A window system says of a key what it means in the layout in use and where on the keyboard it is,
both in the names of the standard for keyboard events. `WindowKey.key?` finds the key that bindings
use. The numeric pad goes by its place, so that its digits stay apart from the digits above the
letters; every other key goes by its meaning.
-/

namespace Shortcuts

inductive KeyMeaning
  /-- The key types a text. -/
  | types (text : String)
  /-- The key has a name, such as `ArrowUp`. -/
  | named (name : String)
  /-- A dead key, or one that the window system cannot tell. -/
  | unclear
  deriving DecidableEq

inductive KeyPlace
  | named (name : String)
  /-- A place without a name, with the number that the system gives it. -/
  | numbered (n : Nat)
  | unclear
  deriving DecidableEq

/-- The keys of the numeric pad, by the names of their places. -/
def KeyPlace.numericPad : List (String × Key) :=
  ((List.finRange 10).map fun d => ("Numpad" ++ Nat.repr d.val, .numpad d)) ++
    [("NumpadAdd", .numpadAdd), ("NumpadSubtract", .numpadSubtract),
      ("NumpadMultiply", .numpadMultiply), ("NumpadDivide", .numpadDivide),
      ("NumpadEnter", .numpadEnter), ("NumpadDecimal", .numpadDecimal)]

def KeyPlace.key? : KeyPlace → Option Key
  | named name => numericPad.lookup name
  | numbered _ | unclear => none

def KeyMeaning.namedKeys : List (String × Key) :=
  [("Enter", .enter), ("Escape", .escape), ("Tab", .tab), ("Backspace", .backspace),
    ("Delete", .delete), ("Space", .space), ("ArrowUp", .up), ("ArrowDown", .down),
    ("ArrowLeft", .left), ("ArrowRight", .right), ("Home", .home), ("End", .endKey),
    ("PageUp", .pageUp), ("PageDown", .pageDown), ("Insert", .insert)]

def KeyMeaning.functionKeys : List (String × Key) :=
  (List.range 24).map fun i => ("F" ++ Nat.repr (i + 1), .function (UInt8.ofNat (i + 1)))

/-- The key with a meaning: a text means its first character. -/
def KeyMeaning.key? : KeyMeaning → Option Key
  | types text => text.toList.head?.map .char
  | named name => (namedKeys ++ functionKeys).lookup name
  | unclear => none

structure WindowKey where
  meaning : KeyMeaning
  place : KeyPlace

namespace WindowKey

/-- The key that bindings use; modifiers alone, for instance, have none. -/
def key? (k : WindowKey) : Option Key :=
  (k.place.key?.or k.meaning.key?).map Key.normalized

/-- The event of a key that bindings can use. Its physical number is what `number` makes of the
place, so a press and its release belong together whatever the layout made of them. -/
def event? (number : KeyPlace → Nat) (k : WindowKey) (mods : Modifiers) (isRepeat : Bool) :
    Option KeyEvent :=
  k.key?.map fun key => ⟨key, mods, isRepeat, some (number k.place)⟩

end WindowKey

/-- The button that a window system names, if bindings can use it. -/
def MouseButton.ofWindowName? (name : String) : Option MouseButton :=
  [("Left", left), ("Middle", middle), ("Right", right)].lookup name

end Shortcuts
