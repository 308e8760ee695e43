import Shortcuts.Yaml.Scalar
/-!
# Tags

A tag names the sort of a node. Most tags are written in short: a handle, which a directive of the
document explains, and the rest of the name. A name may also stand in full between angle brackets.

Escapes stand for single bytes, so a tag is a list of bytes and need not be a text. A zero byte
ends it.
-/

namespace Shortcuts.Yaml

/-- The bytes of a text. -/
def bytesOf (s : String) : List UInt8 := s.toUTF8.toList

structure Tag where
  bytes : List UInt8
  deriving DecidableEq

/-- A tag as it is written. Without a handle it is written in full. -/
structure ShortTag where
  handle : String
  suffix : List UInt8
  deriving DecidableEq

/-- What handles stand for. -/
abbrev Handles := List (String × List UInt8)

/-- The handles that need no directive: one mark for the document's own tags, two for those of the
language itself. -/
def Handles.standard : Handles :=
  [("!", bytesOf "!"), ("!!", bytesOf "tag:yaml.org,2002:")]

def ShortTag.expand? (t : ShortTag) (handles : Handles) : Option Tag :=
  if t.handle.isEmpty then some ⟨t.suffix⟩
  else (handles.lookup t.handle).map fun stem => ⟨stem ++ t.suffix⟩

theorem ShortTag.expand?_full (bytes : List UInt8) (handles : Handles) :
    (ShortTag.mk "" bytes).expand? handles = some ⟨bytes⟩ := by
  simp [expand?]

namespace Tag

def core (sort : String) : Tag := ⟨bytesOf ("tag:yaml.org,2002:" ++ sort)⟩

/-- Whether a tag belongs to its document. -/
def isLocal (t : Tag) : Bool := t.bytes.head? == some 0x21

/-- Whether a tag names a sort of the document's own. The name has to be a text. -/
def isCustom (t : Tag) : Bool := t.isLocal && (String.fromUTF8? ⟨t.bytes.toArray⟩).isSome

end Tag

/-! ## Reading -/

/-- Whether a character may stand in a tag; more of them may in a name that stands in full. -/
def isTagChar (isFull : Bool) (x : Char) : Bool :=
  x.isAlphanum || "_-;/?:@&=+$.!~*'()".toList.contains x ||
    (isFull && (x == ',' || x == '[' || x == ']'))

/-- Whether a character may stand between the marks of a handle. -/
def isHandleChar (x : Char) : Bool := x.isAlphanum || x == '_' || x == '-'

def hexByte? (a b : Char) : Option UInt8 :=
  match hexDigit? a, hexDigit? b with
  | some x, some y => some (UInt8.ofNat (16 * x + y))
  | _, _ => none

def trailingBytes? (b : UInt8) : Option Nat :=
  if b < 0x80 then some 0
  else if 0xc0 ≤ b && b < 0xe0 then some 1
  else if 0xe0 ≤ b && b < 0xf0 then some 2
  else if 0xf0 ≤ b && b < 0xf8 then some 3
  else none

/-- The bytes of a name and the text behind it. Of a character that is begun with an escape, `owed`
more bytes have to be escaped. -/
def readName (isFull : Bool) (owed : Nat) : List Char → Option (List UInt8 × List Char)
  | '%' :: a :: b :: rest => do
    let byte ← hexByte? a b
    let owed ← if owed = 0 then trailingBytes? byte
      else if 0x80 ≤ byte && byte < 0xc0 then some (owed - 1)
      else none
    let (bytes, rest) ← readName isFull owed rest
    some (byte :: bytes, rest)
  | x :: rest =>
    if x == '%' || owed ≠ 0 then none
    else if isTagChar isFull x then
      (readName isFull 0 rest).map fun (bytes, rest) => (UInt8.ofNat x.toNat :: bytes, rest)
    else some ([], x :: rest)
  | [] => if owed = 0 then some ([], []) else none

/-- A name that must not be empty, up to its first zero byte. -/
def readFullName (isFull : Bool) (cs : List Char) : Option (List UInt8 × List Char) :=
  match readName isFull 0 cs with
  | none | some ([], _) => none
  | some (bytes, rest) => some (bytes.takeWhile (· != 0), rest)

/-- A handle of two marks from behind its first mark, and the text behind it. -/
def readHandle? (cs : List Char) : Option (String × List Char) :=
  match cs.dropWhile isHandleChar with
  | '!' :: rest => some (String.ofList ('!' :: cs.takeWhile isHandleChar ++ ['!']), rest)
  | _ => none

/-- A tag from behind its first mark, and the text behind it. The mark alone is a tag in full. -/
def ShortTag.read? : List Char → Option (ShortTag × List Char)
  | '<' :: cs =>
    match readFullName true cs with
    | some (bytes, '>' :: rest) => some (⟨"", bytes⟩, rest)
    | _ => none
  | cs =>
    match readHandle? cs with
    | some (handle, rest) =>
      (readFullName false rest).map fun (bytes, rest) => (⟨handle, bytes⟩, rest)
    | none =>
      (readName false 0 cs).map fun (bytes, rest) =>
        match bytes.takeWhile (· != 0) with
        | [] => (⟨"", bytesOf "!"⟩, rest)
        | bytes => (⟨"!", bytes⟩, rest)

end Shortcuts.Yaml
