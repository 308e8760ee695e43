import Shortcuts.Binding.Basic
import Shortcuts.Binding.Error
import Shortcuts.Text.Blank
/-!
# Reading bindings

The reader of the text form of bindings and patterns. A combination is a list of modifier words
and then a key or a button, with plus signs between them; since the plus sign is a key too, a
combination may end in `++`. The words `mouse` and `selection` (or `sel`) in front, in any case,
announce clicks and drags.
-/

namespace Shortcuts

/-- The set that a list of modifier words names. -/
def Modifiers.ofWords? : List (List Char) → Option Modifiers
  | [] => some .empty
  | w :: ws =>
    match ofWord? (String.ofList (Text.lowercase w)), ofWords? ws with
    | some m, some ms => some (m.union ms)
    | _, _ => none

/-- A text without a word that it starts with in any case, and then without blanks at its ends. -/
def afterMark? (mark : String) (cs : List Char) : Option (List Char) :=
  if mark.toList.isPrefixOf (Text.lowercase cs) then some (Text.trim (cs.drop mark.length))
  else none

/-- The words of a combination in front of the last one, and the last one. -/
def splitCombo (cs : List Char) : List (List Char) × List Char :=
  if cs = ['+'] then ([], ['+'])
  else
    match cs.reverse with
    | '+' :: '+' :: head => (Text.pieces (· == '+') head.reverse, ['+'])
    | _ =>
      let ps := Text.pieces (· == '+') cs
      (ps.dropLast, ps.getLast (Text.pieces_ne_nil _ _))

/-- The modifiers of a combination and the text of its key or button. -/
def readCombo (cs : List Char) : Except PatternError (Modifiers × List Char) :=
  let (heads, last) := splitCombo cs
  if last.isEmpty then .error (.noKey (String.ofList cs))
  else
    match Modifiers.ofWords? heads with
    | some mods => .ok (mods, last)
    | none => .error (.severalKeys (String.ofList cs))

/-- Read a key stroke such as `ctrl+shift+s`. -/
def Stroke.read (cs : List Char) : Except PatternError Stroke := do
  let (mods, name) ← readCombo cs
  match Key.ofName? name with
  | some key => .ok (Stroke.ofKey key mods)
  | none => .error (.unknownKey (String.ofList name))

def readButton (cs : List Char) : Except PatternError (Modifiers × MouseButton) := do
  let (mods, name) ← readCombo cs
  match MouseButton.ofName? name with
  | some button => .ok (mods, button)
  | none => .error (.unknownButton (String.ofList name))

/-- Split a text at the last star in it. -/
def splitAtLastStar? (cs : List Char) : Option (List Char × List Char) :=
  let after := cs.reverse.takeWhile (· != '*')
  match cs.reverse.dropWhile (· != '*') with
  | [] => none
  | _ :: before => some (before.reverse, after.reverse)

/-- Read a click after its mark: a combination, then perhaps a star and a count. -/
def Click.read (cs : List Char) : Except PatternError Click := do
  match splitAtLastStar? cs with
  | none =>
    let (mods, button) ← readButton cs
    .ok (.ofCount mods button 1)
  | some (combo, count) =>
    match (Decimal.natural? Decimal.byteMax (Text.trim count)).filter (1 ≤ ·) with
    | none => .error (.badCount (String.ofList cs))
    | some n =>
      let (mods, button) ← readButton (Text.trim combo)
      .ok (.ofCount mods button n)

/-- Read a drag after its mark; `source` is the whole text that errors quote. -/
def Drag.read (source cs : List Char) : Except PatternError Drag := do
  if cs.contains '*' then .error (.countOnDrag (String.ofList source))
  else
    let (mods, button) ← readButton cs
    .ok ⟨mods, button⟩

/-- Read a binding of any kind. Blanks around it do not count. -/
def Binding.read (source : List Char) : Except PatternError Binding :=
  let cs := Text.trim source
  match afterMark? Click.mark cs with
  | some rest => .click <$> Click.read rest
  | none =>
    match (afterMark? Drag.mark cs).or (afterMark? Drag.shortMark cs) with
    | some rest => .drag <$> Drag.read source rest
    | none =>
      if 1 < (Text.words cs).length then .error (.sequence (String.ofList source))
      else .stroke <$> Stroke.read cs

def isMarked (cs : List Char) : Bool :=
  [Click.mark, Drag.mark, Drag.shortMark].any fun mark =>
    mark.toList.isPrefixOf (Text.lowercase cs)

/-- Read a pattern: one binding, or two key strokes with blanks between them. -/
def Pattern.read (source : List Char) : Except PatternError Pattern :=
  let cs := Text.trim source
  if isMarked cs then .single <$> Binding.read cs
  else
    match Text.words cs with
    | [] => .error .empty
    | [w] => .single <$> Binding.read w
    | [w₁, w₂] => do
      match ← Binding.read w₁, ← Binding.read w₂ with
      | .stroke s, .stroke t => .ok (.chord s t)
      | _, _ => .error (.mouseInChord (String.ofList source))
    | _ => .error (.tooManyParts (String.ofList source))

def Stroke.parse (text : String) : Except PatternError Stroke := Stroke.read text.toList

/-- Read a binding from a string. -/
def Binding.parse (text : String) : Except PatternError Binding := Binding.read text.toList

def Pattern.parse (text : String) : Except PatternError Pattern := Pattern.read text.toList

end Shortcuts
