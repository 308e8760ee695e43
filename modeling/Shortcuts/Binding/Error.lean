/-!
# What can be wrong with the text of a binding
-/

namespace Shortcuts

inductive PatternError
  /-- The modifiers are followed by nothing. -/
  | noKey (combo : String)
  | unknownKey (name : String)
  /-- A word in front of the last one names no modifier. -/
  | severalKeys (combo : String)
  /-- There is nothing but blanks. -/
  | empty
  | unknownButton (name : String)
  /-- What follows the star is no count of clicks. -/
  | badCount (clicks : String)
  /-- A drag has a star. -/
  | countOnDrag (text : String)
  /-- There are blanks inside what should be one binding. -/
  | sequence (text : String)
  /-- A part of a chord is no key stroke. -/
  | mouseInChord (text : String)
  | tooManyParts (text : String)
  deriving DecidableEq

inductive Fault
  | key
  | mouseButton
  | clickCount
  | chord
  | condition
  /-- A document that cannot be read as the structure it should have. -/
  | document
  /-- A file that cannot be read. -/
  | file
  deriving DecidableEq

namespace PatternError

def fault : PatternError → Fault
  | noKey _ | unknownKey _ | severalKeys _ | empty => .key
  | unknownButton _ => .mouseButton
  | badCount _ | countOnDrag _ => .clickCount
  | sequence _ | mouseInChord _ | tooManyParts _ => .chord

/-- What an error says, without the words for what it is about. -/
def detail : PatternError → String
  | noKey combo => "No key found in binding: " ++ combo
  | unknownKey name => "Unknown key: " ++ name
  | severalKeys combo => "Multiple keys in binding: " ++ combo
  | empty => "Empty binding"
  | unknownButton name => name
  | badCount clicks => clicks
  | countOnDrag text => "Selection bindings have no click count: " ++ text
  | sequence text => "Expected a single binding, got a sequence: " ++ text
  | mouseInChord text => "Only keyboard bindings can form chords: " ++ text
  | tooManyParts text => "Chords have at most two parts: " ++ text

end PatternError

end Shortcuts
