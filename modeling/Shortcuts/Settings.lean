import Shortcuts.Chord
import Shortcuts.Keymap.Layers
/-!
# Settings

The settings that persist between sessions. A file that cannot be read as settings counts as none.
-/

namespace Shortcuts

structure Settings where
  /-- How many milliseconds a chord waits for its second key. -/
  chordTimeout : Nat
  /-- How many milliseconds pass between two checks on a chord. -/
  chordTick : Nat
  /-- Load the built-in keymap before all others. -/
  usesBuiltin : Bool
  deriving DecidableEq

namespace Settings

def standard : Settings := ⟨ChordTiming.standard.timeout, ChordTiming.standard.tick, true⟩

def ofNode? (n : Yaml.Node) : Option Settings := do
  let fields ← n.fields? ["chord_timeout_ms", "chord_tick_ms", "default_keymap"]
  let timeout ← Yaml.Node.withDefault? (·.natural? Decimal.wordMax) standard.chordTimeout
    (fields.lookup "chord_timeout_ms")
  let tick ← Yaml.Node.withDefault? (·.natural? Decimal.wordMax) standard.chordTick
    (fields.lookup "chord_tick_ms")
  let builtin ← Yaml.Node.withDefault? (·.truth?) standard.usesBuiltin
    (fields.lookup "default_keymap")
  some ⟨timeout, tick, builtin⟩

/-- The settings of a file; the standard ones if it holds none. -/
def ofFile (f : FileContent) : Settings :=
  ((f.text?.bind Yaml.Node.ofText?).bind ofNode?).getD standard

def text (s : Settings) : String :=
  "chord_timeout_ms: " ++ Nat.repr s.chordTimeout ++ "\nchord_tick_ms: " ++ Nat.repr s.chordTick ++
    "\ndefault_keymap: " ++ (if s.usesBuiltin then "true" else "false") ++ "\n"

/-- The timing of chords in milliseconds; there is always some time between two checks. -/
def chordTiming (s : Settings) : ChordTiming := ⟨s.chordTimeout, max 1 s.chordTick⟩

end Settings

end Shortcuts
