import Shortcuts.Binding.Parser
import Shortcuts.Keymap.Error
import Shortcuts.Rule
import Shortcuts.Yaml.Field
/-!
# Keymap documents

A keymap is a document with a list of entries, each of which becomes a rule. The whole document
is checked for its structure before the first entry is interpreted.
-/

namespace Shortcuts

/-- The condition of an entry: one text, or several that must all hold. -/
inductive EntryCondition
  | one (text : String)
  | all (texts : List String)

structure KeymapEntry where
  key : String
  command : Option String
  condition : Option EntryCondition
  payload : Option Payload
  bubbles : Bool
  waits : Bool
  times : Option Nat
  platform : Option String

namespace KeymapEntry

/-- The platform whose entries count. -/
def platformName : String := "linux"

def condition? (n : Yaml.Node) : Option EntryCondition :=
  match n with
  | .sequence tag items =>
    if Yaml.Node.hasKnownTag tag then (items.mapM Yaml.Node.typedText?).map .all else none
  | n => n.typedText?.map .one

def ofNode? (n : Yaml.Node) : Option KeymapEntry := do
  let fields ← n.fields? ["key", "command", "when", "args", "bubble", "chord", "times", "platform"]
  let key ← (fields.lookup "key").bind (·.text?)
  let command ← Yaml.Node.optional? (·.text?) (fields.lookup "command")
  let condition ← Yaml.Node.optional? condition? (fields.lookup "when")
  let payload ← Yaml.Node.optional? (·.payload? Yaml.Node.maxDepth) (fields.lookup "args")
  let bubbles ← Yaml.Node.withDefault? (·.truth?) false (fields.lookup "bubble")
  let waits ← Yaml.Node.withDefault? (·.truth?) false (fields.lookup "chord")
  let times ← Yaml.Node.optional? (·.natural? Decimal.byteMax) (fields.lookup "times")
  let platform ← Yaml.Node.optional? (·.text?) (fields.lookup "platform")
  some ⟨key, command, condition, payload, bubbles, waits, times, platform⟩

/-- The pattern of an entry with its separate count of clicks, which fits a click without a count
of its own or with the same one. -/
def patternWithTimes (key : String) (p : Pattern) : Option Nat → Except KeymapError Pattern
  | none => .ok p
  | some n =>
    match p with
    | .single (.click c) =>
      if 1 ≤ n && (c.count == 1 || c.count == n) then
        .ok (.single (.click (.ofCount c.mods c.button n)))
      else .error (.times n key)
    | _ => .error (.times n key)

def EntryCondition.read : EntryCondition → Except ConditionError Condition
  | .one text => Condition.parse text
  | .all texts => Condition.parseAll texts

/-- The command of an entry without the blanks around it; blanks alone are no command. -/
def commandName? (command : Option String) : Option String :=
  (command.map fun c => String.ofList (Text.trim c.toList)).filter fun c => !c.isEmpty

/-- The rule of an entry. The pattern is read first, then the count of clicks, then the
condition. -/
def rule (e : KeymapEntry) : Except KeymapError Rule := do
  let pattern ← (Pattern.parse e.key).mapError .pattern
  let pattern ← patternWithTimes e.key pattern e.times
  let condition ← match e.condition with
    | none => .ok none
    | some c => (some <$> EntryCondition.read c).mapError .condition
  .ok {
    pattern := pattern
    condition := condition
    command := commandName? e.command
    payload := e.payload
    bubbles := e.bubbles
    waits := e.waits
    layer := .builtin }

def isHere (e : KeymapEntry) : Bool := e.platform.all (· == platformName)

end KeymapEntry

namespace Keymap

def entries? (n : Yaml.Node) : Option (List KeymapEntry) := do
  let fields ← n.fields? ["bindings"]
  match fields.lookup "bindings" with
  | none => some []
  | some list => (← list.items?).mapM KeymapEntry.ofNode?

/-- The rules of a list of entries, without those for other platforms; the first entry that makes
no rule is the error. -/
def rules (entries : List KeymapEntry) : Except KeymapError (List Rule) :=
  (entries.filter KeymapEntry.isHere).mapM KeymapEntry.rule

def parse (text : String) : Except KeymapError (List Rule) :=
  match (Yaml.Node.ofText? text).bind entries? with
  | none => .error .malformed
  | some entries => rules entries

end Keymap

end Shortcuts
