import Shortcuts.Binding.Parser
import Shortcuts.Keymap.Error
import Shortcuts.Input
import Shortcuts.Yaml.Field
/-!
# Scripts

A script is a document that lists the inputs of a session step by step, with the context to start
from and the commands that its executor refuses.
-/

namespace Shortcuts

inductive Step
  /-- Press a key and release it. -/
  | key (text : String)
  /-- Press a key and keep it held. -/
  | hold (text : String)
  /-- A repeat of a held key. -/
  | again (text : String)
  | release (text : String)
  | click (text : String)
  /-- Begin a drag. -/
  | drag (text : String)
  /-- Finish the drag. -/
  | drop
  | cancelDrag
  /-- Let milliseconds pass. -/
  | wait (ms : Nat)
  | focus (hasFocus : Bool)
  /-- Set values of the context. -/
  | set (values : Context)
  | unset (key : String)

namespace Step

def ofWord? (w : String) : Option Step :=
  if w == "drop" then some drop else if w == "cancel_drag" then some cancelDrag else none

def ofField? (name : String) (value : Yaml.Node) : Option Step :=
  match name with
  | "key" => value.text?.map key
  | "hold" => value.text?.map hold
  | "repeat" => value.text?.map again
  | "release" => value.text?.map release
  | "click" => value.text?.map click
  | "drag" => value.text?.map drag
  | "wait" => (value.natural? Decimal.wordMax).map wait
  | "focus" => value.truth?.map focus
  | "set" => value.context?.map set
  | "unset" => value.text?.map unset
  | _ => none

def ofNode? : Yaml.Node → Option Step
  | .mapping tag [(name, value)] =>
    if Yaml.Node.hasKnownTag tag then name.text?.bind fun name => ofField? name value else none
  | .mapping _ _ => none
  | n => n.typedText?.bind ofWord?

def label : Step → String
  | key text => "key " ++ text
  | hold text => "hold " ++ text
  | again text => "repeat " ++ text
  | release text => "release " ++ text
  | click text => "click " ++ text
  | drag text => "drag " ++ text
  | drop => "drop"
  | cancelDrag => "cancel drag"
  | wait ms => "wait " ++ Nat.repr ms ++ "ms"
  | focus hasFocus => "focus " ++ (if hasFocus then "true" else "false")
  | set _ => "set context"
  | unset name => "unset " ++ name

end Step

structure Script where
  context : Context
  /-- The commands that the executor refuses. -/
  refused : List String
  tracksRelease : Bool
  steps : List Step

def Script.ofNode? (n : Yaml.Node) : Option Script := do
  let fields ← n.fields? ["context", "fail", "track_key_up", "steps"]
  let context ← Yaml.Node.withDefault? (·.context?) .empty (fields.lookup "context")
  let refused ← Yaml.Node.withDefault? (·.texts?) [] (fields.lookup "fail")
  let tracksRelease ← Yaml.Node.withDefault? (·.truth?) true (fields.lookup "track_key_up")
  let steps ← (fields.lookup "steps").bind (·.items?)
  let steps ← steps.mapM Step.ofNode?
  some ⟨context, refused, tracksRelease, steps⟩

def Script.parse? (text : String) : Option Script := (Yaml.Node.ofText? text).bind ofNode?

inductive ScriptError
  | unreadable (path : String)
  | malformed
  | badKey (text : String) (cause : PatternError)
  | badClick (text : String) (cause : PatternError)
  | badDrag (text : String) (cause : PatternError)
  /-- The text of a click is some other binding. -/
  | noClick (b : Binding)
  /-- The text of a drag is some other binding. -/
  | noDrag (b : Binding)
  /-- The clock cannot hold a time that is needed. The script does not fail: the program is
  aborted. -/
  | overflow
  /-- The checks on a chord do not advance. The script does not fail: the program goes on forever. -/
  | endless
  deriving DecidableEq

namespace ScriptError

def message : ScriptError → String
  | unreadable path => "Failed to read replay script " ++ path
  | malformed => "Failed to parse replay script"
  | badKey text _ => "Bad key in script: " ++ text
  | badClick text _ => "Bad click in script: " ++ text
  | badDrag text _ => "Bad drag in script: " ++ text
  | noClick b => "Expected a click, got " ++ b.encode
  | noDrag b => "Expected a drag, got " ++ b.encode
  | overflow => "overflow when adding duration to instant"
  | endless => "The checks on a chord never end"

/-- Whether the program goes on to report the error. -/
def isReported : ScriptError → Bool
  | overflow | endless => false
  | _ => true

/-- The exit code of the program; one that is aborted has another than one that reports an error. -/
def exitCode (e : ScriptError) : Nat := if e.isReported then 1 else 101

/-- What is wrong with the binding in the script, if that is the cause. -/
def cause? : ScriptError → Option PatternError
  | badKey _ e | badClick _ e | badDrag _ e => some e
  | _ => none

end ScriptError

namespace Step

def keyEvent (text : String) : Except ScriptError KeyEvent :=
  match Stroke.parse text with
  | .ok s => .ok (.press s.key s.mods)
  | .error e => .error (.badKey text e)

/-- The text of a binding with the mark of its kind in front, unless it has a mark already. -/
def marked (mark text : String) : List Char :=
  let cs := Text.trim text.toList
  if isMarked cs then cs else mark.toList ++ cs

def clickOf (text : String) : Except ScriptError Click :=
  match Binding.read (marked Click.mark text) with
  | .ok (.click c) => .ok c
  | .ok b => .error (.noClick b)
  | .error e => .error (.badClick text e)

def dragOf (text : String) : Except ScriptError Drag :=
  match Binding.read (marked Drag.mark text) with
  | .ok (.drag d) => .ok d
  | .ok b => .error (.noDrag b)
  | .error e => .error (.badDrag text e)

end Step

end Shortcuts
