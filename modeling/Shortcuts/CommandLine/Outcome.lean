import Shortcuts.CommandLine.Request
import Shortcuts.Script.Report
import Shortcuts.Settings
/-!
# What requests come to

`CommandLine.run` answers a request with the lines to print or with the reason why it failed. It
reads files through `Surroundings`, so it depends on nothing but its arguments.
-/

namespace Shortcuts.CommandLine

structure Surroundings where
  /-- The content of the file at a path. -/
  fileAt : String → FileContent
  settings : FileContent
  projectKeymap : FileContent
  userKeymap : FileContent

inductive Failure
  /-- The keymap to check is faulty. -/
  | faultyKeymap (path : String) (cause : KeymapError)
  /-- The keymap to lay over the others is faulty. -/
  | faultyExtra (path : String) (cause : KeymapError)
  | script (e : ScriptError)
  deriving DecidableEq

namespace Failure

def message : Failure → String
  | faultyKeymap path _ => "Invalid keymap " ++ path
  | faultyExtra path _ => "Failed to load keymap " ++ path
  | script e => e.message

def cause? : Failure → Option KeymapError
  | faultyKeymap _ e | faultyExtra _ e => some e
  | script e => e.cause?.map .pattern

def exitCode : Failure → Nat
  | script e => e.exitCode
  | _ => 1

/-- The first line that is printed about a failure. -/
def headline (f : Failure) : String :=
  match f with
  | script e => if e.isReported then "Error: " ++ e.message else e.message
  | _ => "Error: " ++ f.message

end Failure

def ruleLine (r : Rule) : String :=
  Text.padEnd 32 r.pattern.encode ++ " " ++ Text.padEnd 28 (r.command.getD "(removed)") ++ " " ++
    r.label ++
    (match r.condition with
      | some c => "  when " ++ c.text
      | none => "")

def bindingLine (r : Rule) : String :=
  Text.padEnd 32 r.pattern.encode ++ " " ++ r.label ++ "  [" ++ r.pattern.spoken ++ "]"

def check (path : String) (f : FileContent) : Except Failure (List String) :=
  match Keymap.ofFile f with
  | .ok rules =>
    .ok (rules.map ruleLine ++ [path ++ ": " ++ Nat.repr rules.length ++ " rule(s) OK"])
  | .error e => .error (.faultyKeymap path e)

def which (t : RuleTable) (command : String) : List String :=
  match t.bindingsFor command with
  | [] => [command ++ " is not bound"]
  | rules =>
    rules.map bindingLine ++ ((t.labelFor? command).map ("preferred: " ++ ·)).toList

def readScript (path : String) (f : FileContent) : Except ScriptError Script :=
  match f.text? with
  | none => .error (.unreadable path)
  | some text =>
    match Script.parse? text with
    | some script => .ok script
    | none => .error .malformed

def replay (t : RuleTable) (timing : ChordTiming) (path : String) (f : FileContent) :
    Except ScriptError (List String) := do
  let script ← readScript path f
  let (lines, calls) ← script.play t timing
  .ok (lines.map ReportLine.text ++ [Nat.repr calls.length ++ " command(s) invoked"])

def tableOf (r : Request) (settings : Settings) (s : Surroundings) : Except Failure RuleTable :=
  let rules := Keymap.layered (r.usesBuiltin settings.usesBuiltin) s.projectKeymap s.userKeymap
  match r.keymap with
  | none => .ok (.ofRules rules)
  | some path =>
    match Keymap.ofFile (s.fileAt path) with
    | .ok extra => .ok (.ofRules (layKeymap rules extra))
    | .error e => .error (.faultyExtra path e)

def run (r : Request) (s : Surroundings) : Except Failure (List String) := do
  let settings := Settings.ofFile s.settings
  match r.action with
  | .check path => check path (s.fileAt path)
  | .which command => .ok (which (← tableOf r settings s) command)
  | .replay path =>
    let table ← tableOf r settings s
    (replay table settings.chordTiming path (s.fileAt path)).mapError .script

end Shortcuts.CommandLine
