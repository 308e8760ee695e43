import Shortcuts.CommandLine.Outcome
import Shortcuts.CommandLine.Usage
import Shortcuts.Location
/-!
# The program

It looks for its files, answers the request of the command line and prints the answer.
-/

namespace Shortcuts

def readContent (path : String) : IO FileContent := do
  try
    match String.fromUTF8? (← IO.FS.readBinFile path) with
    | some text => pure (.text text)
    | none => pure .unreadable
  catch _ => pure .missing

/-- The content of a file of the configuration directory, if there is one. -/
def readConfig (file : String → String) (dir : Option String) : IO FileContent :=
  match dir with
  | some dir => readContent (file dir)
  | none => pure .missing

def CommandLine.Request.paths (r : CommandLine.Request) : List String :=
  r.keymap.toList ++
    (match r.action with
      | .check path | .replay path => [path]
      | .which _ => [])

def readSurroundings (r : CommandLine.Request) : IO CommandLine.Surroundings := do
  let dir := Location.configDir?
    ⟨← IO.getEnv "KEYDISPATCH_CONFIG_DIR", ← IO.getEnv "XDG_CONFIG_HOME", ← IO.getEnv "HOME"⟩
  let files ← r.paths.mapM fun path => do pure (path, ← readContent path)
  pure {
    fileAt := fun path => (files.lookup path).getD .missing
    settings := ← readConfig Location.settings dir
    projectKeymap := ← readContent "keymap.yaml"
    userKeymap := ← readConfig Location.keymap dir }

def complain (f : CommandLine.Failure) : IO Unit := do
  IO.eprintln f.headline
  match f.cause? with
  | some e => IO.eprintln ("\nCaused by:\n    " ++ e.message)
  | none => pure ()

/-- Read the command line, do what it asks for, and give the exit code. -/
def runProgram (args : List String) : IO UInt32 := do
  match CommandLine.parse args with
  | .error refusal =>
    (if refusal.isAnswer then IO.println else IO.eprintln) refusal.message
    pure (UInt32.ofNat refusal.code)
  | .ok request =>
    match CommandLine.run request (← readSurroundings request) with
    | .ok lines =>
      lines.forM fun line => IO.println line
      pure 0
    | .error failure =>
      complain failure
      pure (UInt32.ofNat failure.exitCode)

end Shortcuts

def main (args : List String) : IO UInt32 := Shortcuts.runProgram args
