/-!
# Where files are kept

The configuration directory is named by the environment: by a variable of its own, or else by the
directory for all configuration, or else by the home directory.
-/

namespace Shortcuts

structure Environment where
  /-- `KEYDISPATCH_CONFIG_DIR`. -/
  configDir : Option String
  /-- `XDG_CONFIG_HOME`. -/
  configHome : Option String
  /-- `HOME`. -/
  home : Option String

namespace Location

/-- A name inside a directory. A name that starts at the root stands alone. -/
def join (dir name : String) : String :=
  if dir.isEmpty || name.startsWith "/" then name
  else if dir.endsWith "/" then dir ++ name
  else dir ++ "/" ++ name

/-- A variable that is set to something. -/
def nonEmpty (v : Option String) : Option String := v.filter fun s => !s.isEmpty

def configDir? (env : Environment) : Option String :=
  match nonEmpty env.configDir with
  | some dir => some dir
  | none =>
    match nonEmpty env.configHome with
    | some base => some (join base "keydispatch")
    | none => (nonEmpty env.home).map fun home => join (join home ".config") "keydispatch"

def settings (dir : String) : String := join dir "config.yaml"

def keymap (dir : String) : String := join dir "keymap.yaml"

def logs (dir : String) : String := join dir "logs"

/-- The steps of a path: empty ones do not count, and neither do single dots but for one at the
start of a path that does not begin at the root. -/
def steps (path : String) : List String :=
  let parts := path.splitOn "/"
  let isRooted := path.startsWith "/"
  let start := if isRooted then ["/"] else if parts.head? == some "." then ["."] else []
  start ++ parts.filter fun p => !(p.isEmpty || p == ".")

def same (p q : String) : Bool := steps p == steps q

end Location

end Shortcuts
