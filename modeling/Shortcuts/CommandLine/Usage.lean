import Shortcuts.CommandLine.Request
/-!
# What to tell people who need help with the command line
-/

namespace Shortcuts.CommandLine

def versionLine : String := "keydispatch 0.1.0"

def usage : String := "\n".intercalate
  ["Keybinding resolution and dispatch",
    "",
    "Usage: keydispatch [OPTIONS] <COMMAND>",
    "",
    "Commands:",
    "  check <KEYMAP>         Validate a keymap file and list its rules",
    "  which <COMMAND>        Show the bindings for a command, preferred binding last",
    "  replay --script <FILE> Feed an event script through a dispatcher and print each outcome",
    "  help                   Print this message",
    "",
    "Options:",
    "  -k, --keymap <FILE>    Extra keymap layered on top of the defaults and user keymap",
    "      --no-defaults      Skip the built-in default keymap",
    "  -h, --help             Print help",
    "  -V, --version          Print version"]

/-- What is wrong with a command line; for a request for help or the version, its answer. -/
def Refusal.message : Refusal → String
  | help | nothing => usage
  | version => versionLine
  | missingAction => "error: a subcommand is required"
  | unknownAction => "error: unrecognized subcommand"
  | missingOperand => "error: a required argument is missing"
  | unknownArgument => "error: unexpected argument"
  | badValue => "error: an argument needs a value"
  | strayValue => "error: an option takes no value"
  | repeated => "error: an argument was used multiple times"

def Refusal.isAnswer : Refusal → Bool
  | help | version => true
  | _ => false

/-- The exit code of a refusal: a question that is answered is no failure. -/
def Refusal.code (r : Refusal) : Nat := if r.isAnswer then 0 else 2

end Shortcuts.CommandLine
