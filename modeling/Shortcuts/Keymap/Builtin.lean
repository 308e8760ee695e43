import Shortcuts.Keymap.Document
/-!
# The keymap that is built in

The text of the keymap that is loaded before all others, and a short list of rules to fall back on
if that text could not be read.
-/

namespace Shortcuts.Keymap

def builtinLines : List String := [
  "# Default keymap",
  "#",
  "# Each entry binds a dispatch pattern to a command id:",
  "#   key:      \"[mouse |selection ][ctrl+][shift+][alt+][meta+]<key-or-button>\"",
  "#             two keyboard parts separated by a space form a chord",
  "#   command:  command id; omit (or ~) to remove the binding",
  "#   when:     context expression, or a list of expressions that must all hold",
  "#   args:     payload handed to the command",
  "#   bubble:   keep the host's default handling even when matched",
  "#   chord:    wait for a second key when this key also starts chord bindings",
  "#   times:    click count for mouse bindings",
  "#   platform: macos | windows | linux",
  "#",
  "# \"cmd\" is Cmd on macOS and Ctrl elsewhere.",
  "",
  "bindings:",
  "  # File",
  "  - key: \"cmd+s\"",
  "    command: file.save",
  "  - key: \"cmd+shift+s\"",
  "    command: file.saveAs",
  "  - key: \"cmd+o\"",
  "    command: file.open",
  "  - key: \"cmd+n\"",
  "    command: file.new",
  "",
  "  # Chords",
  "  - key: \"cmd+k cmd+s\"",
  "    command: file.saveAll",
  "  - key: \"cmd+k cmd+w\"",
  "    command: editor.closeAll",
  "  - key: \"cmd+k cmd+c\"",
  "    command: editor.commentLine",
  "    when: \"editorFocus && !readonly\"",
  "  - key: \"cmd+k cmd+u\"",
  "    command: editor.uncommentLine",
  "    when: \"editorFocus && !readonly\"",
  "",
  "  # Clipboard",
  "  - key: \"cmd+c\"",
  "    command: clipboard.copy",
  "  - key: \"cmd+x\"",
  "    command: clipboard.cut",
  "    when: \"!readonly\"",
  "  - key: \"cmd+v\"",
  "    command: clipboard.paste",
  "    when: \"!readonly\"",
  "",
  "  # Undo/Redo",
  "  - key: \"cmd+z\"",
  "    command: edit.undo",
  "  - key: \"cmd+shift+z\"",
  "    command: edit.redo",
  "",
  "  # Editing",
  "  - key: \"tab\"",
  "    command: edit.insertTab",
  "    when: \"editorFocus && !hasSelection\"",
  "  - key: \"tab\"",
  "    command: edit.indentLines",
  "    when: \"editorFocus && hasSelection\"",
  "  - key: \"shift+tab\"",
  "    command: edit.unindentLines",
  "    when: editorFocus",
  "  - key: \"escape\"",
  "    command: editor.clearSelection",
  "    when: \"hasSelection || cursorCount > 1\"",
  "    bubble: true",
  "",
  "  # Navigation",
  "  - key: \"cmd+g\"",
  "    command: editor.gotoLine",
  "  - key: \"f12\"",
  "    command: editor.gotoDefinition",
  "    when: editorFocus",
  "",
  "  # Mouse",
  "  - key: \"mouse LMB\"",
  "    times: 2",
  "    command: editor.selectWord",
  "    when: editorFocus",
  "  - key: \"mouse LMB\"",
  "    times: 3",
  "    command: editor.selectLine",
  "    when: editorFocus",
  "  - key: \"mouse alt+LMB\"",
  "    command: editor.addCursor",
  "    when: editorFocus",
  "  - key: \"mouse cmd+LMB\"",
  "    command: editor.gotoDefinition",
  "    when: editorFocus",
  "",
  "  # Drag selection",
  "  - key: \"selection alt+shift+LMB\"",
  "    command: editor.columnSelect",
  "    when: editorFocus",
  "  - key: \"selection cmd+LMB\"",
  "    command: editor.addSelection",
  "    when: editorFocus",
  ""]

def builtinText : String := String.intercalate "\n" builtinLines

def charRule (c : Char) (mods : Modifiers) (command : String) : Rule :=
  .run (.single (.stroke (.ofKey (.char c) mods))) command

def fallbackRules : List Rule :=
  let cmd := Modifiers.command
  let cmdShift := cmd.union .onlyShift
  [charRule 's' cmd "file.save",
    charRule 's' cmdShift "file.saveAs",
    charRule 'o' cmd "file.open",
    .run (.chord (.ofKey (.char 'k') cmd) (.ofKey (.char 's') cmd)) "file.saveAll",
    charRule 'c' cmd "clipboard.copy",
    charRule 'x' cmd "clipboard.cut",
    charRule 'v' cmd "clipboard.paste",
    charRule 'z' cmd "edit.undo",
    charRule 'z' cmdShift "edit.redo"]

/-- The rules of the keymap that is built in. -/
def builtinRules : List Rule :=
  match parse builtinText with
  | .ok rules => rules
  | .error _ => fallbackRules

end Shortcuts.Keymap
