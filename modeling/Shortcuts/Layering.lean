import Shortcuts.Rule
/-!
# Layers of keymaps

A keymap laid over another replaces the rules that it repeats and takes away those that it names
with a minus sign in front of their command; the rest of its rules follow the older ones.
-/

namespace Shortcuts

/-- The command that a rule of a layer takes away: the part of its command after a minus sign. -/
def Rule.takesAway? (r : Rule) : Option String :=
  match r.command with
  | some command =>
    match command.toList with
    | '-' :: name => some (String.ofList name)
    | _ => none
  | none => none

/-- Whether a rule of a layer makes an older rule disappear. A rule that takes a command away
does so for its pattern, and under its condition if it has one; any other rule replaces the rules
of the same pattern and condition. -/
def Rule.displaces (u r : Rule) : Bool :=
  match u.takesAway? with
  | some command =>
    r.command == some command && r.pattern == u.pattern &&
      (u.condition.isNone || r.condition == u.condition)
  | none => r.pattern == u.pattern && r.condition == u.condition

/-- Lay one rule over a list of rules. -/
def layRule (rules : List Rule) (u : Rule) : List Rule :=
  let kept := rules.filter fun r => !u.displaces r
  match u.takesAway? with
  | some _ => kept
  | none => kept ++ [{ u with layer := .user }]

/-- Lay a keymap over a list of rules, one rule after the other. -/
def layKeymap (base layer : List Rule) : List Rule := layer.foldl layRule base

end Shortcuts
