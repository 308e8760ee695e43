/-!
# Columns of text

Texts padded with spaces to a width counted in characters; a text that is too long stays whole.
-/

namespace Shortcuts.Text

def padEnd (width : Nat) (s : String) : String :=
  s ++ String.ofList (List.replicate (width - s.length) ' ')

def padStart (width : Nat) (s : String) : String :=
  String.ofList (List.replicate (width - s.length) ' ') ++ s

end Shortcuts.Text
