import Shortcuts.Condition.Basic
import Shortcuts.Text.Alphanumeric
import Shortcuts.Text.Blank
/-!
# Tokens of conditions

A condition is written with words, quoted literals, parentheses and operators; blanks separate
words and otherwise do not count. The scanner consumes characters at every step, so it ends on
every text, and it fails only at a quote without its partner or at a character that starts no
token.
-/

namespace Shortcuts.Condition

inductive Token
  | word (s : String)
  | literal (s : String)
  | and
  | or
  | not
  | compare (op : Comparison)
  | openParen
  | closeParen
  deriving DecidableEq

inductive ScanFailure
  | unterminated
  | unexpected (c : Char)
  deriving DecidableEq

def isWordChar (c : Char) : Bool :=
  Text.isAlphanumeric c || c == '_' || c == '.' || c == '-' || c == ':' || c == '/'

/-- Dropping characters never makes a text longer. -/
theorem length_dropWhile_le (p : Char → Bool) (cs : List Char) :
    (cs.dropWhile p).length ≤ cs.length :=
  (List.dropWhile_sublist p).length_le

/-- The operator or parenthesis at the start of a text, and what follows it. -/
def operator? : List Char → Option (Token × List Char)
  | '(' :: cs => some (.openParen, cs)
  | ')' :: cs => some (.closeParen, cs)
  | '&' :: '&' :: cs => some (.and, cs)
  | '|' :: '|' :: cs => some (.or, cs)
  | '=' :: '=' :: cs => some (.compare .eq, cs)
  | '!' :: '=' :: cs => some (.compare .ne, cs)
  | '!' :: cs => some (.not, cs)
  | '<' :: '=' :: cs => some (.compare .le, cs)
  | '<' :: cs => some (.compare .lt, cs)
  | '>' :: '=' :: cs => some (.compare .ge, cs)
  | '>' :: cs => some (.compare .gt, cs)
  | _ => none

/-- An operator takes at least one character. -/
theorem length_of_operator? {cs rest : List Char} {t : Token}
    (h : operator? cs = some (t, rest)) : rest.length < cs.length := by
  unfold operator? at h
  split at h <;> simp at h <;> obtain ⟨-, rfl⟩ := h <;>
    simp only [List.length_cons] <;> omega

def scan (cs : List Char) : Except ScanFailure (List Token) :=
  match cs with
  | [] => .ok []
  | c :: rest =>
    if Text.isBlank c then scan rest
    else
      match h : operator? (c :: rest) with
      | some (t, after) =>
        have := length_of_operator? h
        (t :: ·) <$> scan after
      | none =>
        if c = '\'' || c = '"' then
          match _h : rest.dropWhile (· != c) with
          | [] => .error .unterminated
          | _ :: after =>
            have := length_dropWhile_le (· != c) rest
            (.literal (String.ofList (rest.takeWhile (· != c))) :: ·) <$> scan after
        else if isWordChar c then
          have := length_dropWhile_le isWordChar rest
          (.word (String.ofList (c :: rest.takeWhile isWordChar)) :: ·) <$>
            scan (rest.dropWhile isWordChar)
        else .error (.unexpected c)
termination_by cs.length
decreasing_by
  · simp
  · exact this
  · simp_all; omega
  · simp only [List.length_cons]; omega

end Shortcuts.Condition
