import Shortcuts.Condition.Parser
/-!
# The canonical text of a condition

`text` writes a condition with as few parentheses as reading it back needs, single blanks around
operators, and quotes around every literal that is neither a numeral nor a truth value.
-/

namespace Shortcuts.Condition

def isBare (value : String) : Bool :=
  Decimal.isNumeral value.toList || value == "true" || value == "false"

def literalText (value : String) : String :=
  if isBare value then value else "'" ++ value ++ "'"

def parenthesized (s : String) : String := "(" ++ s ++ ")"

def wrapsUnderNot : Condition → Bool
  | all _ | any _ | compare _ _ _ => true
  | _ => false

def wrapsInAll : Condition → Bool
  | any _ => true
  | _ => false

mutual
def text : Condition → String
  | always => "true"
  | never => "false"
  | has key => key
  | compare key op value => key ++ " " ++ op.symbol ++ " " ++ literalText value
  | not c => "!" ++ (if c.wrapsUnderNot then parenthesized c.text else c.text)
  | all cs => String.intercalate " && " (allTexts cs)
  | any cs => String.intercalate " || " (anyTexts cs)

def allTexts : List Condition → List String
  | [] => []
  | c :: cs => (if c.wrapsInAll then parenthesized c.text else c.text) :: allTexts cs

def anyTexts : List Condition → List String
  | [] => []
  | c :: cs => c.text :: anyTexts cs
end

end Shortcuts.Condition
