import Shortcuts.Condition.Token
/-!
# The grammar of conditions

```text
or      := and ("||" and)*
and     := unary ("&&" unary)*
unary   := "!" unary | primary
primary := "(" or ")" | "true" | "false" | word [comparison (word | literal)]
```

Each parser returns a condition and the tokens that it left, which are always fewer than it was
given; that is why the descent ends on every list of tokens.
-/

namespace Shortcuts.Condition

inductive ParseFailure
  | trailing
  | noCloseParen
  | noValue
  | unexpectedToken
  | unexpectedEnd
  deriving DecidableEq

/-- A failure, and the tokens that were not looked at before it. -/
structure Stop where
  failure : ParseFailure
  unread : List Token

/-- A condition and the tokens after it, of which there are fewer than in `ts`. -/
abbrev Parsed (ts : List Token) :=
  Except Stop (Condition × { rest : List Token // rest.length < ts.length })

/-- Further conditions and the tokens after them, of which there are no more than in `ts`. -/
abbrev ParsedMore (ts : List Token) :=
  Except Stop (List Condition × { rest : List Token // rest.length ≤ ts.length })

def combined (combine : List Condition → Condition) : Condition → List Condition → Condition
  | c, [] => c
  | c, cs => combine (c :: cs)

/-- What may follow a word in key position: a comparison with a value, or nothing that matters. -/
def parseComparison (key : String) (ts : List Token) :
    Except Stop (Condition × { rest : List Token // rest.length ≤ ts.length }) :=
  match ts with
  | .compare op :: .word value :: rest => .ok (.compare key op value, ⟨rest, by simp; omega⟩)
  | .compare op :: .literal value :: rest => .ok (.compare key op value, ⟨rest, by simp; omega⟩)
  | .compare _ :: _ :: rest => .error ⟨.noValue, rest⟩
  | .compare _ :: [] => .error ⟨.noValue, []⟩
  | ts => .ok (.has key, ⟨ts, by simp⟩)

mutual
def parseOr (ts : List Token) : Parsed ts :=
  match parseAnd ts with
  | .error e => .error e
  | .ok (c, rest) =>
    match parseMoreOr rest.val with
    | .error e => .error e
    | .ok (cs, rest') =>
      .ok (combined any c cs, ⟨rest'.val, by have := rest.property; have := rest'.property; omega⟩)
termination_by (ts.length, 5)

def parseMoreOr (ts : List Token) : ParsedMore ts :=
  match ts with
  | .or :: ts =>
    match parseAnd ts with
    | .error e => .error e
    | .ok (c, rest) =>
      match parseMoreOr rest.val with
      | .error e => .error e
      | .ok (cs, rest') =>
        .ok (c :: cs, ⟨rest'.val, by
          have := rest.property; have := rest'.property; simp only [List.length_cons]; omega⟩)
  | ts => .ok ([], ⟨ts, by simp⟩)
termination_by (ts.length, 4)
decreasing_by
  · simp_wf; omega
  · have := rest.property; simp_wf; omega

def parseAnd (ts : List Token) : Parsed ts :=
  match parseUnary ts with
  | .error e => .error e
  | .ok (c, rest) =>
    match parseMoreAnd rest.val with
    | .error e => .error e
    | .ok (cs, rest') =>
      .ok (combined all c cs, ⟨rest'.val, by have := rest.property; have := rest'.property; omega⟩)
termination_by (ts.length, 3)

def parseMoreAnd (ts : List Token) : ParsedMore ts :=
  match ts with
  | .and :: ts =>
    match parseUnary ts with
    | .error e => .error e
    | .ok (c, rest) =>
      match parseMoreAnd rest.val with
      | .error e => .error e
      | .ok (cs, rest') =>
        .ok (c :: cs, ⟨rest'.val, by
          have := rest.property; have := rest'.property; simp only [List.length_cons]; omega⟩)
  | ts => .ok ([], ⟨ts, by simp⟩)
termination_by (ts.length, 2)
decreasing_by
  · simp_wf; omega
  · have := rest.property; simp_wf; omega

def parseUnary (ts : List Token) : Parsed ts :=
  match ts with
  | .not :: ts =>
    match parseUnary ts with
    | .error e => .error e
    | .ok (c, rest) =>
      .ok (.not c, ⟨rest.val, by have := rest.property; simp only [List.length_cons]; omega⟩)
  | ts => parsePrimary ts
termination_by (ts.length, 1)

/-- A condition in parentheses, a constant, or a name with or without a comparison. -/
def parsePrimary (ts : List Token) : Parsed ts :=
  match ts with
  | [] => .error ⟨.unexpectedEnd, []⟩
  | .openParen :: ts =>
    match parseOr ts with
    | .error e => .error e
    | .ok (c, ⟨.closeParen :: rest, h⟩) =>
      .ok (c, ⟨rest, by simp only [List.length_cons] at h ⊢; omega⟩)
    | .ok (_, ⟨_ :: rest, _⟩) => .error ⟨.noCloseParen, rest⟩
    | .ok (_, ⟨[], _⟩) => .error ⟨.noCloseParen, []⟩
  | .word w :: ts =>
    if w = "true" then .ok (always, ⟨ts, by simp⟩)
    else if w = "false" then .ok (never, ⟨ts, by simp⟩)
    else
      match parseComparison w ts with
      | .error e => .error e
      | .ok (c, rest) =>
        .ok (c, ⟨rest.val, by have := rest.property; simp only [List.length_cons]; omega⟩)
  | _ :: rest => .error ⟨.unexpectedToken, rest⟩
termination_by (ts.length, 0)
end

def ofTokens (ts : List Token) : Except ParseFailure Condition :=
  match parseOr ts with
  | .error e => .error e.failure
  | .ok (c, ⟨[], _⟩) => .ok c
  | .ok (_, ⟨_ :: _, _⟩) => .error .trailing

inductive Problem
  | scan (f : ScanFailure)
  | parse (f : ParseFailure)
  deriving DecidableEq

end Condition

structure ConditionError where
  problem : Condition.Problem
  source : String
  deriving DecidableEq

/-- What an error says, without the words for what it is about. -/
def ConditionError.detail (e : ConditionError) : String :=
  let what := match e.problem with
    | .scan .unterminated => "unterminated string"
    | .scan (.unexpected c) => "unexpected '" ++ String.singleton c ++ "'"
    | .parse .trailing => "unexpected trailing input"
    | .parse .noCloseParen => "missing ')'"
    | .parse .noValue => "expected a value after comparison"
    | .parse .unexpectedToken => "unexpected token"
    | .parse .unexpectedEnd => "unexpected end of expression"
  what ++ " in '" ++ e.source ++ "'"

namespace Condition

def read (cs : List Char) : Except Problem Condition :=
  match scan cs with
  | .error f => .error (.scan f)
  | .ok ts =>
    match ofTokens ts with
    | .error f => .error (.parse f)
    | .ok c => .ok c

def parse (text : String) : Except ConditionError Condition :=
  (read text.toList).mapError (⟨·, text⟩)

/-- Read a list of conditions that must all hold; the first text that is no condition is the
error. -/
def parseAll (texts : List String) : Except ConditionError Condition := do
  match ← texts.mapM parse with
  | [] => .ok always
  | [c] => .ok c
  | cs => .ok (all cs)

end Condition

end Shortcuts
