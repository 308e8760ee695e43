import Shortcuts.Proofs.Condition.Grammar
/-!
# What the parsers answer, production by production

The parsers of conditions carry proofs that they leave fewer tokens.  `Symbol.answer` is what they
answer without those proofs, one function for all symbols of the grammar: what is read and the tokens
after it, or the failure and the tokens that were not looked at.  It has an equation for each
production, and for each place where none applies.
-/

namespace Shortcuts.Condition

/-- A result without the proof about the tokens after it. -/
def found {α : Type} {p : List Token → Prop} (x : Except Stop (α × { rest // p rest })) :
    Except Stop (α × List Token) :=
  x.map fun y => (y.1, y.2.val)

/-- One thing after another, and the two combined. -/
def chained {α β γ : Type} (first : Except Stop (α × List Token))
    (more : List Token → Except Stop (β × List Token)) (combine : α → β → γ) :
    Except Stop (γ × List Token) :=
  first >>= fun x => more x.2 >>= fun y => .ok (combine x.1 y.1, y.2)

namespace Symbol

/-- What the parser for a symbol finds, or where it stops. -/
def answer : (s : Symbol) → List Token → Except Stop (s.Meaning × List Token)
  | or, ts => found (parseOr ts)
  | moreOr, ts => found (parseMoreOr ts)
  | and, ts => found (parseAnd ts)
  | moreAnd, ts => found (parseMoreAnd ts)
  | unary, ts => found (parseUnary ts)
  | primary, ts => found (parsePrimary ts)

variable {ts : List Token}

theorem answer_or (ts : List Token) :
    answer .or ts = chained (answer .and ts) (answer .moreOr) (combined any) := by
  simp only [answer]
  rw [parseOr]
  cases parseAnd ts with
  | error e => rfl
  | ok x =>
    show _ = found (parseMoreOr x.2.val) >>= _
    dsimp only
    cases parseMoreOr x.2.val <;> rfl

theorem answer_orNext (ts : List Token) :
    answer .moreOr (.or :: ts) = chained (answer .and ts) (answer .moreOr) List.cons := by
  simp only [answer]
  rw [parseMoreOr]
  cases parseAnd ts with
  | error e => rfl
  | ok x =>
    show _ = found (parseMoreOr x.2.val) >>= _
    dsimp only
    cases parseMoreOr x.2.val <;> rfl

theorem answer_orEnd (ends : ∀ rest, ts ≠ .or :: rest) : answer .moreOr ts = .ok ([], ts) := by
  simp only [answer]
  unfold parseMoreOr
  split
  next rest => exact absurd rfl (ends rest)
  · rfl

theorem answer_and (ts : List Token) :
    answer .and ts = chained (answer .unary ts) (answer .moreAnd) (combined all) := by
  simp only [answer]
  rw [parseAnd]
  cases parseUnary ts with
  | error e => rfl
  | ok x =>
    show _ = found (parseMoreAnd x.2.val) >>= _
    dsimp only
    cases parseMoreAnd x.2.val <;> rfl

theorem answer_andNext (ts : List Token) :
    answer .moreAnd (.and :: ts) = chained (answer .unary ts) (answer .moreAnd) List.cons := by
  simp only [answer]
  rw [parseMoreAnd]
  cases parseUnary ts with
  | error e => rfl
  | ok x =>
    show _ = found (parseMoreAnd x.2.val) >>= _
    dsimp only
    cases parseMoreAnd x.2.val <;> rfl

theorem answer_andEnd (ends : ∀ rest, ts ≠ .and :: rest) : answer .moreAnd ts = .ok ([], ts) := by
  simp only [answer]
  unfold parseMoreAnd
  split
  next rest => exact absurd rfl (ends rest)
  · rfl

theorem answer_not (ts : List Token) :
    answer .unary (.not :: ts) = answer .unary ts >>= fun x => .ok (.not x.1, x.2) := by
  simp only [answer]
  rw [parseUnary]
  cases parseUnary ts <;> rfl

theorem answer_bare (positive : ∀ rest, ts ≠ .not :: rest) :
    answer .unary ts = answer .primary ts := by
  simp only [answer]
  unfold parseUnary
  split
  next rest => exact absurd rfl (positive rest)
  · rfl

/-- What follows the condition in a group. -/
def close (x : Condition × List Token) : Except Stop (Condition × List Token) :=
  match x.2 with
  | .closeParen :: rest => .ok (x.1, rest)
  | _ :: rest => .error ⟨.noCloseParen, rest⟩
  | [] => .error ⟨.noCloseParen, []⟩

theorem answer_group (ts : List Token) :
    answer .primary (.openParen :: ts) = answer .or ts >>= close := by
  simp only [answer]
  rw [parsePrimary]
  rcases parseOr ts with e | ⟨c, rest, shorter⟩
  · rfl
  · cases rest with
    | nil => rfl
    | cons t rest => cases t <;> rfl

theorem answer_word (w : String) (ts : List Token) :
    answer .primary (.word w :: ts) =
      if w = "true" then .ok (always, ts)
      else if w = "false" then .ok (never, ts)
      else found (parseComparison w ts) := by
  simp only [answer]
  rw [parsePrimary]
  split
  · rfl
  · split
    · rfl
    · cases parseComparison w ts <;> rfl

theorem answer_unexpected {t : Token} (noGroup : t ≠ .openParen) (noWord : ∀ w, t ≠ .word w)
    (ts : List Token) : answer .primary (t :: ts) = .error ⟨.unexpectedToken, ts⟩ := by
  simp only [answer]
  rw [parsePrimary]
  · rfl
  · exact noGroup
  · exact noWord

theorem answer_nil : answer .primary [] = .error ⟨.unexpectedEnd, []⟩ := by
  simp only [answer]
  rw [parsePrimary]
  rfl

end Symbol

end Shortcuts.Condition
