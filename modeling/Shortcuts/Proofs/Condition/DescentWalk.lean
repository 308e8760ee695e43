import Shortcuts.Proofs.Condition.Descent
import Shortcuts.Proofs.Condition.ScanWalk
/-!
# The descent as a walk

The parsers of conditions take tokens off a list, and carry proofs that fewer are left.  Here they
are walks along the list without such proofs: four functions that call one another, two of which hold
a loop, on one cursor.  What makes them end is that the cursor moves forward before a parser of the
same or a higher level is called (`Symbol.walk_ends`); they find what the parsers find.  A failure
may leave the cursor one place past the end, because looking for a token at the end moves it too.
-/

namespace Shortcuts.Condition

open Walk

/-! ## The descent -/

/-- What may follow a word in key position. -/
def walkComparison (key : String) : Walk Token ParseFailure Condition := do
  match ← peek with
  | some (.compare op) =>
    skip 1
    match ← advance with
    | some (.word value) => return .compare key op value
    | some (.literal value) => return .compare key op value
    | _ => throw .noValue
  | _ => return .has key

mutual
def walkOr : Nat → Walk Token ParseFailure Condition
  | 0 => giveUp
  | n + 1 => do
    let c ← walkAnd n
    let cs ← walkMoreOr n
    return combined any c cs

/-- The loop of `walkOr`. -/
def walkMoreOr : Nat → Walk Token ParseFailure (List Condition)
  | 0 => giveUp
  | n + 1 => do
    if (← peek) = some .or then
      skip 1
      let c ← walkAnd n
      let cs ← walkMoreOr n
      return c :: cs
    else return []

def walkAnd : Nat → Walk Token ParseFailure Condition
  | 0 => giveUp
  | n + 1 => do
    let c ← walkUnary n
    let cs ← walkMoreAnd n
    return combined all c cs

/-- The loop of `walkAnd`. -/
def walkMoreAnd : Nat → Walk Token ParseFailure (List Condition)
  | 0 => giveUp
  | n + 1 => do
    if (← peek) = some .and then
      skip 1
      let c ← walkUnary n
      let cs ← walkMoreAnd n
      return c :: cs
    else return []

def walkUnary : Nat → Walk Token ParseFailure Condition
  | 0 => giveUp
  | n + 1 => do
    if (← peek) = some .not then
      skip 1
      let c ← walkUnary n
      return .not c
    else walkPrimary n

def walkPrimary : Nat → Walk Token ParseFailure Condition
  | 0 => giveUp
  | n + 1 => do
    match ← advance with
    | some .openParen =>
      let c ← walkOr n
      match ← advance with
      | some .closeParen => return c
      | _ => throw .noCloseParen
    | some (.word w) =>
      if w = "true" then return always
      else if w = "false" then return never
      else walkComparison w
    | some _ => throw .unexpectedToken
    | none => throw .unexpectedEnd
end

/-! ## Walk and parser -/

/-- A walk along tokens has found what a parser finds in the tokens that were left, and the cursor
stands at the tokens that the parser leaves, not before a given place.  After a failure it may be one
place past the end. -/
def Fits {α : Type} (ts : List Token) (least : Nat) (answer : Except Stop (α × List Token)) :
    Except ParseFailure α → Nat → Prop
  | .ok a, last => least ≤ last ∧ last ≤ ts.length ∧ answer = .ok (a, ts.drop last)
  | .error f, last => least ≤ last ∧ last ≤ ts.length + 1 ∧ answer = .error ⟨f, ts.drop last⟩

section

variable {α β γ : Type} {ts : List Token} {pos least middle calls : Nat}

theorem ends_bind {w : Nat → Walk Token ParseFailure α} {f : Nat → α → Walk Token ParseFailure β}
    {answer : Except Stop (α × List Token)} {more : α × List Token → Except Stop (β × List Token)}
    (first : Ends w calls ts pos (Fits ts middle answer)) (le : least ≤ middle)
    (goesOn : ∀ a last, middle ≤ last → last ≤ ts.length →
      Ends (fun n => f n a) calls ts last (Fits ts least (more (a, ts.drop last)))) :
    Ends (fun n => w n >>= f n) calls ts pos (Fits ts least (answer >>= more)) := by
  refine first.bind ?_ ?_
  · rintro e last ⟨after, atMost, rfl⟩
    exact ⟨Nat.le_trans le after, atMost, rfl⟩
  · rintro a last ⟨after, within, rfl⟩
    exact goesOn a last after within

/-- Two parts one after the other: the second is walked from wherever the first has moved to. -/
theorem chained_ends {first : Nat → Walk Token ParseFailure α}
    {more : Nat → Walk Token ParseFailure β} {answer : Except Stop (α × List Token)}
    {answerMore : List Token → Except Stop (β × List Token)}
    (head : Ends first calls ts pos (Fits ts middle answer)) (forward : pos < middle)
    (tail : ∀ last, pos < last → last ≤ ts.length →
      Ends more calls ts last (Fits ts last (answerMore (ts.drop last))))
    (combine : α → β → γ) (le : least ≤ middle) :
    Ends (fun n => first n >>= fun a => more n >>= fun b => pure (combine a b)) calls ts pos
      (Fits ts least (chained answer answerMore combine)) := by
  refine ends_bind head le fun a last after fits => ?_
  have later : pos < last := Nat.lt_of_lt_of_le forward after
  have kept : least ≤ last := Nat.le_trans le after
  refine ends_bind (tail last later fits) kept fun b last' after' fits' => ?_
  exact .pure ⟨Nat.le_trans kept after', fits', rfl⟩

/-- A loop: as long as a separator stands at the cursor, a part is walked behind it. -/
theorem loop_ends {separator : Token} {part : Nat → Walk Token ParseFailure Condition}
    {more : Nat → Walk Token ParseFailure (List Condition)}
    {answerPart : List Token → Except Stop (Condition × List Token)}
    {answer : List Token → Except Stop (List Condition × List Token)}
    (next : ∀ ts, answer (separator :: ts) = chained (answerPart ts) answer List.cons)
    (stop : ∀ ts, (∀ rest, ts ≠ separator :: rest) → answer ts = .ok ([], ts))
    (within : pos ≤ ts.length)
    (head : pos + 1 ≤ ts.length →
      Ends part calls ts (pos + 1) (Fits ts (pos + 1 + 1) (answerPart (ts.drop (pos + 1)))))
    (tail : ∀ last, pos + 1 < last → last ≤ ts.length →
      Ends more calls ts last (Fits ts last (answer (ts.drop last)))) :
    Ends (fun n => do
      if (← peek) = some separator then
        skip 1
        let c ← part n
        let cs ← more n
        return c :: cs
      else return []) calls ts pos (Fits ts pos (answer (ts.drop pos))) := by
  rw [ends_peek_bind]
  by_cases starts : ts[pos]? = some separator
  · obtain ⟨below, left⟩ := drop_of_getElem?_eq_some starts
    simp only [if_pos starts]
    rw [ends_skip_bind, left, next]
    exact chained_ends (head below) (Nat.lt_succ_self _) tail List.cons (Nat.le_add_right pos 2)
  · simp only [if_neg starts]
    rw [stop _ (drop_ne_cons starts)]
    exact .pure ⟨Nat.le_refl pos, within, rfl⟩

theorem walkComparison_ends (key : String) (within : pos ≤ ts.length) :
    Ends (fun _ => walkComparison key) calls ts pos
      (Fits ts pos (found (parseComparison key (ts.drop pos)))) := by
  simp only [walkComparison]
  rw [ends_peek_bind]
  cases first : ts[pos]? with
  | none =>
    have noneLeft := List.drop_eq_nil_of_le (List.getElem?_eq_none_iff.mp first)
    exact .pure ⟨Nat.le_refl pos, within, by rw [noneLeft]; rfl⟩
  | some t =>
    obtain ⟨below, left⟩ := drop_of_getElem?_eq_some first
    rw [left]
    cases t with
    | compare op =>
      dsimp only
      rw [ends_skip_bind, ends_advance_bind]
      cases second : ts[pos + 1]? with
      | none =>
        -- the operator was the last token: the cursor is now one place past the end
        have noneLeft := List.drop_eq_nil_of_le (List.getElem?_eq_none_iff.mp second)
        have pastEnd := List.drop_eq_nil_of_le (Nat.le_succ_of_le (List.getElem?_eq_none_iff.mp second))
        refine .throw ⟨by omega, by omega, ?_⟩
        rw [noneLeft, pastEnd]
        rfl
      | some u =>
        obtain ⟨fits, left⟩ := drop_of_getElem?_eq_some second
        rw [left]
        cases u with
        | word value => exact .pure ⟨by omega, fits, rfl⟩
        | literal value => exact .pure ⟨by omega, fits, rfl⟩
        | _ => exact .throw ⟨by omega, by omega, rfl⟩
    | _ => exact .pure ⟨Nat.le_refl pos, within, by rw [left]; rfl⟩

end

namespace Symbol

def walk : (s : Symbol) → Nat → Walk Token ParseFailure s.Meaning
  | or => walkOr
  | moreOr => walkMoreOr
  | and => walkAnd
  | moreAnd => walkMoreAnd
  | unary => walkUnary
  | primary => walkPrimary

/-- How many calls inside one another are enough for a symbol, with a number of tokens left: six for
each of them, one at each level, and as many as there are levels below the symbol. -/
def calls (s : Symbol) (left : Nat) : Nat := 6 * left + s.rank + 1

/-- The fewest tokens that are read for a symbol. -/
def fewest : Symbol → Nat
  | moreOr | moreAnd => 0
  | _ => 1

variable {ts : List Token} {pos last : Nat}

theorem rank_lt_six (s : Symbol) : s.rank < 6 := by
  cases s <;> decide

theorem calls_le (s : Symbol) (left : Nat) : s.calls left ≤ 6 * (left + 1) := by
  have levels := s.rank_lt_six
  unfold calls
  omega

theorem calls_lower {s lower : Symbol} (below : lower.rank < s.rank) (left : Nat) :
    lower.calls left ≤ 6 * left + s.rank := by
  unfold calls
  omega

theorem calls_forward (s any : Symbol) (forward : pos < last) (fits : last ≤ ts.length) :
    any.calls (ts.length - last) ≤ 6 * (ts.length - pos) + s.rank := by
  have levels := any.rank_lt_six
  unfold calls
  omega

/-- What stands behind a group is looked at after it. -/
theorem close_ends {c : Condition} {least calls : Nat} (within : pos ≤ ts.length)
    (le : least ≤ pos) :
    Ends (fun _ => (advance >>= fun t => match t with
      | some .closeParen => pure c
      | _ => throw .noCloseParen : Walk Token ParseFailure Condition)) calls ts pos
      (Fits ts least (close (c, ts.drop pos))) := by
  rw [ends_advance_bind]
  cases here : ts[pos]? with
  | none =>
    -- the cursor is moved all the same, and nothing is left before or after that
    obtain ⟨past, left⟩ := drop_of_getElem?_eq_none here
    refine .throw ⟨by omega, by omega, ?_⟩
    rw [left, List.drop_eq_nil_of_le (by omega)]
    rfl
  | some t =>
    obtain ⟨below, left⟩ := drop_of_getElem?_eq_some here
    rw [left]
    cases t with
    | closeParen => exact .pure ⟨by omega, below, rfl⟩
    | _ => exact .throw ⟨by omega, by omega, rfl⟩

theorem primary_ends {calls : Nat} (within : pos ≤ ts.length)
    (group : pos + 1 ≤ ts.length →
      Ends walkOr calls ts (pos + 1) (Fits ts (pos + 1 + 1) (answer .or (ts.drop (pos + 1))))) :
    Ends (fun n => walkPrimary (n + 1)) calls ts pos
      (Fits ts (pos + 1) (answer .primary (ts.drop pos))) := by
  simp only [walkPrimary]
  rw [ends_advance_bind]
  cases here : ts[pos]? with
  | none =>
    obtain ⟨past, left⟩ := drop_of_getElem?_eq_none here
    refine .throw ⟨Nat.le_refl _, by omega, ?_⟩
    rw [left, List.drop_eq_nil_of_le (by omega), answer_nil]
  | some t =>
    obtain ⟨below, left⟩ := drop_of_getElem?_eq_some here
    rw [left]
    cases t with
    | openParen =>
      rw [answer_group]
      refine ends_bind (group below) (Nat.le_succ _) fun c last after fits => ?_
      exact close_ends fits (Nat.le_of_succ_le after)
    | word w =>
      rw [answer_word]
      dsimp only
      split
      · exact .pure ⟨Nat.le_refl _, below, rfl⟩
      · split
        · exact .pure ⟨Nat.le_refl _, below, rfl⟩
        · exact walkComparison_ends w below
    | _ =>
      rw [answer_unexpected (by simp) (by simp)]
      exact .throw ⟨Nat.le_refl _, Nat.le_succ_of_le below, rfl⟩

theorem walk_ends (s : Symbol) {pos : Nat} (within : pos ≤ ts.length) :
    Ends s.walk (s.calls (ts.length - pos)) ts pos
      (Fits ts (pos + s.fewest) (s.answer (ts.drop pos))) := by
  refine .call ?_
  -- a symbol of lower rank is walked from the same place, and any other from a place further on
  cases s with
  | or =>
    have head := (walk_ends .and within).more (calls_lower (s := .or) (by decide) _)
    simp only [walk, walkOr]
    rw [answer_or]
    refine chained_ends head (Nat.lt_succ_self pos) (fun last after fits => ?_) _ (Nat.le_refl _)
    exact (walk_ends .moreOr fits).more (calls_forward .or _ after fits)
  | moreOr =>
    simp only [walk, walkMoreOr]
    refine loop_ends answer_orNext (fun _ => answer_orEnd) within (fun below => ?_)
      fun last after fits => ?_
    · exact (walk_ends .and below).more (calls_forward .moreOr _ (Nat.lt_succ_self pos) below)
    · exact (walk_ends .moreOr fits).more
        (calls_forward .moreOr _ (Nat.lt_of_succ_lt after) fits)
  | and =>
    have head := (walk_ends .unary within).more (calls_lower (s := .and) (by decide) _)
    simp only [walk, walkAnd]
    rw [answer_and]
    refine chained_ends head (Nat.lt_succ_self pos) (fun last after fits => ?_) _ (Nat.le_refl _)
    exact (walk_ends .moreAnd fits).more (calls_forward .and _ after fits)
  | moreAnd =>
    simp only [walk, walkMoreAnd]
    refine loop_ends answer_andNext (fun _ => answer_andEnd) within (fun below => ?_)
      fun last after fits => ?_
    · exact (walk_ends .unary below).more (calls_forward .moreAnd _ (Nat.lt_succ_self pos) below)
    · exact (walk_ends .moreAnd fits).more
        (calls_forward .moreAnd _ (Nat.lt_of_succ_lt after) fits)
  | unary =>
    simp only [walk, walkUnary]
    rw [ends_peek_bind]
    by_cases starts : ts[pos]? = some .not
    · obtain ⟨below, left⟩ := drop_of_getElem?_eq_some starts
      have inner := (walk_ends .unary below).more
        (calls_forward .unary _ (Nat.lt_succ_self pos) below)
      simp only [if_pos starts]
      rw [ends_skip_bind, left, answer_not]
      refine ends_bind inner (Nat.le_succ _) fun c last after fits => ?_
      exact .pure ⟨Nat.le_of_succ_le after, fits, rfl⟩
    · simp only [if_neg starts]
      rw [answer_bare (drop_ne_cons starts)]
      exact (walk_ends .primary within).more (calls_lower (by decide) _)
  | primary =>
    refine primary_ends within fun below => ?_
    exact (walk_ends .or below).more (calls_forward .primary _ (Nat.lt_succ_self pos) below)
termination_by s.calls (ts.length - pos)
decreasing_by
  all_goals simp only [calls, rank]
  all_goals omega

end Symbol

/-- Reading comes to an end on every list of tokens, from every place in it, and on every text, with
a number of calls inside one another that is linear in what is left.  Each of the four parsers finds
what it should, with the cursor moved forward, and not past the end or one place past it after a
failure.  Each turn of the scan moves the cursor forward or fails, and it fails only at a quote
without its partner or at a character that starts no token. -/
theorem reading_ends (text : String) (ts : List Token) {pos : Nat} (within : pos ≤ ts.length) :
    Ends walkOr (6 * (ts.length - pos + 1)) ts pos
        (Fits ts (pos + 1) (found (parseOr (ts.drop pos)))) ∧
      Ends walkAnd (6 * (ts.length - pos + 1)) ts pos
        (Fits ts (pos + 1) (found (parseAnd (ts.drop pos)))) ∧
      Ends walkUnary (6 * (ts.length - pos + 1)) ts pos
        (Fits ts (pos + 1) (found (parseUnary (ts.drop pos)))) ∧
      Ends walkPrimary (6 * (ts.length - pos + 1)) ts pos
        (Fits ts (pos + 1) (found (parsePrimary (ts.drop pos)))) ∧
      (∀ i c, text.toList[i]? = some c →
        Ends (turn c) (text.toList.length - i + 1) text.toList i (TurnFits text.toList i)) ∧
      Ends walkTokens (text.toList.length + 2) text.toList 0
        (LoopFits text.toList (scan text.toList)) := by
  refine ⟨?_, ?_, ?_, ?_, fun i c here => turn_ends here, walkTokens_ends (Nat.zero_le _)⟩
  · exact (Symbol.walk_ends .or within).more (Symbol.calls_le _ _)
  · exact (Symbol.walk_ends .and within).more (Symbol.calls_le _ _)
  · exact (Symbol.walk_ends .unary within).more (Symbol.calls_le _ _)
  · exact (Symbol.walk_ends .primary within).more (Symbol.calls_le _ _)

/-- A comparison without a value leaves the cursor one place past the end. -/
theorem reading_ends_past :
    1 ≤ [Token.closeParen, .word "a", .compare .eq].length ∧
      Ends walkOr 18 [.closeParen, .word "a", .compare .eq] 1
        (Fits [.closeParen, .word "a", .compare .eq] 2
          (found (parseOr [.word "a", .compare .eq]))) ∧
      (walkOr 18).run [.closeParen, .word "a", .compare .eq] 1 = some (.error .noValue, 4) ∧
      Ends walkTokens 7 "a & b".toList 0 (LoopFits "a & b".toList (scan "a & b".toList)) := by
  have within : 1 ≤ [Token.closeParen, .word "a", .compare .eq].length := by decide
  obtain ⟨walks, -, -, -, -, scans⟩ := reading_ends "a & b" _ within
  exact ⟨within, walks, rfl, scans⟩

end Shortcuts.Condition
