import Shortcuts.Proofs.Condition.Scanning
import Shortcuts.Proofs.Walk
/-!
# The scan as a walk

The scanner takes characters off a text; here it moves a cursor along the text, in a loop whose turns
take a blank or a token each.  Every turn moves the cursor forward and not past the end
(`turn_ends`), so the loop comes to an end on every text, with what the scanner finds
(`walkTokens_ends`).  It fails only where no token can be read, and says why.
-/

namespace Shortcuts.Condition

open Walk

/-! ## Operators by two characters -/

/-- The operator or parenthesis that starts with a character, if another one is next to it, and how
many characters it has. -/
def operatorAt? (c : Char) (next : Option Char) : Option (Token × Nat) :=
  match c, next with
  | '(', _ => some (.openParen, 1)
  | ')', _ => some (.closeParen, 1)
  | '&', some '&' => some (.and, 2)
  | '|', some '|' => some (.or, 2)
  | '=', some '=' => some (.compare .eq, 2)
  | '!', some '=' => some (.compare .ne, 2)
  | '!', _ => some (.not, 1)
  | '<', some '=' => some (.compare .le, 2)
  | '<', _ => some (.compare .lt, 1)
  | '>', some '=' => some (.compare .ge, 2)
  | '>', _ => some (.compare .gt, 1)
  | _, _ => none

theorem operator?_eq (c : Char) (cs : List Char) :
    operator? (c :: cs) = (operatorAt? c cs.head?).map fun x => (x.1, (c :: cs).drop x.2) := by
  unfold operatorAt?
  split
  all_goals cases cs
  all_goals simp_all [operator?]

theorem width_of_operatorAt? {c : Char} {next : Option Char} {t : Token} {n : Nat}
    (starts : operatorAt? c next = some (t, n)) : 0 < n ∧ n ≤ 1 + next.toList.length := by
  unfold operatorAt? at starts
  split at starts
  all_goals cases starts
  all_goals simp

theorem not_mem_of_operatorAt? {c : Char} {next : Option Char} (nothing : operatorAt? c next = none) :
    c ∉ ['(', ')', '!', '<', '>'] ∧ (c ∈ ['&', '|', '='] → next ≠ some c) := by
  constructor
  · intro member
    unfold operatorAt? at nothing
    split at nothing
    all_goals simp_all
  · rintro member rfl
    simp only [List.mem_cons, List.not_mem_nil, or_false] at member
    rcases member with rfl | rfl | rfl
    · cases nothing
    · cases nothing
    · cases nothing

/-! ## The loop -/

/-- Read a literal from its quote on. -/
def walkLiteral (quote : Char) : Walk Char ScanFailure Token := do
  let cs ← behind
  match cs.idxOf? quote with
  | some n =>
    skip (n + 2)
    return .literal (String.ofList (cs.take n))
  | none => throw .unterminated

/-- Read characters of words as long as there are any. -/
def walkWord : Nat → Walk Char ScanFailure (List Char)
  | 0 => giveUp
  | n + 1 => do
    match ← peek with
    | some c =>
      if isWordChar c then
        skip 1
        let cs ← walkWord n
        return c :: cs
      else return []
    | none => return []

/-- One turn of the loop, with the character at the cursor: the token that is read, if it is no
blank. -/
def turn (c : Char) (n : Nat) : Walk Char ScanFailure (List Token) := do
  if Text.isBlank c then
    skip 1
    return []
  else
    let next ← peekNext
    match operatorAt? c next with
    | some (t, width) =>
      skip width
      return [t]
    | none =>
      if c = '\'' || c = '"' then
        let t ← walkLiteral c
        return [t]
      else if isWordChar c then
        let cs ← walkWord n
        return [.word (String.ofList cs)]
      else throw (.unexpected c)

/-- The loop: turns as long as there are characters. -/
def walkTokens : Nat → Walk Char ScanFailure (List Token)
  | 0 => giveUp
  | n + 1 => do
    match ← peek with
    | some c =>
      let ts ← turn c n
      let more ← walkTokens n
      return ts ++ more
    | none => return []

/-! ## What a turn does -/

/-- Nothing that starts with a character is a token, if another one is next to it. -/
def StartsNoToken (c : Char) (next : Option Char) : Prop :=
  Text.isBlank c = false ∧ isWordChar c = false ∧ c ∉ ['\'', '"', '(', ')', '!', '<', '>'] ∧
    (c ∈ ['&', '|', '='] → next ≠ some c)

/-- Why no token can be read at the start of a text. -/
def Stuck (cs : List Char) : ScanFailure → Prop
  | .unterminated => ∃ quote rest, cs = quote :: rest ∧ (quote = '\'' ∨ quote = '"') ∧ quote ∉ rest
  | .unexpected c => ∃ rest, cs = c :: rest ∧ StartsNoToken c rest.head?

/-- A turn has moved the cursor forward within the text, and the scanner finds the same and goes on
from there; or no token can be read where the turn began. -/
def TurnFits (cs : List Char) (pos : Nat) : Except ScanFailure (List Token) → Nat → Prop
  | .ok ts, last =>
    pos < last ∧ last ≤ cs.length ∧ scan (cs.drop pos) = (ts ++ ·) <$> scan (cs.drop last)
  | .error f, last => last = pos ∧ scan (cs.drop pos) = .error f ∧ Stuck (cs.drop pos) f

variable {cs : List Char} {pos calls : Nat}

theorem exists_split_of_idxOf? {c : Char} {n : Nat} (first : cs.idxOf? c = some n) :
    n < cs.length ∧ cs = cs.take n ++ c :: cs.drop (n + 1) ∧ c ∉ cs.take n := by
  obtain ⟨below, rfl, before⟩ := List.idxOf?_eq_some_iff.mp first
  refine ⟨below, ?_, ?_⟩
  · rw [← List.drop_eq_getElem_cons below, List.take_append_drop]
  · intro member
    obtain ⟨j, earlier, same⟩ := List.mem_take_iff_getElem.mp member
    exact before j (by omega) same

theorem scan_of_unterminated {quote : Char} (isQuote : quote = '\'' ∨ quote = '"')
    (absent : quote ∉ cs) : scan (quote :: cs) = .error .unterminated := by
  obtain ⟨notBlank, noOperator⟩ := classes_of_quote isQuote
  obtain ⟨-, left⟩ : (cs ++ []).takeWhile (· != quote) = cs ∧ (cs ++ []).dropWhile (· != quote) = [] :=
    Text.takeWhile_append_stop (Text.bne_of_not_mem absent) (by simp)
  rw [List.append_nil] at left
  rw [scan, if_neg (by simp [notBlank])]
  split
  next found => simp [noOperator] at found
  next =>
    rw [if_pos (by simpa using isQuote)]
    split
    next => rfl
    next found => simp [left] at found

theorem scan_of_unexpected {c : Char} (notBlank : Text.isBlank c = false)
    (noOperator : operator? (c :: cs) = none) (notQuote : ¬(c = '\'' ∨ c = '"'))
    (notWord : isWordChar c = false) : scan (c :: cs) = .error (.unexpected c) := by
  rw [scan, if_neg (by simp [notBlank])]
  split
  next found => simp [noOperator] at found
  next => rw [if_neg (by simpa using notQuote), if_neg (by simp [notWord])]

theorem walkLiteral_ends {quote : Char} (isQuote : quote = '\'' ∨ quote = '"')
    (here : cs[pos]? = some quote) :
    Ends (fun _ => walkLiteral quote) calls cs pos fun outcome last =>
      TurnFits cs pos (outcome.map fun t => [t]) last := by
  obtain ⟨below, left⟩ := drop_of_getElem?_eq_some here
  simp only [walkLiteral]
  rw [ends_behind_bind]
  cases first : (cs.drop (pos + 1)).idxOf? quote with
  | none =>
    have absent := List.idxOf?_eq_none_iff.mp first
    refine .throw ⟨rfl, ?_, quote, _, left, isQuote, absent⟩
    rw [left, scan_of_unterminated isQuote absent]
  | some n =>
    obtain ⟨closes, whole, absent⟩ := exists_split_of_idxOf? first
    have scanned := scan_of_quote ((cs.drop (pos + 1)).drop (n + 1)) isQuote absent
    have last : pos + 1 + (n + 1) = pos + (n + 2) := by omega
    rw [← whole, ← left, List.drop_drop, last] at scanned
    rw [List.length_drop] at closes
    dsimp only
    rw [ends_skip_bind]
    exact .pure ⟨by omega, by omega, scanned⟩

theorem walkWord_ends {pos : Nat} (within : pos ≤ cs.length) :
    Ends walkWord (cs.length - pos + 1) cs pos fun outcome last =>
      outcome = .ok ((cs.drop pos).takeWhile isWordChar) ∧ pos ≤ last ∧ last ≤ cs.length ∧
        cs.drop last = (cs.drop pos).dropWhile isWordChar := by
  refine .call ?_
  simp only [walkWord]
  rw [ends_peek_bind]
  cases here : cs[pos]? with
  | none =>
    obtain ⟨-, left⟩ := drop_of_getElem?_eq_none here
    exact .pure ⟨by rw [left]; rfl, Nat.le_refl pos, within, by rw [left]; rfl⟩
  | some c =>
    obtain ⟨below, left⟩ := drop_of_getElem?_eq_some here
    rw [left]
    dsimp only
    split
    next inWord =>
      rw [ends_skip_bind, List.takeWhile_cons_of_pos inWord, List.dropWhile_cons_of_pos inWord]
      have fits : pos + 1 ≤ cs.length := below
      refine ((walkWord_ends fits).more (by omega)).bind ?_ ?_
      · rintro e last ⟨same, -⟩
        cases same
      · rintro ws last ⟨same, after, fits, rest⟩
        cases same
        exact .pure ⟨rfl, by omega, fits, rest⟩
    next notWord =>
      rw [List.takeWhile_cons_of_neg notWord, List.dropWhile_cons_of_neg notWord]
      exact .pure ⟨rfl, Nat.le_refl pos, within, left⟩
termination_by cs.length - pos

theorem le_length_of_operatorAt? {c : Char} {t : Token} {n : Nat} (here : cs[pos]? = some c)
    (starts : operatorAt? c cs[pos + 1]? = some (t, n)) : pos + n ≤ cs.length := by
  have below := (drop_of_getElem?_eq_some here).1
  have atMost := (width_of_operatorAt? starts).2
  cases second : cs[pos + 1]? with
  | none =>
    rw [second, Option.toList_none, List.length_nil] at atMost
    omega
  | some d =>
    have further := (drop_of_getElem?_eq_some second).1
    rw [second, Option.toList_some, List.length_singleton] at atMost
    omega

theorem turnFits_word {c : Char} {last : Nat} (here : cs[pos]? = some c)
    (inWord : isWordChar c = true) (after : pos ≤ last) (fits : last ≤ cs.length)
    (rest : cs.drop last = (cs.drop pos).dropWhile isWordChar) :
    TurnFits cs pos (.ok [.word (String.ofList ((cs.drop pos).takeWhile isWordChar))]) last := by
  obtain ⟨below, left⟩ := drop_of_getElem?_eq_some here
  have inside : ∀ d ∈ (cs.drop pos).takeWhile isWordChar, isWordChar d = true :=
    List.all_eq_true.mp List.all_takeWhile
  have nonempty : (cs.drop pos).takeWhile isWordChar ≠ [] := by
    rw [left, List.takeWhile_cons_of_pos inWord]
    exact List.cons_ne_nil _ _
  have scanned := scan_of_word nonempty inside (stops_dropWhile (cs.drop pos))
  rw [List.takeWhile_append_dropWhile, ← rest] at scanned
  refine ⟨Nat.lt_of_le_of_ne after fun same => ?_, fits, scanned⟩
  -- if the cursor had not moved, the character would be left
  rw [← same, left, List.dropWhile_cons_of_pos inWord] at rest
  have shorter := length_dropWhile_le isWordChar (cs.drop (pos + 1))
  rw [← rest, List.length_cons] at shorter
  omega

theorem operator?_drop {c : Char} (here : cs[pos]? = some c) :
    operator? (cs.drop pos) =
      (operatorAt? c cs[pos + 1]?).map fun x => (x.1, cs.drop (pos + x.2)) := by
  obtain ⟨-, left⟩ := drop_of_getElem?_eq_some here
  have next : cs[pos + 1]? = (cs.drop (pos + 1)).head? := List.head?_drop.symm
  rw [left, operator?_eq, ← next, ← left]
  simp only [List.drop_drop]

theorem turnFits_operator {c : Char} {t : Token} {width : Nat} (here : cs[pos]? = some c)
    (starts : operatorAt? c cs[pos + 1]? = some (t, width)) :
    TurnFits cs pos (.ok [t]) (pos + width) := by
  have operator := operator?_drop here
  rw [starts, Option.map_some] at operator
  have forward : pos < pos + width := Nat.lt_add_of_pos_right (width_of_operatorAt? starts).1
  exact ⟨forward, le_length_of_operatorAt? here starts, scan_of_operator operator⟩

theorem turnFits_unexpected {c : Char} (here : cs[pos]? = some c)
    (notBlank : Text.isBlank c = false) (noOperator : operatorAt? c cs[pos + 1]? = none)
    (notQuote : ¬(c = '\'' ∨ c = '"')) (notWord : isWordChar c = false) :
    TurnFits cs pos (.error (.unexpected c)) pos := by
  obtain ⟨-, left⟩ := drop_of_getElem?_eq_some here
  have operator := operator?_drop here
  rw [noOperator, left, Option.map_none] at operator
  -- a symbol can still stand alone here, if it is an operator only when doubled
  obtain ⟨noSymbol, noPair⟩ := not_mem_of_operatorAt? noOperator
  rw [← List.head?_drop] at noPair
  refine ⟨rfl, ?_, _, left, notBlank, notWord, ?_, noPair⟩
  · rw [left, scan_of_unexpected notBlank operator notQuote notWord]
  · intro member
    rw [List.mem_cons, List.mem_cons, ← or_assoc] at member
    exact member.elim notQuote noSymbol

/-- A turn comes to an end, and moves the cursor forward unless no token can be read. -/
theorem turn_ends {c : Char} (here : cs[pos]? = some c) :
    Ends (turn c) (cs.length - pos + 1) cs pos (TurnFits cs pos) := by
  obtain ⟨below, left⟩ := drop_of_getElem?_eq_some here
  unfold turn
  -- the classes of characters, in the order in which the scanner tries them
  split
  next blank =>
    rw [ends_skip_bind]
    refine .pure ⟨Nat.lt_succ_self pos, below, ?_⟩
    rw [left, scan, if_pos blank]
    exact (id_map _).symm
  next notBlank =>
    rw [ends_peekNext_bind]
    cases starts : operatorAt? c cs[pos + 1]? with
    | some x =>
      dsimp only
      rw [ends_skip_bind]
      exact .pure (turnFits_operator here starts)
    | none =>
      dsimp only
      split
      next isQuote =>
        refine (walkLiteral_ends (by simpa using isQuote) here).bind ?_ ?_
        · exact fun e last fits => fits
        · exact fun t last fits => .pure fits
      next notQuote =>
        split
        next inWord =>
          refine (walkWord_ends (Nat.le_of_lt below)).bind ?_ ?_
          · rintro e last ⟨same, -⟩
            cases same
          · rintro ws last ⟨same, after, fits, rest⟩
            cases same
            exact .pure (turnFits_word here inWord after fits rest)
        next notWord =>
          exact .throw (turnFits_unexpected here (by simpa using notBlank) starts
            (by simpa using notQuote) (by simpa using notWord))

/-! ## What the loop does -/

/-- The loop has found what the scanner finds, at the end of the text; or no token can be read where
it has stopped. -/
def LoopFits (cs : List Char) (answer : Except ScanFailure (List Token)) :
    Except ScanFailure (List Token) → Nat → Prop
  | .ok ts, last => last = cs.length ∧ answer = .ok ts
  | .error f, last => last < cs.length ∧ answer = .error f ∧ Stuck (cs.drop last) f

theorem walkTokens_ends {pos : Nat} (within : pos ≤ cs.length) :
    Ends walkTokens (cs.length - pos + 2) cs pos (LoopFits cs (scan (cs.drop pos))) := by
  refine .call ?_
  simp only [walkTokens]
  rw [ends_peek_bind]
  cases here : cs[pos]? with
  | none =>
    obtain ⟨past, left⟩ := drop_of_getElem?_eq_none here
    refine .pure ⟨Nat.le_antisymm within past, ?_⟩
    rw [left, scan]
  | some c =>
    have below := (drop_of_getElem?_eq_some here).1
    refine (turn_ends here).bind ?_ ?_
    · rintro f last ⟨rfl, fails, stuck⟩
      exact ⟨below, fails, stuck⟩
    · rintro ts last ⟨forward, fits, goesOn⟩
      refine ((walkTokens_ends fits).more (by omega)).bind ?_ ?_
      · rintro f last' ⟨inside, fails, stuck⟩
        exact ⟨inside, by rw [goesOn, fails]; rfl, stuck⟩
      · rintro more last' ⟨atEnd, scanned⟩
        exact .pure ⟨atEnd, by rw [goesOn, scanned]; rfl⟩
termination_by cs.length - pos

end Shortcuts.Condition
