import Shortcuts.Proofs.Condition.Productions
/-!
# The descent reads what the grammar derives

The parsers of conditions carry proofs that they leave fewer tokens.  `Symbol.read?` is what they
read without those proofs, one function for all symbols of the grammar, with an equation for each
production.  From these a derivation is read for its meaning wherever nothing after it belongs to it
(`read?_append`), and whatever is read has a derivation (`exists_derivation`).  So a text is a
condition exactly if the whole list of its tokens can be derived, and no list can be derived in two
ways (`parse_exactly_grammar`).
-/

namespace Shortcuts.Condition

/-! ## One function for all symbols -/

/-- A result without the proof about the tokens after it. -/
def plain? {α : Type} {p : List Token → Prop} (x : Except Stop (α × { rest // p rest })) :
    Option (α × List Token) :=
  match x with
  | .ok (a, rest) => some (a, rest.val)
  | .error _ => none

/-- Read one thing after another, and combine the two. -/
def followed {α β γ : Type} (first : Option (α × List Token))
    (more : List Token → Option (β × List Token)) (combine : α → β → γ) :
    Option (γ × List Token) :=
  first.bind fun x => (more x.2).map fun y => (combine x.1 y.1, y.2)

theorem followed_eq_some {α β γ : Type} {first : Option (α × List Token)}
    {more : List Token → Option (β × List Token)} {combine : α → β → γ} {c : γ}
    {rest : List Token} :
    followed first more combine = some (c, rest) ↔
      ∃ a left b, first = some (a, left) ∧ more left = some (b, rest) ∧ combine a b = c := by
  simp [followed, Option.bind_eq_some_iff]

/-- What is read for a symbol at the start of a list of tokens, and the tokens after it. -/
def Symbol.read? : (s : Symbol) → List Token → Option (s.Meaning × List Token)
  | or, ts => plain? (parseOr ts)
  | moreOr, ts => plain? (parseMoreOr ts)
  | and, ts => plain? (parseAnd ts)
  | moreAnd, ts => plain? (parseMoreAnd ts)
  | unary, ts => plain? (parseUnary ts)
  | primary, ts => plain? (parsePrimary ts)

namespace Symbol

/-! ## An equation for each production -/

theorem joined_cons (combine : List Condition → Condition) (c : Condition) (cs : List Condition) :
    joined combine (c :: cs) = combined combine c cs := by
  cases cs <;> rfl

theorem plain?_eq {α : Type} {p : List Token → Prop} (x : Except Stop (α × { rest // p rest })) :
    plain? x = (found x).toOption := by
  cases x <;> rfl

theorem read?_eq (s : Symbol) (ts : List Token) : s.read? ts = (s.answer ts).toOption := by
  cases s <;> exact plain?_eq _

theorem toOption_chained {γ : Type} (s s' : Symbol) (ts : List Token)
    (combine : s.Meaning → s'.Meaning → γ) :
    (chained (s.answer ts) s'.answer combine).toOption =
      followed (s.read? ts) s'.read? combine := by
  rw [read?_eq]
  cases s.answer ts with
  | error e => rfl
  | ok x =>
    show (s'.answer x.2 >>= _).toOption = (s'.read? x.2).map _
    rw [read?_eq]
    cases s'.answer x.2 <;> rfl

theorem read?_or (ts : List Token) :
    read? .or ts = followed (read? .and ts) (read? .moreOr) fun c cs => joined any (c :: cs) := by
  simp only [joined_cons]
  rw [read?_eq, answer_or]
  exact toOption_chained .and .moreOr ts _

theorem read?_orNext (ts : List Token) :
    read? .moreOr (.or :: ts) = followed (read? .and ts) (read? .moreOr) List.cons := by
  rw [read?_eq, answer_orNext]
  exact toOption_chained .and .moreOr ts _

theorem read?_orEnd {ts : List Token} (ends : ∀ rest, ts ≠ .or :: rest) :
    read? .moreOr ts = some ([], ts) := by
  rw [read?_eq, answer_orEnd ends]
  rfl

theorem read?_and (ts : List Token) :
    read? .and ts = followed (read? .unary ts) (read? .moreAnd) fun c cs => joined all (c :: cs) := by
  simp only [joined_cons]
  rw [read?_eq, answer_and]
  exact toOption_chained .unary .moreAnd ts _

theorem read?_andNext (ts : List Token) :
    read? .moreAnd (.and :: ts) = followed (read? .unary ts) (read? .moreAnd) List.cons := by
  rw [read?_eq, answer_andNext]
  exact toOption_chained .unary .moreAnd ts _

theorem read?_andEnd {ts : List Token} (ends : ∀ rest, ts ≠ .and :: rest) :
    read? .moreAnd ts = some ([], ts) := by
  rw [read?_eq, answer_andEnd ends]
  rfl

theorem read?_not (ts : List Token) :
    read? .unary (.not :: ts) = (read? .unary ts).map fun x => (.not x.1, x.2) := by
  rw [read?_eq, read?_eq, answer_not]
  cases answer .unary ts <;> rfl

theorem read?_bare {ts : List Token} (positive : ∀ rest, ts ≠ .not :: rest) :
    read? .unary ts = read? .primary ts := by
  rw [read?_eq, read?_eq, answer_bare positive]

theorem read?_group (ts : List Token) :
    read? .primary (.openParen :: ts) = (read? .or ts).bind fun x =>
      match x.2 with
      | .closeParen :: rest => some (x.1, rest)
      | _ => none := by
  rw [read?_eq, read?_eq, answer_group]
  rcases answer .or ts with e | ⟨c, rest⟩
  · rfl
  · cases rest with
    | nil => rfl
    | cons t rest => cases t <;> rfl

theorem read?_word (w : String) (ts : List Token) :
    read? .primary (.word w :: ts) =
      if w = "true" then some (.always, ts)
      else if w = "false" then some (.never, ts)
      else plain? (parseComparison w ts) := by
  rw [read?_eq, answer_word, plain?_eq]
  split
  · rfl
  · split <;> rfl

theorem read?_name (name : Name) (ts : List Token) :
    read? .primary (.word name.word :: ts) = plain? (parseComparison name.word ts) := by
  rw [read?_word, if_neg name.notTrue, if_neg name.notFalse]

theorem parseComparison_operand (key : String) (op : Comparison) (value : Operand)
    (rest : List Token) :
    plain? (parseComparison key (.compare op :: value.token :: rest)) =
      some (.compare key op value.text, rest) := by
  cases value <;> rfl

theorem parseComparison_of_ends (key : String) {rest : List Token}
    (ends : Symbol.primary.EndsBefore rest) :
    plain? (parseComparison key rest) = some (.has key, rest) := by
  cases rest with
  | nil => rfl
  | cons t rest =>
    cases t with
    | compare op => cases endsBefore_cons.mp ends
    | _ => rfl

/-! ## What is derived is read -/

theorem read?_append {s : Symbol} (d : Derivation s) {rest : List Token} (ends : s.EndsBefore rest) :
    s.read? (d.tokens ++ rest) = some (d.meaning, rest) := by
  -- what follows is looked at only where a repetition or a name ends
  induction d generalizing rest with
  | or first more ihFirst ihMore =>
    rw [Derivation.tokens, List.append_assoc, read?_or, followed_eq_some]
    exact ⟨_, _, _, ihFirst (more.endsBefore_moreOr ends), ihMore ends, rfl⟩
  | orEnd =>
    refine read?_orEnd fun left starts => ?_
    rw [Derivation.tokens, List.nil_append] at starts
    rw [starts] at ends
    cases endsBefore_cons.mp ends
  | orNext next more ihNext ihMore =>
    rw [Derivation.tokens, List.cons_append, List.append_assoc, read?_orNext, followed_eq_some]
    exact ⟨_, _, _, ihNext (more.endsBefore_moreOr ends), ihMore ends, rfl⟩
  | and first more ihFirst ihMore =>
    rw [Derivation.tokens, List.append_assoc, read?_and, followed_eq_some]
    exact ⟨_, _, _, ihFirst (more.endsBefore_moreAnd ends), ihMore ends, rfl⟩
  | andEnd =>
    refine read?_andEnd fun left starts => ?_
    rw [Derivation.tokens, List.nil_append] at starts
    rw [starts] at ends
    cases endsBefore_cons.mp ends
  | andNext next more ihNext ihMore =>
    rw [Derivation.tokens, List.cons_append, List.append_assoc, read?_andNext, followed_eq_some]
    exact ⟨_, _, _, ihNext (more.endsBefore_moreAnd ends), ihMore ends, rfl⟩
  | not d ih =>
    rw [Derivation.tokens, List.cons_append, read?_not, ih ends]
    rfl
  | bare d ih =>
    rw [Derivation.tokens, read?_bare fun left => d.tokens_primary_ne rest left]
    exact ih ends
  | group d ih =>
    have closes : or.EndsBefore ([.closeParen] ++ rest) := endsBefore_cons.mpr rfl
    rw [Derivation.tokens, List.cons_append, List.append_assoc, read?_group, ih closes]
    rfl
  | always => rw [Derivation.tokens, List.singleton_append, read?_word, if_pos rfl]; rfl
  | never =>
    rw [Derivation.tokens, List.singleton_append, read?_word, if_neg (by decide), if_pos rfl]
    rfl
  | has name =>
    rw [Derivation.tokens, List.cons_append, read?_name]
    exact parseComparison_of_ends name.word ends
  | compare name op value =>
    rw [Derivation.tokens, List.cons_append, read?_name]
    exact parseComparison_operand name.word op value rest

/-! ## What is read is derived -/

/-- How many productions can be entered before a token must be read. -/
def rank : Symbol → Nat
  | primary => 0
  | unary => 1
  | moreAnd => 2
  | and => 3
  | moreOr => 4
  | or => 5

theorem exists_comparison (name : Name) {ts rest : List Token} {c : Condition}
    (reads : plain? (parseComparison name.word ts) = some (c, rest)) :
    ∃ d : Derivation .primary, d.meaning = c ∧ d.tokens ++ rest = .word name.word :: ts := by
  unfold parseComparison at reads
  split at reads
  next op value left =>
    cases reads
    exact ⟨.compare name op (.word value), rfl, rfl⟩
  next op value left =>
    cases reads
    exact ⟨.compare name op (.literal value), rfl, rfl⟩
  · cases reads
  · cases reads
  · cases reads
    exact ⟨.has name, rfl, rfl⟩

theorem exists_derivation {s : Symbol} {ts rest : List Token} {m : s.Meaning}
    (reads : s.read? ts = some (m, rest)) :
    ∃ d : Derivation s, d.meaning = m ∧ d.tokens ++ rest = ts := by
  -- the equation of the symbol says what was read for its parts, which are shorter or of lower rank
  cases s with
  | or =>
    rw [read?_or, followed_eq_some] at reads
    obtain ⟨c, middle, cs, first, more, rfl⟩ := reads
    obtain ⟨d, rfl, rfl⟩ := exists_derivation first
    obtain ⟨ds, rfl, rfl⟩ := exists_derivation more
    exact ⟨.or d ds, rfl, by simp [Derivation.tokens]⟩
  | moreOr =>
    by_cases starts : ∃ left, ts = .or :: left
    · obtain ⟨left, rfl⟩ := starts
      rw [read?_orNext, followed_eq_some] at reads
      obtain ⟨c, middle, cs, first, more, rfl⟩ := reads
      obtain ⟨d, rfl, rfl⟩ := exists_derivation first
      obtain ⟨ds, rfl, rfl⟩ := exists_derivation more
      exact ⟨.orNext d ds, rfl, by simp [Derivation.tokens]⟩
    · rw [read?_orEnd fun left same => starts ⟨left, same⟩] at reads
      cases reads
      exact ⟨.orEnd, rfl, rfl⟩
  | and =>
    rw [read?_and, followed_eq_some] at reads
    obtain ⟨c, middle, cs, first, more, rfl⟩ := reads
    obtain ⟨d, rfl, rfl⟩ := exists_derivation first
    obtain ⟨ds, rfl, rfl⟩ := exists_derivation more
    exact ⟨.and d ds, rfl, by simp [Derivation.tokens]⟩
  | moreAnd =>
    by_cases starts : ∃ left, ts = .and :: left
    · obtain ⟨left, rfl⟩ := starts
      rw [read?_andNext, followed_eq_some] at reads
      obtain ⟨c, middle, cs, first, more, rfl⟩ := reads
      obtain ⟨d, rfl, rfl⟩ := exists_derivation first
      obtain ⟨ds, rfl, rfl⟩ := exists_derivation more
      exact ⟨.andNext d ds, rfl, by simp [Derivation.tokens]⟩
    · rw [read?_andEnd fun left same => starts ⟨left, same⟩] at reads
      cases reads
      exact ⟨.andEnd, rfl, rfl⟩
  | unary =>
    by_cases starts : ∃ left, ts = .not :: left
    · obtain ⟨left, rfl⟩ := starts
      rw [read?_not, Option.map_eq_some_iff] at reads
      obtain ⟨⟨c, left'⟩, inner, same⟩ := reads
      cases same
      obtain ⟨d, rfl, rfl⟩ := exists_derivation inner
      exact ⟨.not d, rfl, rfl⟩
    · rw [read?_bare fun left same => starts ⟨left, same⟩] at reads
      obtain ⟨d, rfl, rfl⟩ := exists_derivation reads
      exact ⟨.bare d, rfl, rfl⟩
  | primary =>
    cases ts with
    | nil =>
      rw [read?, parsePrimary] at reads
      cases reads
    | cons t ts =>
      cases t with
      | openParen =>
        rw [read?_group, Option.bind_eq_some_iff] at reads
        obtain ⟨⟨c, left⟩, inner, closed⟩ := reads
        dsimp only at closed
        split at closed
        · cases closed
          obtain ⟨d, rfl, rfl⟩ := exists_derivation inner
          exact ⟨.group d, rfl, by simp [Derivation.tokens]⟩
        · cases closed
      | word w =>
        rw [read?_word] at reads
        split at reads
        next constant =>
          cases reads
          exact ⟨.always, rfl, by rw [constant]; rfl⟩
        next notTrue =>
          split at reads
          next constant =>
            cases reads
            exact ⟨.never, rfl, by rw [constant]; rfl⟩
          next notFalse =>
            exact exists_comparison ⟨w, notTrue, notFalse⟩ reads
      | _ =>
        simp only [read?, parsePrimary] at reads
        cases reads
-- where no token is read before a part, the part is of lower rank
termination_by (ts.length, s.rank)
decreasing_by
  all_goals subst_vars
  all_goals simp [rank]
  all_goals omega

end Symbol

/-! ## Texts -/

theorem ofTokens_eq_ok_iff {ts : List Token} {c : Condition} :
    ofTokens ts = .ok c ↔ ∃ d : Derivation .or, d.tokens = ts ∧ d.meaning = c := by
  have whole : ofTokens ts = .ok c ↔ Symbol.or.read? ts = some (c, []) := by
    rw [ofTokens, Symbol.read?]
    rcases parseOr ts with e | ⟨c', rest, shorter⟩
    · simp [plain?]
    · cases rest <;> simp [plain?]
  rw [whole]
  constructor
  · intro reads
    obtain ⟨d, meaning, tokens⟩ := Symbol.exists_derivation reads
    exact ⟨d, by simpa using tokens, meaning⟩
  · rintro ⟨d, rfl, rfl⟩
    simpa using Symbol.read?_append d (endsBefore_nil .or)

/-- A text is read as a condition if its tokens are those of a derivation of it. -/
theorem read_eq_ok_iff {cs : List Char} {c : Condition} :
    read cs = .ok c ↔ ∃ d : Derivation .or, scan cs = .ok d.tokens ∧ d.meaning = c := by
  unfold read
  cases scan cs with
  | error f => simp
  | ok ts =>
    simp only [Except.ok.injEq, @eq_comm _ ts]
    rw [← ofTokens_eq_ok_iff]
    cases ofTokens ts <;> simp

theorem parse_eq_ok {text : String} {c : Condition} :
    parse text = .ok c ↔ read text.toList = .ok c := by
  rw [parse]
  cases read text.toList with
  | error p =>
    constructor <;> intro same <;> cases same
  | ok c' =>
    constructor <;> intro same <;> cases same <;> rfl

theorem source_of_parse {text : String} {e : ConditionError} (fails : parse text = .error e) :
    e.source = text := by
  rw [parse] at fails
  cases problem : read text.toList with
  | ok c =>
    rw [problem] at fails
    cases fails
  | error p =>
    rw [problem] at fails
    cases fails
    rfl

/-- The texts of conditions are exactly those whose whole list of tokens the grammar derives, and
they are read for the meaning of the derivation.  Every other text is refused as a condition.  No
list of tokens has two derivations. -/
theorem parse_exactly_grammar (text : String) :
    (∀ c, parse text = .ok c ↔
        ∃ d : Derivation .or, scan text.toList = .ok d.tokens ∧ d.meaning = c) ∧
      ((¬∃ d : Derivation .or, scan text.toList = .ok d.tokens) →
        ∃ e, parse text = .error e ∧ e.source = text ∧
          (KeymapError.condition e).fault = .condition) ∧
      ∀ (s : Symbol) (d d' : Derivation s), d.tokens = d'.tokens → d = d' := by
  refine ⟨fun c => parse_eq_ok.trans read_eq_ok_iff, ?_, ?_⟩
  · intro underived
    cases reads : parse text with
    | ok c =>
      obtain ⟨d, tokens, -⟩ := read_eq_ok_iff.mp (parse_eq_ok.mp reads)
      exact absurd ⟨d, tokens⟩ underived
    | error e => exact ⟨e, rfl, source_of_parse reads, rfl⟩
  · intro s d d' same
    have ends := endsBefore_nil s
    exact (d.append_inj d' ends ends (by rw [same])).1

end Shortcuts.Condition
