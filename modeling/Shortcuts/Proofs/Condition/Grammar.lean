import Shortcuts.Keymap.Error
/-!
# Derivations of conditions

A `Derivation` is a derivation tree of the grammar of conditions: what it spells is a list of tokens,
and what it means is a condition.
-/

namespace Shortcuts.Condition

/-! ## The grammar -/

/-- A word that names a value.  The two constants are words as well, but no names. -/
@[ext]
structure Name where
  word : String
  notTrue : word ≠ "true"
  notFalse : word ≠ "false"

/-- What a named value can be compared to. -/
inductive Operand
  | word (s : String)
  | literal (s : String)

namespace Operand

def token : Operand → Token
  | word s => .word s
  | literal s => .literal s

def text : Operand → String
  | word s | literal s => s

theorem token_inj {v w : Operand} (same : v.token = w.token) : v = w := by
  cases v <;> cases w <;> simp_all [token]

end Operand

/-- The symbols of the grammar.  `moreOr` and `moreAnd` are the repetitions in it. -/
inductive Symbol
  | or
  | moreOr
  | and
  | moreAnd
  | unary
  | primary

/-- What a symbol stands for: a condition, or as many as are repeated. -/
abbrev Symbol.Meaning : Symbol → Type
  | moreOr | moreAnd => List Condition
  | or | and | unary | primary => Condition

inductive Derivation : Symbol → Type
  | or (first : Derivation .and) (more : Derivation .moreOr) : Derivation .or
  | orEnd : Derivation .moreOr
  | orNext (next : Derivation .and) (more : Derivation .moreOr) : Derivation .moreOr
  | and (first : Derivation .unary) (more : Derivation .moreAnd) : Derivation .and
  | andEnd : Derivation .moreAnd
  | andNext (next : Derivation .unary) (more : Derivation .moreAnd) : Derivation .moreAnd
  | not (d : Derivation .unary) : Derivation .unary
  | bare (d : Derivation .primary) : Derivation .unary
  | group (d : Derivation .or) : Derivation .primary
  | always : Derivation .primary
  | never : Derivation .primary
  | has (name : Name) : Derivation .primary
  | compare (name : Name) (op : Comparison) (value : Operand) : Derivation .primary

/-- One condition stands for itself, several are combined in their order. -/
def joined (combine : List Condition → Condition) : List Condition → Condition
  | [c] => c
  | cs => combine cs

namespace Derivation

def tokens {s : Symbol} : Derivation s → List Token
  | or first more | and first more => first.tokens ++ more.tokens
  | orEnd | andEnd => []
  | orNext next more => .or :: (next.tokens ++ more.tokens)
  | andNext next more => .and :: (next.tokens ++ more.tokens)
  | not d => .not :: d.tokens
  | bare d => d.tokens
  | group d => .openParen :: (d.tokens ++ [.closeParen])
  | always => [.word "true"]
  | never => [.word "false"]
  | has name => [.word name.word]
  | compare name op value => [.word name.word, .compare op, value.token]

def meaning {s : Symbol} : Derivation s → s.Meaning
  | or first more => joined any (first.meaning :: more.meaning)
  | and first more => joined all (first.meaning :: more.meaning)
  | orEnd | andEnd => []
  | orNext next more | andNext next more => next.meaning :: more.meaning
  | not d => .not d.meaning
  | bare d | group d => d.meaning
  | always => .always
  | never => .never
  | has name => .has name.word
  | compare name op value => .compare name.word op value.text

end Derivation

/-! ## No list of tokens has two derivations -/

/-- Whether a token makes a name into a comparison. -/
def Token.extendsName : Token → Bool
  | .compare _ => true
  | _ => false

/-- Whether a symbol reads on at a token. -/
def Symbol.readsOn : Symbol → Token → Bool
  | or | moreOr => fun t => t = .or || t = .and || t.extendsName
  | and | moreAnd => fun t => t = .and || t.extendsName
  | unary | primary => fun t => t.extendsName

/-- What follows gives a symbol no reason to read on. -/
def Symbol.EndsBefore (s : Symbol) (rest : List Token) : Prop := ∀ t ∈ rest.head?, s.readsOn t = false

theorem endsBefore_nil (s : Symbol) : s.EndsBefore [] := by simp [Symbol.EndsBefore]

theorem endsBefore_cons {s : Symbol} {t : Token} {rest : List Token} :
    s.EndsBefore (t :: rest) ↔ s.readsOn t = false := by simp [Symbol.EndsBefore]

namespace Derivation

/-- What ends a disjunction also ends each of its parts. -/
theorem endsBefore_moreOr (more : Derivation .moreOr) {rest : List Token}
    (ends : Symbol.or.EndsBefore rest) : Symbol.and.EndsBefore (more.tokens ++ rest) := by
  cases more with
  | orEnd =>
    intro t first
    have stops := ends t first
    simp only [Symbol.readsOn, Bool.or_eq_false_iff] at stops ⊢
    exact ⟨stops.1.2, stops.2⟩
  | orNext next more => exact endsBefore_cons.mpr rfl

theorem endsBefore_moreAnd (more : Derivation .moreAnd) {rest : List Token}
    (ends : Symbol.and.EndsBefore rest) : Symbol.unary.EndsBefore (more.tokens ++ rest) := by
  cases more with
  | andEnd =>
    intro t first
    have stops := ends t first
    simp only [Symbol.readsOn, Bool.or_eq_false_iff] at stops ⊢
    exact stops.2
  | andNext next more => exact endsBefore_cons.mpr rfl

theorem tokens_primary_ne (d : Derivation .primary) (rest ts : List Token) :
    d.tokens ++ rest ≠ .not :: ts := by
  cases d <;> simp [tokens]

theorem append_inj {s : Symbol} (d d' : Derivation s) {rest rest' : List Token}
    (ends : s.EndsBefore rest) (ends' : s.EndsBefore rest')
    (same : d.tokens ++ rest = d'.tokens ++ rest') : d = d' ∧ rest = rest' := by
  -- the first token decides the production, except that a repetition or a name can end: there the
  -- tokens that follow would have to be read on at
  induction d generalizing rest rest' with
  | or first more ihFirst ihMore =>
    cases d' with
    | or first' more' =>
      simp only [tokens, List.append_assoc] at same
      obtain ⟨rfl, left⟩ :=
        ihFirst first' (more.endsBefore_moreOr ends) (more'.endsBefore_moreOr ends') same
      obtain ⟨rfl, rfl⟩ := ihMore more' ends ends' left
      exact ⟨rfl, rfl⟩
  | orEnd =>
    cases d' with
    | orEnd => exact ⟨rfl, same⟩
    | orNext next' more' =>
      simp only [tokens, List.nil_append, List.cons_append] at same
      rw [same, endsBefore_cons] at ends
      cases ends
  | orNext next more ihNext ihMore =>
    cases d' with
    | orEnd =>
      simp only [tokens, List.nil_append, List.cons_append] at same
      rw [← same, endsBefore_cons] at ends'
      cases ends'
    | orNext next' more' =>
      simp only [tokens, List.cons_append, List.append_assoc, List.cons.injEq, true_and] at same
      obtain ⟨rfl, left⟩ :=
        ihNext next' (more.endsBefore_moreOr ends) (more'.endsBefore_moreOr ends') same
      obtain ⟨rfl, rfl⟩ := ihMore more' ends ends' left
      exact ⟨rfl, rfl⟩
  | and first more ihFirst ihMore =>
    cases d' with
    | and first' more' =>
      simp only [tokens, List.append_assoc] at same
      obtain ⟨rfl, left⟩ :=
        ihFirst first' (more.endsBefore_moreAnd ends) (more'.endsBefore_moreAnd ends') same
      obtain ⟨rfl, rfl⟩ := ihMore more' ends ends' left
      exact ⟨rfl, rfl⟩
  | andEnd =>
    cases d' with
    | andEnd => exact ⟨rfl, same⟩
    | andNext next' more' =>
      simp only [tokens, List.nil_append, List.cons_append] at same
      rw [same, endsBefore_cons] at ends
      cases ends
  | andNext next more ihNext ihMore =>
    cases d' with
    | andEnd =>
      simp only [tokens, List.nil_append, List.cons_append] at same
      rw [← same, endsBefore_cons] at ends'
      cases ends'
    | andNext next' more' =>
      simp only [tokens, List.cons_append, List.append_assoc, List.cons.injEq, true_and] at same
      obtain ⟨rfl, left⟩ :=
        ihNext next' (more.endsBefore_moreAnd ends) (more'.endsBefore_moreAnd ends') same
      obtain ⟨rfl, rfl⟩ := ihMore more' ends ends' left
      exact ⟨rfl, rfl⟩
  | not d ih =>
    cases d' with
    | not d' =>
      simp only [tokens, List.cons_append, List.cons.injEq, true_and] at same
      obtain ⟨rfl, rfl⟩ := ih d' ends ends' same
      exact ⟨rfl, rfl⟩
    | bare d' => exact absurd same.symm (d'.tokens_primary_ne rest' _)
  | bare d ih =>
    cases d' with
    | not d' => exact absurd same (d.tokens_primary_ne rest _)
    | bare d' =>
      obtain ⟨rfl, rfl⟩ := ih d' ends ends' same
      exact ⟨rfl, rfl⟩
  | group d ih =>
    cases d' with
    | group d' =>
      simp only [tokens, List.cons_append, List.append_assoc, List.cons.injEq, true_and,
        List.nil_append] at same
      have closes (rest : List Token) : Symbol.or.EndsBefore (.closeParen :: rest) :=
        endsBefore_cons.mpr rfl
      obtain ⟨rfl, left⟩ := ih d' (closes rest) (closes rest') same
      exact ⟨rfl, (List.cons.inj left).2⟩
    | _ => simp [tokens] at same
  | always =>
    cases d' with
    | always => exact ⟨rfl, by simpa [tokens] using same⟩
    | has name => exact absurd (by simpa [tokens] using congrArg List.head? same) name.notTrue.symm
    | compare name op value =>
      exact absurd (by simpa [tokens] using congrArg List.head? same) name.notTrue.symm
    | _ => simp [tokens] at same
  | never =>
    cases d' with
    | never => exact ⟨rfl, by simpa [tokens] using same⟩
    | has name => exact absurd (by simpa [tokens] using congrArg List.head? same) name.notFalse.symm
    | compare name op value =>
      exact absurd (by simpa [tokens] using congrArg List.head? same) name.notFalse.symm
    | _ => simp [tokens] at same
  | has name =>
    cases d' with
    | always => exact absurd (by simpa [tokens] using congrArg List.head? same) name.notTrue
    | never => exact absurd (by simpa [tokens] using congrArg List.head? same) name.notFalse
    | has name' =>
      obtain ⟨word, rfl⟩ : name.word = name'.word ∧ rest = rest' := by simpa [tokens] using same
      exact ⟨congrArg has (Name.ext word), rfl⟩
    | compare name' op value =>
      obtain ⟨-, rfl⟩ : _ ∧ rest = .compare op :: value.token :: rest' := by
        simpa [tokens] using same
      exact absurd (endsBefore_cons.mp ends) (by simp [Symbol.readsOn, Token.extendsName])
    | group d' => simp [tokens] at same
  | compare name op value =>
    cases d' with
    | always => exact absurd (by simpa [tokens] using congrArg List.head? same) name.notTrue
    | never => exact absurd (by simpa [tokens] using congrArg List.head? same) name.notFalse
    | has name' =>
      obtain ⟨-, rfl⟩ : _ ∧ .compare op :: value.token :: rest = rest' := by
        simpa [tokens] using same
      exact absurd (endsBefore_cons.mp ends') (by simp [Symbol.readsOn, Token.extendsName])
    | compare name' op' value' =>
      obtain ⟨word, rfl, token, rfl⟩ :
          name.word = name'.word ∧ op = op' ∧ value.token = value'.token ∧ rest = rest' := by
        simpa [tokens] using same
      obtain rfl := Name.ext word
      obtain rfl := Operand.token_inj token
      exact ⟨rfl, rfl⟩
    | group d' => simp [tokens] at same

end Derivation

end Shortcuts.Condition
