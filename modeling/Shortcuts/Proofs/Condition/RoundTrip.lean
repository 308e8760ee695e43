import Shortcuts.Proofs.Condition.Descent
import Shortcuts.Proofs.Condition.Formed
import Shortcuts.Proofs.Condition.Scanning
/-!
# Texts of conditions are read back

The text of a condition stands in one of several places: on its own, under a negation, or among the
parts that a connective combines.  In each of them the printer writes the parentheses that this place
needs, and the text has the tokens of a derivation of the flat condition (`ReadsBack`).  What a
derivation of a whole list of parts must say is which parts it combines: a conjunction inside a
conjunction gives the outer one all its parts, while one in parentheses would give it a single part.
So printing a condition and reading it back makes it flat, and does nothing else (`parse_printed`).
-/

namespace Shortcuts.Condition

/-! ## Derivations of longer lists of tokens -/

namespace Connective

abbrev symbol : Connective → Symbol
  | and => .and
  | or => .or

def token : Connective → Token
  | and => .and
  | or => .or

theorem detached (k : Connective) (cs : List Char) : Detached (k.text.toList ++ cs) := by
  cases k <;> exact detached_cons.mpr (by decide)

end Connective

namespace Derivation

/-- The conditions that a conjunction or a disjunction combines. -/
def items {s : Symbol} : Derivation s → List Condition
  | or first more | and first more => first.meaning :: more.meaning
  | _ => []

theorem exists_append_moreOr :
    (d e : Derivation .moreOr) → ∃ both : Derivation .moreOr,
      both.tokens = d.tokens ++ e.tokens ∧ both.meaning = d.meaning ++ e.meaning
  | orEnd, e => ⟨e, rfl, rfl⟩
  | orNext next more, e => by
    obtain ⟨both, tokens_eq, meaning_eq⟩ := exists_append_moreOr more e
    exact ⟨orNext next both, by simp [tokens, tokens_eq], by simp [meaning, meaning_eq]⟩

theorem exists_append_moreAnd :
    (d e : Derivation .moreAnd) → ∃ both : Derivation .moreAnd,
      both.tokens = d.tokens ++ e.tokens ∧ both.meaning = d.meaning ++ e.meaning
  | andEnd, e => ⟨e, rfl, rfl⟩
  | andNext next more, e => by
    obtain ⟨both, tokens_eq, meaning_eq⟩ := exists_append_moreAnd more e
    exact ⟨andNext next both, by simp [tokens, tokens_eq], by simp [meaning, meaning_eq]⟩

/-- Two chains of a connective are joined to one. -/
theorem exists_append (k : Connective) (d e : Derivation k.symbol) :
    ∃ both : Derivation k.symbol,
      both.tokens = d.tokens ++ k.token :: e.tokens ∧ both.items = d.items ++ e.items := by
  cases k with
  | and =>
    cases d with
    | and first more =>
      cases e with
      | and next rest =>
        obtain ⟨both, tokens_eq, meaning_eq⟩ := exists_append_moreAnd more (.andNext next rest)
        exact ⟨.and first both, by simp [tokens, tokens_eq, Connective.token],
          by simp [items, meaning, meaning_eq]⟩
  | or =>
    cases d with
    | or first more =>
      cases e with
      | or next rest =>
        obtain ⟨both, tokens_eq, meaning_eq⟩ := exists_append_moreOr more (.orNext next rest)
        exact ⟨.or first both, by simp [tokens, tokens_eq, Connective.token],
          by simp [items, meaning, meaning_eq]⟩

theorem meaning_and (d : Derivation .and) : d.meaning = joined all d.items := by
  cases d with
  | and first more => rfl

theorem meaning_or (d : Derivation .or) : d.meaning = joined any d.items := by
  cases d with
  | or first more => rfl

/-- Nothing that is derived begins with a comparison. -/
theorem head?_tokens_ne {s : Symbol} (d : Derivation s) (op : Comparison) :
    d.tokens.head? ≠ some (.compare op) := by
  induction d with
  | or first more ihFirst ihMore => simp_all [tokens, List.head?_append]
  | and first more ihFirst ihMore => simp_all [tokens, List.head?_append]
  | bare d ih => exact ih
  | _ => simp [tokens]

end Derivation

/-! ## Texts of tokens -/

theorem operator?_symbol (op : Comparison) (cs : List Char) :
    operator? (op.symbol.toList ++ ' ' :: cs) = some (.compare op, ' ' :: cs) := by
  cases op <;> rfl

namespace Scans

/-- A text that starts with the second character of a longer operator is no part of a condition. -/
theorem not {cs : List Char} {ts : List Token} (scans : Scans cs ts)
    (noComparison : ∀ op, ts.head? ≠ some (.compare op)) : Scans ('!' :: cs) (.not :: ts) := by
  -- only `=` would make another operator of it, and what starts with `=` starts with a comparison
  have apart : ∀ after, cs ≠ '=' :: after := by
    rintro after rfl
    obtain blank | ⟨t, rest, starts, head⟩ | isQuote | inWord := scans.head_class
    · exact absurd blank (by decide)
    · have equals : t = .compare .eq := by
        unfold operator? at starts
        split at starts <;> simp_all
      exact noComparison .eq (equals ▸ head)
    · exact absurd isQuote (by decide)
    · exact absurd inWord (by decide)
  exact .operator (operator?_short apart).1 scans

theorem wordText {word : String} {after : List Char} {ts : List Token} (nonempty : word.toList ≠ [])
    (inside : ∀ c ∈ word.toList, isWordChar c = true) (stops : Detached after)
    (scans : Scans after ts) : Scans (word.toList ++ after) (.word word :: ts) := by
  have isWord := Scans.word nonempty inside (fun c first => (stops c first).1) scans
  rwa [String.ofList_toList] at isWord

theorem symbol (op : Comparison) {cs : List Char} {ts : List Token} (scans : Scans cs ts) :
    Scans (op.symbol.toList ++ ' ' :: cs) (.compare op :: ts) :=
  .operator (operator?_symbol op cs) (.blank rfl scans)

theorem connective (k : Connective) {cs : List Char} {ts : List Token} (scans : Scans cs ts) :
    Scans (k.text.toList ++ cs) (k.token :: ts) := by
  cases k with
  | and => exact .blank rfl (.operator rfl (.blank rfl scans))
  | or => exact .blank rfl (.operator rfl (.blank rfl scans))

end Scans

/-- The text of a value is a word or a literal in quotes, and stands for the value. -/
theorem exists_operand {value : String} (plain : IsPlain value) :
    ∃ v : Operand, Scans (literalText value).toList [v.token] ∧ v.text = value := by
  by_cases bare : isBare value = true
  · have inside : value.toList ≠ [] ∧ ∀ c ∈ value.toList, isWordChar c = true := by
      simp only [isBare, Bool.or_eq_true, beq_iff_eq] at bare
      obtain (numeral | rfl) | rfl := bare
      · -- a word has at least one character, and so has a numeral
        refine ⟨fun empty => ?_, plain.inWord numeral⟩
        rw [empty] at numeral
        exact absurd numeral (by decide)
      · exact ⟨by decide, List.all_eq_true.mp (by decide)⟩
      · exact ⟨by decide, List.all_eq_true.mp (by decide)⟩
    refine ⟨.word value, ?_, rfl⟩
    have isWord := Scans.wordText inside.1 inside.2 detached_nil .nil
    rwa [literalText, if_pos bare, ← List.append_nil value.toList]
  · refine ⟨.literal value, ?_, rfl⟩
    have quoted := Scans.literal (.inl rfl) plain.noQuote .nil
    rw [String.ofList_toList] at quoted
    rwa [literalText, if_neg bare, String.toList_append, String.toList_append]

/-! ## Texts that are read as conditions -/

/-- A text has the tokens of a derivation with a meaning. -/
def Reads (s : Symbol) (text : String) (m : s.Meaning) : Prop :=
  ∃ d : Derivation s, Scans text.toList d.tokens ∧ d.meaning = m

/-- A text has the tokens of a derivation that combines some conditions. -/
def ReadsParts (k : Connective) (text : String) (cs : List Condition) : Prop :=
  ∃ d : Derivation k.symbol, Scans text.toList d.tokens ∧ d.items = cs

theorem Reads.and {text : String} {c : Condition} (reads : Reads .unary text c) :
    ReadsParts .and text [c] := by
  obtain ⟨d, scans, rfl⟩ := reads
  exact ⟨.and d .andEnd, by simpa [Derivation.tokens] using scans, rfl⟩

theorem Reads.not {text : String} {c : Condition} (reads : Reads .unary text c) :
    Reads .unary ("!" ++ text) (.not c) := by
  obtain ⟨d, scans, rfl⟩ := reads
  refine ⟨.not d, ?_, rfl⟩
  rw [String.toList_append]
  exact scans.not d.head?_tokens_ne

namespace ReadsParts

theorem or {text : String} {cs : List Condition} (reads : ReadsParts .and text cs) :
    ReadsParts .or text [joined all cs] := by
  obtain ⟨d, scans, rfl⟩ := reads
  refine ⟨.or d .orEnd, by simpa [Derivation.tokens] using scans, ?_⟩
  rw [← d.meaning_and]
  rfl

theorem group {text : String} {cs : List Condition} (reads : ReadsParts .or text cs) :
    Reads .unary (parenthesized text) (joined any cs) := by
  obtain ⟨d, scans, rfl⟩ := reads
  refine ⟨.bare (.group d), ?_, d.meaning_or⟩
  have closed : Scans (text.toList ++ [')']) (d.tokens ++ [.closeParen]) :=
    scans.append (.operator rfl .nil) (detached_cons.mpr (by decide))
  rw [parenthesized, String.toList_append, String.toList_append, List.append_assoc]
  exact .operator rfl closed

theorem append {k : Connective} {text text' : String} {cs cs' : List Condition}
    (reads : ReadsParts k text cs) (reads' : ReadsParts k text' cs') :
    ReadsParts k (text ++ k.text ++ text') (cs ++ cs') := by
  obtain ⟨d, scans, rfl⟩ := reads
  obtain ⟨e, scans', rfl⟩ := reads'
  obtain ⟨both, tokens, items⟩ := d.exists_append k e
  refine ⟨both, ?_, items⟩
  rw [tokens, String.toList_append, String.toList_append, List.append_assoc]
  exact scans.append (.connective k scans') (k.detached _)

/-- Several texts with a connective between them are read for the parts of all of them. -/
theorem intercalate {α : Type} {k : Connective} {text : α → String} {parts : α → List Condition}
    {xs : List α} (nonempty : xs ≠ []) (each : ∀ x ∈ xs, ReadsParts k (text x) (parts x)) :
    ReadsParts k (k.text.intercalate (xs.map text)) (xs.flatMap parts) := by
  induction xs with
  | nil => exact absurd rfl nonempty
  | cons x xs ih =>
    obtain ⟨first, each⟩ := List.forall_mem_cons.mp each
    cases xs with
    | nil => simpa using first
    | cons y xs =>
      have more := ih (List.cons_ne_nil y xs) each
      rw [List.map_cons, String.intercalate_cons_of_ne_nil (by simp), List.flatMap_cons]
      exact first.append more

end ReadsParts

/-- A whole text is read for the parts that it combines by disjunction. -/
theorem parse_eq_ok_iff_readsParts {text : String} {c : Condition} :
    parse text = .ok c ↔ ∃ cs, ReadsParts .or text cs ∧ joined any cs = c := by
  rw [parse_eq_ok, read_eq_ok_iff]
  constructor
  · rintro ⟨d, scanned, rfl⟩
    exact ⟨d.items, ⟨d, scan_eq_ok_iff.mp scanned, rfl⟩, d.meaning_or.symm⟩
  · rintro ⟨_, ⟨d, scans, rfl⟩, rfl⟩
    exact ⟨d, scan_eq_ok_iff.mpr scans, d.meaning_or⟩

/-! ## Printing and reading back -/

def textUnderNot (c : Condition) : String :=
  if c.wrapsUnderNot then parenthesized c.text else c.text

def isCombination : Condition → Bool
  | all _ | any _ => true
  | _ => false

/-- A condition is read back as its flat form wherever it is printed. -/
structure ReadsBack (c : Condition) : Prop where
  underNot : Reads .unary c.textUnderNot c.flat
  part (k : Connective) : ReadsParts k (k.partText c) (k.parts c.flat)

theorem Formed.joined_parts (k : Connective) {p : String → Prop} {c : Condition}
    (formed : c.Formed p) : joined k.combine (k.parts c) = c := by
  obtain ⟨cs, rfl⟩ | alone := k.eq_combine_or_parts_eq c
  · obtain ⟨several, -⟩ := (combine_iff k).mp formed
    rw [k.parts_combine]
    match cs, several with
    | c :: d :: cs, _ => rfl
  · rw [alone]
    rfl

namespace ReadsBack

/-- A condition that is no combination is read back wherever it is read back on its own. -/
theorem of_unary {c : Condition} (single : c.isCombination = false)
    (reads : Reads .unary c.text c.flat) : ReadsBack c := by
  have simple (k : Connective) : k.partText c = c.text ∧ k.parts c.flat = [c.flat] := by
    cases k <;> cases c <;> first | exact ⟨rfl, rfl⟩ | cases single
  refine ⟨?_, fun k => ?_⟩
  · rw [textUnderNot]
    split
    · exact reads.and.or.group
    · exact reads
  · obtain ⟨text, parts⟩ := simple k
    rw [text, parts]
    cases k with
    | and => exact reads.and
    | or => exact reads.and.or

theorem of_combine (k : Connective) {cs : List Condition} (printable : (k.combine cs).Printable)
    (each : ∀ c ∈ cs, ReadsBack c) : ReadsBack (k.combine cs) := by
  have nonempty : cs ≠ [] := by simpa [k.parts_combine] using (printable.parts k).1
  have chain : ReadsParts k (k.combine cs).text (k.parts (k.combine cs).flat) := by
    rw [k.text_combine, k.flat_combine, k.parts_combine]
    exact ReadsParts.intercalate nonempty fun c member => (each c member).part k
  have whole := printable.flat.joined_parts k
  -- among conditions of its own kind it stands for its parts, in the other places for itself
  cases k with
  | and =>
    have alone : ReadsParts .or (Connective.and.combine cs).text
        [(Connective.and.combine cs).flat] := by
      rw [← whole]
      exact chain.or
    refine ⟨alone.group, fun k => ?_⟩
    cases k with
    | and => exact chain
    | or => exact alone
  | or =>
    have grouped : Reads .unary (parenthesized (Connective.or.combine cs).text)
        (Connective.or.combine cs).flat := by
      rw [← whole]
      exact chain.group
    refine ⟨grouped, fun k => ?_⟩
    cases k with
    | and => exact grouped.and
    | or => exact chain

end ReadsBack

theorem Printable.readsBack {c : Condition} (printable : c.Printable) : ReadsBack c := by
  have blank {cs : List Char} : Detached (' ' :: cs) := detached_cons.mpr (by decide)
  induction printable with
  | always =>
    have scans : Scans ("true".toList ++ []) [.word "true"] :=
      .wordText (by decide) (List.all_eq_true.mp (by decide)) detached_nil .nil
    exact .of_unary rfl ⟨.bare .always, scans, rfl⟩
  | never =>
    have scans : Scans ("false".toList ++ []) [.word "false"] :=
      .wordText (by decide) (List.all_eq_true.mp (by decide)) detached_nil .nil
    exact .of_unary rfl ⟨.bare .never, scans, rfl⟩
  | @has key isName =>
    let name : Name := ⟨key, isName.notTrue, isName.notFalse⟩
    have scans : Scans (key.toList ++ []) [.word key] :=
      .wordText isName.nonempty isName.inWord detached_nil .nil
    rw [List.append_nil] at scans
    exact .of_unary rfl ⟨.bare (.has name), scans, rfl⟩
  | @compare key op value isName plain =>
    obtain ⟨operand, scansValue, rfl⟩ := exists_operand plain
    let name : Name := ⟨key, isName.notTrue, isName.notFalse⟩
    have scans : Scans (Condition.compare key op operand.text).text.toList
        [.word key, .compare op, operand.token] := by
      simp only [Condition.text, String.toList_append, List.append_assoc]
      exact .wordText isName.nonempty isName.inWord blank (.blank rfl (.symbol op scansValue))
    exact .of_unary rfl ⟨.bare (.compare name op operand), scans, rfl⟩
  | not _ ih => exact .of_unary rfl ih.underNot.not
  | all several each ih => exact .of_combine .and (.all several each) ih
  | any several each ih => exact .of_combine .or (.any several each) ih

/-- The text of a condition is read as its flat form. -/
theorem Printable.read_text {c : Condition} (printable : c.Printable) :
    read c.text.toList = .ok c.flat :=
  parse_eq_ok.mp (parse_eq_ok_iff_readsParts.mpr
    ⟨_, printable.readsBack.part .or, printable.flat.joined_parts .or⟩)

/-- Printing a condition and reading it back makes it flat and does nothing else: it holds in the same
contexts and has the same text. -/
theorem parse_printed (c : Condition) (printable : c.Printable) :
    parse c.text = .ok c.flat ∧ (∀ look, c.flat.holds look = c.holds look) ∧
      c.flat.text = c.text := by
  refine ⟨?_, fun look => ?_, ?_⟩
  · exact parse_eq_ok.mpr printable.read_text
  · exact holds_flat look c
  · exact printable.text_flat

/-- Two inner lists are spliced, and the blank in a value stays in its quotes. -/
theorem parse_printed_nested :
    let c := all [any [has "a", any [compare "b" .ge "2.5", not (compare "mode" .eq "in use")]],
      all [not (not (has "x-y")), always]]
    c.Printable ∧ c.text = "(a || b >= 2.5 || !(mode == 'in use')) && !!x-y && true" ∧
      parse c.text = .ok (all [any [has "a", compare "b" .ge "2.5",
        not (compare "mode" .eq "in use")], not (not (has "x-y")), always]) := by
  intro c
  have printable : c.Printable := by
    refine .pair .and (.pair .or (.has (by decide)) (.pair .or ?_ ?_)) (.pair .and ?_ .always)
    · exact .compare .ge (by decide) (by decide)
    · exact .not (.compare .eq (by decide) (by decide))
    · exact .not (.not (.has (by decide)))
  exact ⟨printable, by decide, (parse_printed c printable).1⟩

end Shortcuts.Condition
