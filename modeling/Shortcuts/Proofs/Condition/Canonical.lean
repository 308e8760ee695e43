import Shortcuts.Proofs.Condition.RoundTrip
import Shortcuts.Proofs.Decimal.Characters
/-!
# When the canonical text means the same

A condition that was read from a text can compare to any value, since a literal can stand in either
kind of quotes.  The printer writes single quotes only, and leaves them out around numerals.  So the
canonical text is read back exactly if no value holds a single quote and no numeral a plus sign
(`canonical_text_iff`).

That it is not read back otherwise is seen from left to right: up to the first value that is not
plain the text has the tokens of the condition, and there the scanner finds another value, or fails
(`Exposes`).
-/

namespace Shortcuts.Condition

/-! ## What is read is well-formed -/

/-- The conditions that a meaning holds. -/
def Symbol.members : (s : Symbol) → s.Meaning → List Condition
  | .moreOr, cs | .moreAnd, cs => cs
  | .or, c | .and, c | .unary, c | .primary, c => [c]

theorem Formed.joined (k : Connective) {p : String → Prop} {c : Condition} {cs : List Condition}
    (first : c.Formed p) (more : ∀ d ∈ cs, d.Formed p) :
    (joined k.combine (c :: cs)).Formed p := by
  cases cs with
  | nil => exact first
  | cons d cs =>
    exact (combine_iff k).mpr ⟨by simp, List.forall_mem_cons.mpr ⟨first, more⟩⟩

theorem Derivation.formed {s : Symbol} (d : Derivation s)
    (words : ∀ w, .word w ∈ d.tokens → w.toList ≠ [] ∧ ∀ c ∈ w.toList, isWordChar c = true) :
    ∀ c ∈ s.members d.meaning, c.Formed fun _ => True := by
  induction d with
  | or first more ihFirst ihMore =>
    have first := ihFirst fun w member => words w (by simp [tokens, member])
    have more := ihMore fun w member => words w (by simp [tokens, member])
    exact List.forall_mem_singleton.mpr (.joined .or (List.forall_mem_singleton.mp first) more)
  | and first more ihFirst ihMore =>
    have first := ihFirst fun w member => words w (by simp [tokens, member])
    have more := ihMore fun w member => words w (by simp [tokens, member])
    exact List.forall_mem_singleton.mpr (.joined .and (List.forall_mem_singleton.mp first) more)
  | orEnd | andEnd => exact List.forall_mem_nil _
  | orNext next more ihNext ihMore =>
    have next := ihNext fun w member => words w (by simp [tokens, member])
    have more := ihMore fun w member => words w (by simp [tokens, member])
    exact List.forall_mem_cons.mpr ⟨List.forall_mem_singleton.mp next, more⟩
  | andNext next more ihNext ihMore =>
    have next := ihNext fun w member => words w (by simp [tokens, member])
    have more := ihMore fun w member => words w (by simp [tokens, member])
    exact List.forall_mem_cons.mpr ⟨List.forall_mem_singleton.mp next, more⟩
  | not d ih =>
    have inner := ih fun w member => words w (by simp [tokens, member])
    exact List.forall_mem_singleton.mpr (.not (List.forall_mem_singleton.mp inner))
  | bare d ih => exact ih words
  | group d ih => exact ih fun w member => words w (by simp [tokens, member])
  | always => exact List.forall_mem_singleton.mpr .always
  | never => exact List.forall_mem_singleton.mpr .never
  | has name =>
    obtain ⟨nonempty, inWord⟩ := words name.word (by simp [tokens])
    exact List.forall_mem_singleton.mpr (.has ⟨nonempty, inWord, name.notTrue, name.notFalse⟩)
  | compare name op value =>
    obtain ⟨nonempty, inWord⟩ := words name.word (by simp [tokens])
    exact List.forall_mem_singleton.mpr
      (.compare op ⟨nonempty, inWord, name.notTrue, name.notFalse⟩ trivial)

theorem formed_of_parse {text : String} {c : Condition} (reads : parse text = .ok c) :
    c.Formed fun _ => True := by
  obtain ⟨d, scanned, rfl⟩ := read_eq_ok_iff.mp (parse_eq_ok.mp reads)
  have each := d.formed fun w => (scan_eq_ok_iff.mp scanned).of_mem_word
  exact List.forall_mem_singleton.mp each

/-! ## The values among tokens -/

/-- The values of the comparisons in a list of tokens. -/
def operands : List Token → List String
  | .compare _ :: .word value :: ts | .compare _ :: .literal value :: ts => value :: operands ts
  | _ :: ts => operands ts
  | [] => []

theorem literals_joined (k : Connective) (c : Condition) (cs : List Condition) :
    (joined k.combine (c :: cs)).literals = (c :: cs).flatMap literals := by
  cases cs with
  | nil => simp [joined]
  | cons d cs => exact k.literals_combine _

/-- The tokens of a derivation have the values of its meaning. -/
theorem Derivation.operands_append {s : Symbol} (d : Derivation s) (rest : List Token) :
    operands (d.tokens ++ rest) = (s.members d.meaning).flatMap literals ++ operands rest := by
  induction d generalizing rest with
  | or first more ihFirst ihMore =>
    have combined : (joined any (first.meaning :: more.meaning)).literals =
      first.meaning.literals ++ more.meaning.flatMap literals := literals_joined .or _ _
    rw [tokens, List.append_assoc, ihFirst, ihMore]
    simp [Symbol.members, meaning, combined]
  | and first more ihFirst ihMore =>
    have combined : (joined all (first.meaning :: more.meaning)).literals =
      first.meaning.literals ++ more.meaning.flatMap literals := literals_joined .and _ _
    rw [tokens, List.append_assoc, ihFirst, ihMore]
    simp [Symbol.members, meaning, combined]
  | orEnd | andEnd => rfl
  | orNext next more ihNext ihMore =>
    rw [tokens, List.cons_append, List.append_assoc, operands, ihNext, ihMore]
    · simp [Symbol.members, meaning]
    · simp
    · simp
  | andNext next more ihNext ihMore =>
    rw [tokens, List.cons_append, List.append_assoc, operands, ihNext, ihMore]
    · simp [Symbol.members, meaning]
    · simp
    · simp
  | not d ih => exact ih rest
  | bare d ih => exact ih rest
  | group d ih =>
    rw [tokens, List.cons_append, List.append_assoc]
    exact ih (.closeParen :: rest)
  | always | never | has name => rfl
  | compare name op value => cases value <;> rfl

theorem operands_chain (k : Connective) (d : Derivation k.symbol) (rest : List Token) :
    operands (d.tokens ++ rest) = d.items.flatMap literals ++ operands rest := by
  rw [d.operands_append]
  cases k with
  | and =>
    cases d with
    | and first more =>
      exact congrArg (· ++ operands rest) <|
        (List.flatMap_singleton ..).trans (literals_joined .and first.meaning more.meaning)
  | or =>
    cases d with
    | or first more =>
      exact congrArg (· ++ operands rest) <|
        (List.flatMap_singleton ..).trans (literals_joined .or first.meaning more.meaning)

theorem operands_token (k : Connective) (ts : List Token) :
    operands (k.token :: ts) = operands ts := by
  cases k <;> rfl

/-! ## A value that is not plain shows -/

theorem isWordChar_of_isAsciiAlphanumeric {c : Char}
    (alphanumeric : Text.isAsciiAlphanumeric c = true) : isWordChar c = true := by
  have ascii : c.toNat < 0x80 := by
    simp only [Text.isAsciiAlphanumeric, Bool.or_eq_true, Bool.and_eq_true, decide_eq_true_eq,
      Char.le_def, UInt32.le_iff_toNat_le] at alphanumeric
    obtain (⟨-, below⟩ | ⟨-, below⟩) | ⟨-, below⟩ := alphanumeric
    · exact Nat.lt_of_le_of_lt below (by decide)
    · exact Nat.lt_of_le_of_lt below (by decide)
    · exact Nat.lt_of_le_of_lt below (by decide)
  simp [isWordChar, Text.isAlphanumeric_of_ascii ascii, alphanumeric]

/-- A numeral is a word unless there is a plus sign in it. -/
theorem isWordChar_of_inNumeral {c : Char} (inNumeral : Decimal.inNumeral c = true)
    (noPlus : c ≠ '+') : isWordChar c = true := by
  simp only [Decimal.inNumeral, Bool.or_eq_true, beq_iff_eq] at inNumeral
  obtain ((alphanumeric | rfl) | rfl) | plus := inNumeral
  · exact isWordChar_of_isAsciiAlphanumeric alphanumeric
  · decide
  · decide
  · exact absurd plus noPlus

theorem isPlain_iff {value : String} : IsPlain value ↔
    '\'' ∉ value.toList ∧ (Decimal.isNumeral value.toList = true → '+' ∉ value.toList) := by
  constructor
  · rintro ⟨noQuote, inWord⟩
    refine ⟨noQuote, fun numeral member => ?_⟩
    exact absurd (inWord numeral '+' member) (by decide)
  · rintro ⟨noQuote, noPlus⟩
    refine ⟨noQuote, fun numeral c member => ?_⟩
    have inNumeral := Decimal.inNumeral_of_mem numeral c member
    refine isWordChar_of_inNumeral inNumeral ?_
    rintro rfl
    exact noPlus numeral member

/-- No text with a plus sign at its front has tokens. -/
theorem Scans.plus_not {cs : List Char} {ts : List Token} : ¬Scans ('+' :: cs) ts := by
  intro scans
  obtain blank | ⟨t, after, starts, -⟩ | isQuote | inWord := scans.head_class
  · exact absurd blank (by decide)
  · exact absurd (mem_operatorChars starts) (by decide)
  · exact absurd isQuote (by decide)
  · exact absurd inWord (by decide)

/-- If the first value among the tokens is a numeral that comes first in the text, it is a word. -/
theorem inWord_of_found {op : Comparison} {value : String} {after : List Char} {ts : List Token}
    (numeral : Decimal.isNumeral value.toList = true) (scans : Scans (value.toList ++ after) ts)
    (found : [value] <+: operands (.compare op :: ts)) : ∀ c ∈ value.toList, isWordChar c = true := by
  cases chars : value.toList with
  | nil =>
    rw [chars] at numeral
    exact absurd numeral (by decide)
  | cons c cs =>
    rw [chars] at numeral scans
    have first : isWordChar c = true := by
      refine isWordChar_of_inNumeral (Decimal.inNumeral_of_mem numeral c List.mem_cons_self) ?_
      rintro rfl
      exact scans.plus_not
    -- the scanner takes the longest word there is; it is the value only if the value is a word
    have inside := List.all_eq_true.mp (List.all_takeWhile (p := isWordChar) (l := c :: cs ++ after))
    rw [← List.takeWhile_append_dropWhile (p := isWordChar) (l := c :: cs ++ after)] at scans
    obtain ⟨more, rfl, -⟩ :=
      scans.of_cons (scan_of_word (by simp [first]) inside (stops_dropWhile _))
    have same := congrArg String.toList (List.cons_prefix_cons.mp found).1
    rw [chars, String.toList_ofList] at same
    rwa [← same] at inside

/-- If the first value among the tokens is the one whose text comes first, it is plain. -/
theorem isPlain_of_found {op : Comparison} {value : String} {after : List Char} {ts : List Token}
    (scans : Scans ((literalText value).toList ++ after) ts)
    (found : [value] <+: operands (.compare op :: ts)) : IsPlain value := by
  by_cases bare : isBare value = true
  · rw [literalText, if_pos bare] at scans
    simp only [isBare, Bool.or_eq_true, beq_iff_eq] at bare
    obtain (numeral | rfl) | rfl := bare
    · have inWord := inWord_of_found numeral scans found
      exact ⟨fun quote => absurd (inWord _ quote) (by decide), fun _ => inWord⟩
    · decide
    · decide
  · refine ⟨fun member => ?_, fun numeral => absurd (by simp [isBare, numeral]) bare⟩
    -- the literal ends at the first quote in the value
    obtain ⟨before, rest, split, fresh⟩ := List.eq_append_cons_of_mem member
    rw [literalText, if_neg bare, String.toList_append, String.toList_append, split] at scans
    simp only [List.append_assoc, List.cons_append] at scans
    obtain ⟨more, rfl, -⟩ := scans.of_cons (scan_of_quote _ (.inl rfl) fresh)
    have same : value = String.ofList before := (List.cons_prefix_cons.mp found).1
    rw [same, String.toList_ofList] at split
    simp at split

theorem Scans.of_connective {k : Connective} {cs : List Char} {ts : List Token}
    (scans : Scans (k.text.toList ++ cs) ts) : ∃ more, ts = k.token :: more ∧ Scans cs more := by
  cases k with
  | and =>
    obtain ⟨more, rfl, left⟩ := (scans.of_blank rfl).of_cons (scan_of_operator rfl)
    exact ⟨more, rfl, left.of_blank rfl⟩
  | or =>
    obtain ⟨more, rfl, left⟩ := (scans.of_blank rfl).of_cons (scan_of_operator rfl)
    exact ⟨more, rfl, left.of_blank rfl⟩

/-- Wherever a text stands, if the tokens from it on have given values first, then these are plain. -/
structure Exposes (text : String) (values : List String) : Prop where
  starts : ∃ c cs, text.toList = c :: cs ∧ c ≠ '='
  plain {after : List Char} {ts : List Token} : Detached after → Scans (text.toList ++ after) ts →
    values <+: operands ts → ∀ value ∈ values, IsPlain value

namespace Exposes

theorem group {text : String} {values : List String} (exposes : Exposes text values) :
    Exposes (parenthesized text) values := by
  have chars : (parenthesized text).toList = '(' :: (text.toList ++ [')']) := by
    simp [parenthesized]
  refine ⟨⟨_, _, chars, by decide⟩, fun detached scans found => ?_⟩
  rw [chars, List.cons_append, List.append_assoc] at scans
  obtain ⟨more, rfl, inner⟩ := scans.of_cons (scan_of_operator rfl)
  exact exposes.plain (detached_cons.mpr (by decide)) inner found

theorem wrapped {text : String} {values : List String} (exposes : Exposes text values) (b : Bool) :
    Exposes (if b then parenthesized text else text) values := by
  cases b with
  | true => exact exposes.group
  | false => exact exposes

theorem not {text : String} {values : List String} (exposes : Exposes text values) :
    Exposes ("!" ++ text) values := by
  obtain ⟨c, cs, starts, other⟩ := exposes.starts
  have chars : ("!" ++ text).toList = '!' :: text.toList := by simp
  refine ⟨⟨_, _, chars, by decide⟩, fun {after _} detached scans found => ?_⟩
  have apart : ∀ rest, text.toList ++ after ≠ '=' :: rest := by
    intro rest same
    rw [starts] at same
    cases same
    exact other rfl
  rw [chars, List.cons_append] at scans
  obtain ⟨more, rfl, inner⟩ := scans.of_cons (scan_of_operator (operator?_short apart).1)
  exact exposes.plain detached inner found

/-- The texts of several conditions, each of which is well-formed. -/
theorem intercalate {k : Connective} {cs : List Condition} (nonempty : cs ≠ [])
    (formed : ∀ c ∈ cs, c.Formed fun _ => True)
    (each : ∀ c ∈ cs, Exposes (k.partText c) c.literals) :
    Exposes (k.text.intercalate (cs.map k.partText)) (cs.flatMap literals) := by
  induction cs with
  | nil => exact absurd rfl nonempty
  | cons c cs ih =>
    obtain ⟨first, each⟩ := List.forall_mem_cons.mp each
    obtain ⟨formedFirst, formed⟩ := List.forall_mem_cons.mp formed
    cases cs with
    | nil => simpa using first
    | cons c' cs =>
      have more := ih (List.cons_ne_nil c' cs) formed each
      rw [List.map_cons, String.intercalate_cons_of_ne_nil (by simp), List.flatMap_cons]
      generalize k.text.intercalate ((c' :: cs).map k.partText) = text at more ⊢
      refine ⟨?_, fun {after ts} detached scans found => ?_⟩
      · obtain ⟨d, ds, chars, other⟩ := first.starts
        exact ⟨d, _, by rw [String.toList_append, String.toList_append, chars]; rfl, other⟩
      · rw [String.toList_append, String.toList_append, List.append_assoc, List.append_assoc] at scans
        have detachedText := k.detached (text.toList ++ after)
        -- once the values of the first condition are known to be plain, its text has its tokens
        have plainFirst := first.plain detachedText scans ((List.prefix_append _ _).trans found)
        have printable : c.Printable := formedFirst.of_literals plainFirst
        obtain ⟨d, scansFirst, items⟩ := printable.readsBack.part k
        obtain ⟨rest, rfl, left⟩ := scansFirst.of_append detachedText scans
        obtain ⟨rest, rfl, last⟩ := left.of_connective
        rw [operands_chain, items, k.literals_parts, printable.literals_flat,
          List.prefix_append_right_inj, operands_token] at found
        exact List.forall_mem_append.mpr ⟨plainFirst, more.plain detached last found⟩

theorem combine (k : Connective) {cs : List Condition} (several : 2 ≤ cs.length)
    (formed : ∀ c ∈ cs, c.Formed fun _ => True) (each : ∀ c ∈ cs, Exposes c.text c.literals) :
    Exposes (k.combine cs).text (k.combine cs).literals := by
  rw [k.text_combine, k.literals_combine]
  refine intercalate (List.ne_nil_of_length_pos (by omega)) formed fun c member => ?_
  cases k with
  | and => exact (each c member).wrapped c.wrapsInAll
  | or => exact each c member

end Exposes

theorem IsName.starts {key : String} (isName : IsName key) (rest : List Char) :
    ∃ c cs, key.toList ++ rest = c :: cs ∧ c ≠ '=' := by
  obtain ⟨c, cs, chars⟩ := List.exists_cons_of_ne_nil isName.nonempty
  refine ⟨c, cs ++ rest, by rw [chars]; rfl, ?_⟩
  rintro rfl
  exact absurd (isName.inWord '=' (by simp [chars])) (by decide)

theorem Formed.exposes {c : Condition} (formed : c.Formed fun _ => True) :
    Exposes c.text c.literals := by
  induction formed with
  | always => exact ⟨⟨_, _, rfl, by decide⟩, fun _ _ _ => List.forall_mem_nil _⟩
  | never => exact ⟨⟨_, _, rfl, by decide⟩, fun _ _ _ => List.forall_mem_nil _⟩
  | has isName =>
    have starts := isName.starts []
    rw [List.append_nil] at starts
    exact ⟨starts, fun _ _ _ => List.forall_mem_nil _⟩
  | @compare key op value isName _ =>
    have chars : (Condition.compare key op value).text.toList =
        key.toList ++ ' ' :: (op.symbol.toList ++ ' ' :: (literalText value).toList) := by
      simp [text]
    refine ⟨chars ▸ isName.starts _, fun {after ts} _ scans found => ?_⟩
    rw [chars, List.append_assoc, List.cons_append, List.append_assoc, List.cons_append] at scans
    have stops : ∀ {cs : List Char}, ∀ c ∈ (' ' :: cs).head?, isWordChar c = false := by
      simp; decide
    obtain ⟨ts, rfl, afterKey⟩ :=
      scans.of_cons (scan_of_word isName.nonempty isName.inWord stops)
    obtain ⟨ts, rfl, afterSymbol⟩ :=
      (afterKey.of_blank rfl).of_cons (scan_of_operator (operator?_symbol op _))
    exact List.forall_mem_singleton.mpr (isPlain_of_found (afterSymbol.of_blank rfl) found)
  | not _ ih => exact (ih.wrapped _).not
  | all several each ih => exact .combine .and several each ih
  | any several each ih => exact .combine .or several each ih

/-- A condition that is read back has only plain values. -/
theorem Formed.isPlain_of_parse {c : Condition} (formed : c.Formed fun _ => True)
    (back : parse c.text = .ok c.flat) : ∀ value ∈ c.literals, IsPlain value := by
  obtain ⟨d, scanned, meaning⟩ := read_eq_ok_iff.mp (parse_eq_ok.mp back)
  have found : operands d.tokens = c.literals := by
    have values := d.operands_append []
    rw [meaning] at values
    simpa [Symbol.members, operands, formed.literals_flat] using values
  have scans : Scans (c.text.toList ++ []) d.tokens := by
    rw [List.append_nil]
    exact scan_eq_ok_iff.mp scanned
  exact formed.exposes.plain detached_nil scans (found ▸ List.prefix_refl _)

/-- The canonical text of a condition that was read is read back, as the flat condition that holds in
the same contexts, exactly if no value in it holds a single quote and no numeral a plus sign. -/
theorem canonical_text_iff (text : String) (c : Condition) (reads : parse text = .ok c) :
    (∀ look, c.flat.holds look = c.holds look) ∧
      (parse c.text = .ok c.flat ↔ ∀ value ∈ c.literals,
        '\'' ∉ value.toList ∧ (Decimal.isNumeral value.toList = true → '+' ∉ value.toList)) := by
  have formed := formed_of_parse reads
  refine ⟨fun look => holds_flat look c, fun back value member => ?_, fun plain => ?_⟩
  · exact isPlain_iff.mp (formed.isPlain_of_parse back value member)
  · have printable : c.Printable :=
      formed.of_literals fun value member => isPlain_iff.mpr (plain value member)
    exact parse_eq_ok.mpr printable.read_text

/-- Double quotes become single ones, and quotes around a numeral are left out. -/
theorem canonical_text_iff_requoted :
    let c := all [compare "mode" .ne "in use", not (compare "tabs" .ge "4")]
    parse "(mode != \"in use\") && !(tabs >= '4')" = .ok c ∧
      c.text = "mode != 'in use' && !(tabs >= 4)" ∧ parse c.text = .ok c.flat := by
  intro c
  have reads : parse "(mode != \"in use\") && !(tabs >= '4')" = .ok c :=
    parse_eq_ok.mpr (by cbv)
  exact ⟨reads, by decide, (canonical_text_iff _ c reads).2.mpr (by decide)⟩

/-- A single quote ends a literal too early, and a plus sign starts no token.  What follows the quote
can even make another condition of the text. -/
theorem canonical_text_lost :
    (∃ c, parse "a == \"it's\"" = .ok c ∧ ∀ c', parse c.text ≠ .ok c') ∧
      (∃ c, parse "a == '+4'" = .ok c ∧ ∀ c', parse c.text ≠ .ok c') ∧
      ∃ c c' look, parse "a == \"x' || b == 'y\"" = .ok c ∧ parse c.text = .ok c' ∧
        c'.holds look ≠ c.holds look := by
  refine ⟨⟨compare "a" .eq "it's", parse_eq_ok.mpr (by cbv), fun c' => ?_⟩,
    ⟨compare "a" .eq "+4", parse_eq_ok.mpr (by cbv), fun c' => ?_⟩,
    ⟨compare "a" .eq "x' || b == 'y", any [compare "a" .eq "x", compare "b" .eq "y"],
      fun _ => some (.text "x"), parse_eq_ok.mpr (by cbv), parse_eq_ok.mpr ?_, by decide⟩⟩
  · have text : (compare "a" .eq "it's").text = "a == 'it's'" := by decide
    have fails : read "a == 'it's'".toList = .error (.scan .unterminated) := by cbv
    rw [ne_eq, parse_eq_ok, text, fails]
    intro same
    cases same
  · have text : (compare "a" .eq "+4").text = "a == +4" := by decide
    have fails : read "a == +4".toList = .error (.scan (.unexpected '+')) := by cbv
    rw [ne_eq, parse_eq_ok, text, fails]
    intro same
    cases same
  · have text : (compare "a" .eq "x' || b == 'y").text = "a == 'x' || b == 'y'" := by decide
    rw [text]
    cbv

end Shortcuts.Condition
