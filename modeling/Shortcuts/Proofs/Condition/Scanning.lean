import Shortcuts.Condition.Token
import Shortcuts.Proofs.Text.Pieces
/-!
# The tokens of a text

`Scans` says which tokens a text has, without saying how they are found: blanks do not count, and a
word goes on as long as it can.  The scanner finds exactly these (`scan_eq_ok_iff`).  From this the
tokens of a longer text are put together from those of its parts, where one part ends with a token
that the next does not continue (`Scans.append`).
-/

namespace Shortcuts.Condition

/-- A text starts with neither a character of a word nor one that could continue an operator. -/
def Detached (cs : List Char) : Prop := ∀ c ∈ cs.head?, isWordChar c = false ∧ c ≠ '='

theorem detached_nil : Detached [] := by simp [Detached]

theorem detached_cons {c : Char} {cs : List Char} :
    Detached (c :: cs) ↔ isWordChar c = false ∧ c ≠ '=' := by simp [Detached]

/-- A text has some tokens. -/
inductive Scans : List Char → List Token → Prop
  | nil : Scans [] []
  | blank {c : Char} {cs : List Char} {ts : List Token} :
    Text.isBlank c = true → Scans cs ts → Scans (c :: cs) ts
  | operator {cs after : List Char} {t : Token} {ts : List Token} :
    operator? cs = some (t, after) → Scans after ts → Scans cs (t :: ts)
  | literal {quote : Char} {cs after : List Char} {ts : List Token} :
    quote = '\'' ∨ quote = '"' → quote ∉ cs → Scans after ts →
    Scans (quote :: (cs ++ quote :: after)) (.literal (String.ofList cs) :: ts)
  | word {cs after : List Char} {ts : List Token} :
    cs ≠ [] → (∀ c ∈ cs, isWordChar c = true) → (∀ c ∈ after.head?, isWordChar c = false) →
    Scans after ts → Scans (cs ++ after) (.word (String.ofList cs) :: ts)

/-! ## Classes of characters -/

def operatorChars : List Char := ['(', ')', '&', '|', '=', '!', '<', '>']

theorem mem_operatorChars {c : Char} {cs after : List Char} {t : Token}
    (starts : operator? (c :: cs) = some (t, after)) : c ∈ operatorChars := by
  unfold operator? at starts
  split at starts <;> simp_all [operatorChars]

theorem not_isBlank_of_operator {c : Char} {cs after : List Char} {t : Token}
    (starts : operator? (c :: cs) = some (t, after)) : Text.isBlank c = false := by
  have each : operatorChars.all (!Text.isBlank ·) = true := by decide
  simpa using List.all_eq_true.mp each c (mem_operatorChars starts)

theorem isWordChar_of_isBlank {c : Char} (blank : Text.isBlank c = true) : isWordChar c = false :=
  Text.of_isBlank (isWordChar · = false) (by decide +kernel) blank

/-- A character of a word starts nothing else. -/
theorem classes_of_isWordChar {c : Char} (inWord : isWordChar c = true) :
    Text.isBlank c = false ∧ (∀ cs, operator? (c :: cs) = none) ∧ c ≠ '\'' ∧ c ≠ '"' := by
  refine ⟨?_, ?_, ?_, ?_⟩
  · rw [Bool.eq_false_iff]
    intro blank
    rw [isWordChar_of_isBlank blank] at inWord
    cases inWord
  · intro cs
    have each : operatorChars.all (!isWordChar ·) = true := by decide
    rw [Option.eq_none_iff_forall_ne_some]
    rintro ⟨t, after⟩ starts
    have outside := List.all_eq_true.mp each c (mem_operatorChars starts)
    simp [inWord] at outside
  · rintro rfl
    revert inWord
    decide
  · rintro rfl
    revert inWord
    decide

theorem classes_of_quote {c : Char} (quote : c = '\'' ∨ c = '"') :
    Text.isBlank c = false ∧ (∀ cs, operator? (c :: cs) = none) := by
  obtain rfl | rfl := quote
  · exact ⟨by decide, fun cs => rfl⟩
  · exact ⟨by decide, fun cs => rfl⟩

/-! ## The scanner -/

theorem stops_dropWhile (cs : List Char) :
    ∀ c ∈ (cs.dropWhile isWordChar).head?, isWordChar c = false := by
  intro c first
  have stop := List.head?_dropWhile_not isWordChar cs
  rw [Option.mem_def.mp first] at stop
  simpa using stop

theorem scan_of_operator {cs after : List Char} {t : Token}
    (starts : operator? cs = some (t, after)) : scan cs = (t :: ·) <$> scan after := by
  cases cs with
  | nil => cases starts
  | cons c cs =>
    rw [scan, if_neg (by simp [not_isBlank_of_operator starts])]
    split
    next found => simp_all
    next none => simp_all

theorem scan_of_quote {quote : Char} {cs : List Char} (after : List Char)
    (isQuote : quote = '\'' ∨ quote = '"') (inside : quote ∉ cs) :
    scan (quote :: (cs ++ quote :: after)) =
      (.literal (String.ofList cs) :: ·) <$> scan after := by
  obtain ⟨notBlank, noOperator⟩ := classes_of_quote isQuote
  obtain ⟨taken, left⟩ : (cs ++ quote :: after).takeWhile (· != quote) = cs ∧
      (cs ++ quote :: after).dropWhile (· != quote) = quote :: after :=
    Text.takeWhile_append_stop (Text.bne_of_not_mem inside) (by simp)
  rw [scan, if_neg (by simp [notBlank])]
  split
  next found => simp [noOperator] at found
  next none =>
    rw [if_pos (by simpa using isQuote)]
    split
    next missing => simp [left] at missing
    next found =>
      rw [left] at found
      cases found
      rw [taken]

theorem scan_of_word {cs after : List Char} (nonempty : cs ≠ [])
    (inside : ∀ c ∈ cs, isWordChar c = true) (stops : ∀ c ∈ after.head?, isWordChar c = false) :
    scan (cs ++ after) = (.word (String.ofList cs) :: ·) <$> scan after := by
  cases cs with
  | nil => exact absurd rfl nonempty
  | cons c cs =>
    obtain ⟨first, inside⟩ := List.forall_mem_cons.mp inside
    obtain ⟨notBlank, noOperator, single, double⟩ := classes_of_isWordChar first
    obtain ⟨taken, left⟩ := Text.takeWhile_append_stop inside stops
    rw [List.cons_append, scan, if_neg (by simp [notBlank])]
    split
    next found => simp [noOperator] at found
    next none => rw [if_neg (by simp [single, double]), if_pos first, taken, left]

theorem scan_of_scans {cs : List Char} {ts : List Token} (scans : Scans cs ts) :
    scan cs = .ok ts := by
  induction scans with
  | nil => rw [scan]
  | blank blank _ ih => rw [scan, if_pos blank, ih]
  | operator starts _ ih => rw [scan_of_operator starts, ih]; rfl
  | literal isQuote inside _ ih => rw [scan_of_quote _ isQuote inside, ih]; rfl
  | word nonempty inside stops _ ih => rw [scan_of_word nonempty inside stops, ih]; rfl

/-- What a scan that goes on after its first token has found. -/
theorem exists_of_scan_cons {t : Token} {after : List Char} {ts : List Token}
    (scanned : (t :: ·) <$> scan after = .ok ts) : ∃ ts', scan after = .ok ts' ∧ ts = t :: ts' := by
  cases found : scan after with
  | error f =>
    rw [found] at scanned
    cases scanned
  | ok ts' =>
    rw [found] at scanned
    cases scanned
    exact ⟨ts', rfl, rfl⟩

theorem scans_of_scan {cs : List Char} {ts : List Token} (scanned : scan cs = .ok ts) :
    Scans cs ts := by
  fun_induction scan cs generalizing ts with
  | case1 =>
    cases scanned
    exact .nil
  | case2 c rest blank ih => exact .blank blank (ih scanned)
  | case3 c rest _ t after starts _ ih =>
    obtain ⟨tail, remaining, rfl⟩ := exists_of_scan_cons scanned
    exact .operator starts (ih remaining)
  | case4 => cases scanned
  | case5 c rest _ _ isQuote closing after left _ ih =>
    obtain ⟨tail, remaining, rfl⟩ := exists_of_scan_cons scanned
    -- the literal ends at the first quote of its kind, so it has none inside
    have closes : closing = c := by
      have stop := List.head?_dropWhile_not (· != c) rest
      simpa [left] using stop
    have inside : c ∉ rest.takeWhile (· != c) := fun member => by
      have kept := List.all_eq_true.mp List.all_takeWhile c member
      simp at kept
    have whole : rest = rest.takeWhile (· != c) ++ c :: after := by
      conv => lhs; rw [← List.takeWhile_append_dropWhile (p := (· != c)) (l := rest), left, closes]
    conv => lhs; rw [whole]
    exact .literal (by simpa using isQuote) inside (ih remaining)
  | case6 c rest _ _ _ inWord _ ih =>
    obtain ⟨tail, remaining, rfl⟩ := exists_of_scan_cons scanned
    have inside : ∀ d ∈ c :: rest.takeWhile isWordChar, isWordChar d = true :=
      List.forall_mem_cons.mpr ⟨inWord, List.all_eq_true.mp List.all_takeWhile⟩
    have whole : c :: rest = c :: rest.takeWhile isWordChar ++ rest.dropWhile isWordChar := by simp
    rw [whole]
    exact .word (List.cons_ne_nil c _) inside (stops_dropWhile rest) (ih remaining)
  | case7 => cases scanned

/-- The scanner finds exactly the tokens that a text has. -/
theorem scan_eq_ok_iff {cs : List Char} {ts : List Token} : scan cs = .ok ts ↔ Scans cs ts :=
  ⟨scans_of_scan, scan_of_scans⟩

/-! ## Longer texts -/

/-- Three operators begin a longer one, and are read where it is not there. -/
theorem operator?_short {cs : List Char} (apart : ∀ after, cs ≠ '=' :: after) :
    operator? ('!' :: cs) = some (.not, cs) ∧ operator? ('<' :: cs) = some (.compare .lt, cs) ∧
      operator? ('>' :: cs) = some (.compare .gt, cs) := by
  refine ⟨?_, ?_, ?_⟩
  all_goals
    rw [operator?]
    exact apart

theorem operator?_append {cs after rest : List Char} {t : Token}
    (starts : operator? cs = some (t, after)) (detached : Detached rest) :
    operator? (cs ++ rest) = some (t, after ++ rest) := by
  have apart (after : List Char) (alone : ∀ cs, after ≠ '=' :: cs) (cs : List Char) :
      after ++ rest ≠ '=' :: cs := by
    cases after with
    | nil =>
      rintro rfl
      exact (detached '=' rfl).2 rfl
    | cons c after =>
      intro same
      cases same
      exact alone after rfl
  -- only the operators that begin a longer one depend on what follows
  unfold operator? at starts
  split at starts <;> cases starts <;> try rfl
  next alone => exact (operator?_short (apart after alone)).1
  next alone => exact (operator?_short (apart after alone)).2.1
  next alone => exact (operator?_short (apart after alone)).2.2

/-- A word that ends with a text also ends before what follows the text. -/
theorem stops_append {after rest : List Char} (stops : ∀ c ∈ after.head?, isWordChar c = false)
    (detached : Detached rest) : ∀ c ∈ (after ++ rest).head?, isWordChar c = false := by
  cases after with
  | nil => exact fun c first => (detached c first).1
  | cons c after => exact stops

namespace Scans

/-- The tokens of a text are not changed by what follows it, and the other way round. -/
theorem append {cs rest : List Char} {ts ts' : List Token} (scans : Scans cs ts)
    (scansRest : Scans rest ts') (detached : Detached rest) : Scans (cs ++ rest) (ts ++ ts') := by
  induction scans with
  | nil => exact scansRest
  | blank blank _ ih => exact .blank blank ih
  | operator starts _ ih => exact .operator (operator?_append starts detached) ih
  | literal isQuote inside _ ih =>
    rw [List.cons_append, List.append_assoc, List.cons_append]
    exact .literal isQuote inside ih
  | word nonempty inside stops _ ih =>
    rw [List.append_assoc]
    exact .word nonempty inside (stops_append stops detached) ih

/-- What is found first is found by every scan. -/
theorem of_cons {t : Token} {cs after : List Char} {ts : List Token}
    (first : scan cs = (t :: ·) <$> scan after) (scans : Scans cs ts) :
    ∃ more, ts = t :: more ∧ Scans after more := by
  obtain ⟨more, scanned, rfl⟩ := exists_of_scan_cons (first.symm.trans (scan_of_scans scans))
  exact ⟨more, rfl, scans_of_scan scanned⟩

theorem of_blank {c : Char} {cs : List Char} {ts : List Token} (blank : Text.isBlank c = true)
    (scans : Scans (c :: cs) ts) : Scans cs ts := by
  have scanned := scan_of_scans scans
  rw [scan, if_pos blank] at scanned
  exact scans_of_scan scanned

/-- Each character at which a scan goes on is blank or starts a token. -/
theorem head_class {c : Char} {cs : List Char} {ts : List Token} (scans : Scans (c :: cs) ts) :
    Text.isBlank c = true ∨
      (∃ t after, operator? (c :: cs) = some (t, after) ∧ ts.head? = some t) ∨
      (c = '\'' ∨ c = '"') ∨ isWordChar c = true := by
  generalize text : c :: cs = whole at scans
  cases scans with
  | nil => cases text
  | blank blank =>
    cases text
    exact .inl blank
  | operator starts => exact .inr (.inl ⟨_, _, starts, rfl⟩)
  | literal isQuote =>
    cases text
    exact .inr (.inr (.inl isQuote))
  | @word cs' _ _ nonempty inside =>
    obtain ⟨d, cs', rfl⟩ := List.exists_cons_of_ne_nil nonempty
    cases text
    exact .inr (.inr (.inr (inside c List.mem_cons_self)))

/-- The tokens of the first part of a text come first. -/
theorem of_append {cs rest : List Char} {ts whole : List Token} (scans : Scans cs ts)
    (detached : Detached rest) (scansWhole : Scans (cs ++ rest) whole) :
    ∃ more, whole = ts ++ more ∧ Scans rest more := by
  induction scans generalizing whole with
  | nil => exact ⟨whole, rfl, scansWhole⟩
  | blank blank _ ih => exact ih (scansWhole.of_blank blank)
  | operator starts _ ih =>
    obtain ⟨more, rfl, left⟩ :=
      scansWhole.of_cons (scan_of_operator (operator?_append starts detached))
    obtain ⟨more, rfl, last⟩ := ih left
    exact ⟨more, rfl, last⟩
  | literal isQuote inside _ ih =>
    rw [List.cons_append, List.append_assoc, List.cons_append] at scansWhole
    obtain ⟨more, rfl, left⟩ := scansWhole.of_cons (scan_of_quote _ isQuote inside)
    obtain ⟨more, rfl, last⟩ := ih left
    exact ⟨more, rfl, last⟩
  | word nonempty inside stops _ ih =>
    rw [List.append_assoc] at scansWhole
    obtain ⟨more, rfl, left⟩ :=
      scansWhole.of_cons (scan_of_word nonempty inside (stops_append stops detached))
    obtain ⟨more, rfl, last⟩ := ih left
    exact ⟨more, rfl, last⟩

/-- A token that is a word holds characters of words, at least one. -/
theorem of_mem_word {cs : List Char} {ts : List Token} (scans : Scans cs ts) {w : String}
    (member : .word w ∈ ts) : w.toList ≠ [] ∧ ∀ c ∈ w.toList, isWordChar c = true := by
  induction scans with
  | nil => cases member
  | blank _ _ ih => exact ih member
  | operator starts _ ih =>
    obtain same | member := List.mem_cons.mp member
    · cases same
      unfold operator? at starts
      split at starts <;> cases starts
    · exact ih member
  | literal _ _ _ ih =>
    obtain same | member := List.mem_cons.mp member
    · cases same
    · exact ih member
  | word nonempty inside _ _ ih =>
    obtain same | member := List.mem_cons.mp member
    · cases same
      rw [String.toList_ofList]
      exact ⟨nonempty, inside⟩
    · exact ih member

end Scans

end Shortcuts.Condition
