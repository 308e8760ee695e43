import Shortcuts.Decimal.Numeral
import Shortcuts.Text.Alphanumeric
/-!
# The characters of numerals

A numeral is spelled with ASCII letters and digits, points and signs (`inNumeral_of_mem`).
-/

namespace Shortcuts.Decimal

/-- A character that can stand in a numeral. -/
def inNumeral (c : Char) : Bool :=
  Text.isAsciiAlphanumeric c || c == '.' || c == '-' || c == '+'

theorem isAsciiAlphanumeric_of_isDigit {c : Char} (digit : isDigit c = true) :
    Text.isAsciiAlphanumeric c = true := by
  have between : ('0' ≤ c && c ≤ '9') = true := by
    rw [isDigit, digit?] at digit
    split at digit
    next between => exact between
    next => cases digit
  simp only [Text.isAsciiAlphanumeric, between, Bool.or_true]

theorem isAsciiAlphanumeric_of_toLower {c : Char} (lower : Text.isAsciiAlphanumeric c.toLower = true) :
    Text.isAsciiAlphanumeric c = true := by
  unfold Char.toLower at lower
  split at lower
  next upper =>
    have between : ('A' ≤ c && c ≤ 'Z') = true := by
      rw [Bool.and_eq_true, decide_eq_true_eq, decide_eq_true_eq]
      exact upper
    simp only [Text.isAsciiAlphanumeric, between, Bool.or_true, Bool.true_or]
  next => exact lower

theorem isDigit_of_readFrom? {cs : List Char} {acc n : Nat} (reads : readFrom? acc cs = some n) :
    ∀ c ∈ cs, isDigit c = true := by
  induction cs generalizing acc with
  | nil => exact List.forall_mem_nil _
  | cons c cs ih =>
    rw [readFrom?, Option.bind_eq_some_iff] at reads
    obtain ⟨d, digit, reads⟩ := reads
    exact List.forall_mem_cons.mpr ⟨Option.isSome_of_mem digit, ih reads⟩

theorem inNumeral_of_digits? {cs : List Char} {n : Nat} (reads : digits? cs = some n) :
    ∀ c ∈ cs, inNumeral c = true := by
  intro c member
  have digit : isDigit c = true := by
    cases cs with
    | nil => cases member
    | cons d cs => exact isDigit_of_readFrom? reads c member
  simp only [inNumeral, isAsciiAlphanumeric_of_isDigit digit, Bool.true_or]

theorem inNumeral_of_exponent? {cs : List Char} {e : Int} (reads : exponent? cs = some e) :
    ∀ c ∈ cs, inNumeral c = true := by
  cases cs with
  | nil => exact List.forall_mem_nil _
  | cons mark cs =>
    unfold exponent? at reads
    dsimp only at reads
    split at reads
    next isMark =>
      refine List.forall_mem_cons.mpr ⟨?_, ?_⟩
      · simp only [Bool.or_eq_true, decide_eq_true_eq] at isMark
        obtain rfl | rfl := isMark
        · decide
        · decide
      · split at reads
        · obtain ⟨i, negated, -⟩ := Option.map_eq_some_iff.mp reads
          obtain ⟨n, digits, -⟩ := Option.bind_eq_some_iff.mp negated
          exact List.forall_mem_cons.mpr ⟨by decide, inNumeral_of_digits? digits⟩
        · obtain ⟨n, digits, -⟩ := Option.map_eq_some_iff.mp reads
          exact List.forall_mem_cons.mpr ⟨by decide, inNumeral_of_digits? digits⟩
        · obtain ⟨n, digits, -⟩ := Option.map_eq_some_iff.mp reads
          exact inNumeral_of_digits? digits
    next => cases reads

/-- Digits at the front do not matter. -/
theorem inNumeral_of_dropWhile {cs : List Char}
    (rest : ∀ c ∈ cs.dropWhile isDigit, inNumeral c = true) : ∀ c ∈ cs, inNumeral c = true := by
  induction cs with
  | nil => exact rest
  | cons c cs ih =>
    rw [List.dropWhile_cons] at rest
    split at rest
    next digit =>
      have first : inNumeral c = true := by
        simp only [inNumeral, isAsciiAlphanumeric_of_isDigit digit, Bool.true_or]
      exact List.forall_mem_cons.mpr ⟨first, ih rest⟩
    next => exact rest

theorem inNumeral_of_magnitude? {cs : List Char} {m : Nat × Int} (reads : magnitude? cs = some m) :
    ∀ c ∈ cs, inNumeral c = true := by
  refine inNumeral_of_dropWhile ?_
  unfold magnitude? at reads
  dsimp only at reads
  split at reads
  next exponent =>
    split at exponent
    next fs after =>
      rw [after]
      exact List.forall_mem_cons.mpr
        ⟨by decide, inNumeral_of_dropWhile (inNumeral_of_exponent? exponent)⟩
    next => exact inNumeral_of_exponent? exponent
  next => cases reads

theorem inNumeral_of_asciiLower {cs word : List Char} (same : asciiLower cs = word)
    (letters : word.all Text.isAsciiAlphanumeric = true) : ∀ c ∈ cs, inNumeral c = true := by
  intro c member
  have lower : c.toLower ∈ word := by
    rw [← same]
    exact List.mem_map_of_mem member
  simp only [inNumeral, isAsciiAlphanumeric_of_toLower (List.all_eq_true.mp letters _ lower), Bool.true_or]

theorem inNumeral_of_mem {cs : List Char} (numeral : isNumeral cs = true) :
    ∀ c ∈ cs, inNumeral c = true := by
  have body : ∀ c ∈ (splitSign cs).2, inNumeral c = true := by
    unfold isNumeral numeral? at numeral
    dsimp only at numeral
    split at numeral
    next named =>
      rw [Bool.or_eq_true, decide_eq_true_eq, decide_eq_true_eq] at named
      obtain inf | infinity := named
      · exact inNumeral_of_asciiLower inf (by decide)
      · exact inNumeral_of_asciiLower infinity (by decide)
    next =>
      split at numeral
      next nan => exact inNumeral_of_asciiLower nan (by decide)
      next =>
        obtain ⟨m, reads⟩ := Option.isSome_iff_exists.mp numeral
        obtain ⟨m, reads, -⟩ := Option.map_eq_some_iff.mp reads
        exact inNumeral_of_magnitude? reads
  unfold splitSign at body
  split at body
  · exact List.forall_mem_cons.mpr ⟨by decide, body⟩
  · exact List.forall_mem_cons.mpr ⟨by decide, body⟩
  · exact body

end Shortcuts.Decimal
