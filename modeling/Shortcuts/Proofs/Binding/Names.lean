import Shortcuts.Binding.Parser
import Shortcuts.Proofs.Binding.Encoding
/-!
# Names of keys read back

Reading folds case first, so a name is read back only because normal keys have names in lower case
(`IsNormal.lowercase_name`).  Two kinds of keys cannot be read from a text: function keys beyond
those of a keyboard, whose names are refused, and blank characters, whose names are lost when the
text around them is cut at blanks.  Conversely what is read from a word is neither
(`isReadable_of_ofName?`).
-/

namespace Shortcuts

/-- A character of the words and numbers in encodings. -/
def inEncoding (c : Char) : Bool :=
  ('a' ≤ c && c ≤ 'z') || ('0' ≤ c && c ≤ '9') || c == '_' || c == '+'

theorem lower_of_inEncoding {c : Char} (inside : inEncoding c = true) :
    Text.lower c = [c] ∧ Text.isBlank c = false ∧ c ≠ '*' := by
  have ascii : c.toNat < 0x80 := by
    simp only [inEncoding, Bool.or_eq_true, Bool.and_eq_true, decide_eq_true_eq, Char.le_def,
      UInt32.le_iff_toNat_le, beq_iff_eq] at inside
    obtain ((letter | digit) | rfl) | rfl := inside
    · exact Nat.lt_of_le_of_lt letter.2 (by decide)
    · exact Nat.lt_of_le_of_lt digit.2 (by decide)
    · decide
    · decide
  -- so there are few enough of them to go through
  have each : ∀ n < 0x80, inEncoding (Char.ofNat n) = true →
      Text.lower (Char.ofNat n) = [Char.ofNat n] ∧ Text.isBlank (Char.ofNat n) = false ∧
        Char.ofNat n ≠ '*' := by
    decide
  have all := each c.toNat ascii
  rw [Char.ofNat_toNat] at all
  exact all inside

theorem inEncoding_of_isDigit {c : Char} (digit : c.isDigit = true) : inEncoding c = true := by
  simp only [Char.isDigit, Bool.and_eq_true, decide_eq_true_eq] at digit
  simp only [inEncoding, Char.le_def, Bool.or_eq_true]
  exact .inl (.inl (.inr (by simpa using digit)))

theorem isClear_toDigits (n : Nat) : Text.IsClear (Nat.toDigits 10 n) := fun _ digit =>
  (lower_of_inEncoding (inEncoding_of_isDigit (Decimal.isDigit_of_mem_toDigits digit))).2.1

theorem Modifiers.inEncoding_of_mem_encode (m : Modifiers) :
    ∀ c ∈ m.encode.toList, inEncoding c = true := by
  have all : ∀ m : Modifiers, m.encode.toList.all inEncoding = true := by decide
  exact List.all_eq_true.mp (all m)

theorem Modifiers.lowercase_encode (m : Modifiers) :
    Text.lowercase m.encode.toList = m.encode.toList :=
  Text.lowercase_eq_self fun c member =>
    (lower_of_inEncoding (m.inEncoding_of_mem_encode c member)).1

namespace Key

def isBlank : Key → Bool
  | char c => Text.isBlank c
  | _ => false

/-- Whether a text can name a key. -/
def isReadable : Key → Bool
  | char c => !Text.isBlank c
  | function n => 1 ≤ n && n ≤ 24
  | _ => true

theorem isReadable_of_isBlank {k : Key} (blank : k.isBlank = true) : k.isReadable = false := by
  cases k with
  | char c => rw [isReadable, show Text.isBlank c = true from blank, Bool.not_true]
  | _ => cases blank

theorem isReadable_eq_false_iff {k : Key} :
    k.isReadable = false ↔
      (∃ n, k = function n ∧ (n = 0 ∨ 24 < n)) ∨ ∃ c, k = char c ∧ Text.isBlank c = true := by
  cases k with
  | char c => simp [isReadable]
  | function n =>
    have outside : (1 ≤ n && n ≤ 24) = false ↔ n = 0 ∨ 24 < n := by
      simp [UInt8.le_iff_toNat_le, UInt8.lt_iff_toNat_lt, ← UInt8.toNat_inj]
      omega
    simp [isReadable, outside]
  | _ => simp [isReadable]

/-! ## From the key to its name and back -/

/-- The name of a normal key is a character that stands for itself, or a word. -/
theorem IsNormal.name_cases {k : Key} (normal : k.IsNormal) :
    (∃ c, k = char c ∧ k.name.toList = [c] ∧ Text.lower c = [c]) ∨
      ∀ c ∈ k.name.toList, inEncoding c = true := by
  cases normal.spelling with
  | letter c isChar notPlus notSpace spelled =>
    refine .inl ⟨c, isChar, spelled, ?_⟩
    rw [← spelled, isChar, name, if_neg notPlus, if_neg notSpace, String.toList_ofList]
  | numbered n _ spelled =>
    rw [spelled]
    refine .inr (List.forall_mem_cons.mpr ⟨by decide, fun c digit => ?_⟩)
    exact inEncoding_of_isDigit (Decimal.isDigit_of_mem_toDigits digit)
  | word listed =>
    have each : ∀ w ∈ words, w.1.toList.all inEncoding = true := by decide
    exact .inr (List.all_eq_true.mp (each _ (mem_words_of_lookup listed)))

theorem IsNormal.name_ne_nil {k : Key} (normal : k.IsNormal) : k.name.toList ≠ [] := by
  cases normal.spelling with
  | letter c _ _ _ spelled => simp [spelled]
  | numbered n _ spelled => simp [spelled]
  | word listed =>
    have long := (words_apart _ (mem_words_of_lookup listed)).1
    exact List.ne_nil_of_length_pos (Nat.lt_of_lt_of_le (by decide) long)

theorem IsNormal.name_of_isBlank {k : Key} (normal : k.IsNormal) (blank : k.isBlank = true) :
    ∃ c, k.name.toList = [c] ∧ Text.isBlank c = true := by
  cases normal.spelling with
  | letter c isChar _ _ spelled =>
    rw [isChar] at blank
    exact ⟨c, spelled, blank⟩
  | numbered n isFunction _ =>
    rw [isFunction] at blank
    cases blank
  | word listed =>
    have each : ∀ w ∈ words, w.2.isBlank = false := by decide
    rw [each _ (mem_words_of_lookup listed)] at blank
    cases blank

theorem IsNormal.isClear_name {k : Key} (normal : k.IsNormal) (visible : k.isBlank = false) :
    Text.IsClear k.name.toList := by
  rcases normal.name_cases with ⟨c, isChar, spelled, -⟩ | inside
  · rw [isChar] at visible
    rw [spelled]
    exact List.forall_mem_singleton.mpr visible
  · exact fun c member => (lower_of_inEncoding (inside c member)).2.1

theorem IsNormal.lowercase_name {k : Key} (normal : k.IsNormal) :
    Text.lowercase k.name.toList = k.name.toList := by
  refine Text.lowercase_eq_self fun c member => ?_
  rcases normal.name_cases with ⟨d, -, spelled, settled⟩ | inside
  · rw [spelled, List.mem_singleton] at member
    rw [member, settled]
  · exact (lower_of_inEncoding (inside c member)).1

theorem IsNormal.normalized_eq {k : Key} (normal : k.IsNormal) : k.normalized = k := by
  obtain ⟨k, rfl⟩ := normal
  cases k with
  | char c =>
    by_cases space : c = ' '
    · simp [normalized, space]
    · have visible : Text.firstLower c ≠ ' ' := fun h => space (Text.eq_space_of_firstLower h)
      simp [normalized, space, visible, Text.firstLower_firstLower]
  | _ => rfl

theorem ofName?_name_function (n : UInt8) :
    ofName? (function n).name.toList = if 1 ≤ n && n ≤ 24 then some (function n) else none := by
  have normal : (function n).IsNormal := ⟨function n, rfl⟩
  have spelled : (function n).name.toList = 'f' :: Nat.toDigits 10 n.toNat := by simp [name]
  have number : functionNumber? ('f' :: Nat.toDigits 10 n.toNat) = some n.toNat := by
    rw [functionNumber?, Decimal.natural?_toDigits]
    exact Nat.le_of_lt_succ n.toNat_lt
  have long : Nat.toDigits 10 n.toNat ≠ [] := Nat.toDigits_ne_nil
  rw [ofName?, normal.lowercase_name, spelled]
  unfold ofLowerName?
  split
  next single =>
    -- a number has digits, so this name is no single character
    obtain ⟨-, noDigits⟩ := List.cons.inj single
    exact absurd noDigits long
  next =>
    rw [number]
    simp [UInt8.le_iff_toNat_le]

theorem IsNormal.ofName?_name {k : Key} (normal : k.IsNormal) (readable : k.isReadable = true) :
    ofName? k.name.toList = some k := by
  rcases normal.read_name with ⟨n, rfl, -⟩ | ⟨-, reads⟩
  · rw [ofName?_name_function]
    exact if_pos readable
  · rw [ofName?, normal.lowercase_name, reads]

/-! ## From a name to the key -/

theorem isReadable_normalized {k : Key} (readable : k.isReadable = true) :
    k.normalized.isReadable = true := by
  cases k with
  | char c =>
    rw [isReadable, Bool.not_eq_true'] at readable
    rw [normalized]
    split
    · rfl
    · -- case folding makes no blank of another character
      rw [isReadable, Bool.not_eq_true', Bool.eq_false_iff]
      intro blank
      rw [Text.isBlank_of_firstLower blank] at readable
      cases readable
  | _ => exact readable

theorem isReadable_of_ofLowerName? {cs : List Char} {k : Key} (clear : Text.IsClear cs)
    (reads : ofLowerName? cs = some k) : k.isReadable = true := by
  unfold ofLowerName? at reads
  split at reads
  next c =>
    have visible : Text.isBlank c = false := clear c (List.mem_singleton_self c)
    cases reads
    split
    · rfl
    · rw [isReadable, visible]
      rfl
  next =>
    split at reads
    next n number =>
      split at reads
      next within =>
        cases reads
        rw [Bool.and_eq_true, decide_eq_true_eq, decide_eq_true_eq] at within
        have same : (UInt8.ofNat n).toNat = n := Nat.mod_eq_of_lt (by omega)
        simp [isReadable, UInt8.le_iff_toNat_le, same, within]
      next => cases reads
    next =>
      have each : ∀ w ∈ words, w.2.isReadable = true := by decide
      exact each _ (mem_words_of_lookup reads)

theorem isReadable_of_ofName? {cs : List Char} {k : Key} (clear : Text.IsClear cs)
    (reads : ofName? cs = some k) : k.isReadable = true :=
  isReadable_of_ofLowerName? clear.lowercase reads

end Key

end Shortcuts
