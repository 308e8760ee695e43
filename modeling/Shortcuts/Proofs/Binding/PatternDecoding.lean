import Shortcuts.Proofs.Binding.Decoding
import Shortcuts.Proofs.Binding.PatternEncoding
/-!
# Patterns read back

The text of a pattern is cut at blanks before its parts are read.  As long as each part is readable
this gives the parts again, and whatever was read from a text is readable.  But a stroke of a blank
key without modifiers is written as a blank: nothing of it is left between the words of a chord, and
the other part is then read alone (`parse_encode_eq_ok_iff`).
-/

namespace Shortcuts

/-! ## Marks -/

/-- A text that is taken for a click or a drag has the mark among its words. -/
theorem exists_word_of_isMarked {cs : List Char} (marked : isMarked cs = true) :
    ∃ w ∈ Text.words cs, Text.lowercase w ∈ markWords := by
  have marks : ∀ mark ∈ [Click.mark, Drag.mark, Drag.shortMark],
      ∃ v ∈ markWords, mark.toList = v ++ [' '] := by decide
  obtain ⟨mark, listed, starts⟩ := List.any_eq_true.mp marked
  obtain ⟨v, isMark, spelled⟩ := marks mark listed
  obtain ⟨rest, text⟩ := List.isPrefixOf_iff_prefix.mp starts
  have clear : ∀ v ∈ markWords, v ≠ [] ∧ Text.IsClear v := by decide
  rw [spelled, List.append_assoc, List.singleton_append] at text
  have noSpace : ' ' ∉ v := fun member => absurd ((clear v isMark).2 _ member) (by decide)
  -- the mark ends in a space, which no other character folds to
  obtain ⟨w, ds, rfl, lowered⟩ := Text.exists_of_lowercase text.symm noSpace
  have word : Text.words w = [w] := by
    refine Text.words_of_clear (Text.IsClear.of_lowercase ?_) ?_
    · rw [lowered]
      exact (clear v isMark).2
    · rintro rfl
      exact (clear v isMark).1 lowered.symm
  refine ⟨w, ?_, lowered ▸ isMark⟩
  rw [Text.words_append_blank (by decide), word]
  exact List.mem_append_left _ (List.mem_singleton_self w)

theorem isMarked_encode_click (c : Click) : isMarked c.encode.toList = true := by
  rw [isMarked, c.encode_eq_mark_append, List.any_cons,
    isPrefixOf_lowercase Click.lowercase_mark c.body, Bool.true_or]

theorem isMarked_encode_drag (d : Drag) : isMarked d.encode.toList = true := by
  rw [isMarked, d.encode_eq_mark_append, List.any_cons, List.any_cons,
    isPrefixOf_lowercase Drag.lowercase_mark d.body, Bool.true_or, Bool.or_true]

/-! ## What is left of a stroke -/

namespace Stroke

/-- Whether nothing but a blank is written for a stroke. -/
def isBlank (s : Stroke) : Bool := s.mods.isEmpty && s.key.isBlank

theorem isReadable_of_isBlank {s : Stroke} (blank : s.isBlank = true) :
    s.key.isReadable = false :=
  Key.isReadable_of_isBlank (Bool.and_eq_true _ _ ▸ blank).2

theorem visible_eq_nil_iff {s : Stroke} : s.visible = [] ↔ s.isBlank = true := by
  have noModifiers : ∀ m : Modifiers, m.encode.toList = [] ↔ m.isEmpty = true := by decide
  cases blank : s.key.isBlank with
  | true => rw [visible_of_isBlank blank, noModifiers, isBlank, blank, Bool.and_true]
  | false =>
    rw [visible_of_not_isBlank blank, isBlank, blank, Bool.and_false, encode,
      String.toList_append, List.append_eq_nil_iff]
    simp [s.isNormal.name_ne_nil]

theorem words_of_isBlank {s : Stroke} (blank : s.isBlank = true) :
    Text.words s.encode.toList = [] := by
  rw [← Text.words_trim, ← visible, visible_eq_nil_iff.mpr blank, Text.words_nil]

theorem words_of_not_isBlank {s : Stroke} (written : s.isBlank = false) :
    Text.words s.encode.toList = [s.visible] := by
  rw [← Text.words_trim, ← visible]
  refine Text.words_of_clear s.isClear_visible fun nothing => ?_
  rw [visible_eq_nil_iff.mp nothing] at written
  cases written

/-- What is left of a stroke is not taken for a mark. -/
theorem visible_not_mark (s : Stroke) : Text.lowercase s.visible ∉ markWords := by
  cases blank : s.key.isBlank with
  | true =>
    -- modifiers alone end in a plus sign, and the marks have none
    rw [visible_of_isBlank blank, s.mods.lowercase_encode]
    intro mark
    have noPlus : ∀ w ∈ markWords, '+' ∉ w := by decide
    obtain ⟨-, none⟩ := Modifiers.eq_of_encode_append (v := []) List.not_mem_nil (noPlus _ mark)
      (List.append_nil _)
    rw [← none] at mark
    exact absurd mark (by decide)
  | false =>
    rw [visible_of_not_isBlank blank, s.lowercase_encode]
    exact s.encode_not_mark

theorem read_visible_eq_ok_iff {s : Stroke} {b : Binding} :
    Binding.read s.visible = .ok b ↔ s.key.isReadable = true ∧ b = .stroke s := by
  rw [Binding.read_of_isClear s.isClear_visible, ← Binding.parse_stroke]
  cases readable : s.key.isReadable with
  | true =>
    rw [Binding.parse_of_isReadable (b := .stroke s) readable]
    simp [eq_comm]
  | false =>
    obtain ⟨e, fails, -⟩ := Binding.parse_of_not_isReadable (b := .stroke s) readable
    simp [fails]

end Stroke

/-! ## The words of a pattern -/

namespace Pattern

theorem not_isMarked {cs : List Char}
    (unmarked : ∀ w ∈ Text.words cs, Text.lowercase w ∉ markWords) :
    isMarked (Text.trim cs) = false := by
  rw [Bool.eq_false_iff]
  intro marked
  obtain ⟨w, word, mark⟩ := exists_word_of_isMarked marked
  rw [Text.words_trim] at word
  exact unmarked w word mark

theorem read_of_words_nil {cs : List Char} (words : Text.words cs = []) :
    read cs = .error .empty := by
  have unmarked : isMarked (Text.trim cs) = false := not_isMarked (by simp [words])
  simp only [read, unmarked, Text.words_trim, words]
  rfl

theorem read_of_words_one {cs w : List Char} (words : Text.words cs = [w])
    (unmarked : Text.lowercase w ∉ markWords) : read cs = single <$> Binding.read w := by
  have unmarked : isMarked (Text.trim cs) = false := not_isMarked (by simpa [words] using unmarked)
  simp only [read, unmarked, Text.words_trim, words]
  rfl

theorem read_of_words_two_eq_ok_iff {cs v w : List Char} {q : Pattern}
    (words : Text.words cs = [v, w])
    (unmarked : Text.lowercase v ∉ markWords ∧ Text.lowercase w ∉ markWords) :
    read cs = .ok q ↔ ∃ s t, Binding.read v = .ok (.stroke s) ∧ Binding.read w = .ok (.stroke t) ∧
      q = chord s t := by
  have unmarked : isMarked (Text.trim cs) = false := not_isMarked (by simpa [words] using unmarked)
  simp only [read, unmarked, Text.words_trim, words]
  rw [if_neg Bool.false_ne_true, bind_eq_ok_iff]
  constructor
  · rintro ⟨b, readFirst, rest⟩
    obtain ⟨c, readSecond, result⟩ := bind_eq_ok_iff.mp rest
    split at result
    next s t =>
      cases result
      exact ⟨s, t, readFirst, readSecond, rfl⟩
    next => cases result
  · rintro ⟨s, t, readFirst, readSecond, rfl⟩
    exact ⟨_, readFirst, bind_eq_ok_iff.mpr ⟨_, readSecond, rfl⟩⟩

/-- A text with the words of one stroke is read as that stroke, if anything is left of it. -/
theorem read_stroke_eq_ok_iff {cs : List Char} {s : Stroke} {q : Pattern}
    (words : Text.words cs = Text.words s.encode.toList) :
    read cs = .ok q ↔ s.key.isReadable = true ∧ q = single (.stroke s) := by
  cases blank : s.isBlank with
  | true =>
    rw [read_of_words_nil (words.trans (Stroke.words_of_isBlank blank))]
    simp [Stroke.isReadable_of_isBlank blank]
  | false =>
    have one := words.trans (Stroke.words_of_not_isBlank blank)
    rw [read_of_words_one one s.visible_not_mark, map_eq_ok_iff]
    simp only [Stroke.read_visible_eq_ok_iff]
    constructor
    · rintro ⟨b, ⟨readable, rfl⟩, rfl⟩
      exact ⟨readable, rfl⟩
    · rintro ⟨readable, rfl⟩
      exact ⟨_, ⟨readable, rfl⟩, rfl⟩

theorem parse_single_eq_ok_iff {b : Binding} {q : Pattern} :
    parse (single b).encode = .ok q ↔ b.isReadable = true ∧ q = single b := by
  -- behind a mark, a binding is read as it stands
  have marked {cs : List Char} (trimmed : Text.trim cs = cs) (marked : isMarked cs = true)
      (reads : Binding.read cs = .ok b) : read cs = .ok (single b) := by
    simp only [read, trimmed, marked, reads]
    rfl
  cases b with
  | stroke s => exact read_stroke_eq_ok_iff rfl
  | click c =>
    have reads := marked c.trim_encode (isMarked_encode_click c) (Binding.read_click c)
    simp [parse, encode, Binding.encode, reads, Binding.isReadable, eq_comm]
  | drag d =>
    have reads := marked d.trim_encode (isMarked_encode_drag d) (Binding.read_drag d)
    simp [parse, encode, Binding.encode, reads, Binding.isReadable, eq_comm]

theorem parse_chord_eq_ok_iff {s t : Stroke} {q : Pattern} :
    parse (chord s t).encode = .ok q ↔
      (s.key.isReadable = true ∧ t.key.isReadable = true ∧ q = chord s t) ∨
        (s.isBlank = true ∧ t.key.isReadable = true ∧ q = single (.stroke t)) ∨
          (s.key.isReadable = true ∧ t.isBlank = true ∧ q = single (.stroke s)) := by
  have words : Text.words (chord s t).encode.toList =
      Text.words s.encode.toList ++ Text.words t.encode.toList := by
    rw [toList_encode_chord, Text.words_append_blank (by decide)]
  -- a blank part leaves no word, and the reader then sees the other part only
  cases first : s.isBlank with
  | true =>
    have rest : Text.words (chord s t).encode.toList = Text.words t.encode.toList := by
      rw [words, Stroke.words_of_isBlank first, List.nil_append]
    rw [parse, read_stroke_eq_ok_iff rest]
    simp [Stroke.isReadable_of_isBlank first]
  | false =>
    cases second : t.isBlank with
    | true =>
      have rest : Text.words (chord s t).encode.toList = Text.words s.encode.toList := by
        rw [words, Stroke.words_of_isBlank second, List.append_nil]
      rw [parse, read_stroke_eq_ok_iff rest]
      simp [Stroke.isReadable_of_isBlank second]
    | false =>
      rw [Stroke.words_of_not_isBlank first, Stroke.words_of_not_isBlank second] at words
      rw [parse, read_of_words_two_eq_ok_iff words ⟨s.visible_not_mark, t.visible_not_mark⟩]
      simp only [Stroke.read_visible_eq_ok_iff, Binding.stroke.injEq]
      constructor
      · rintro ⟨_, _, ⟨readFirst, rfl⟩, ⟨readSecond, rfl⟩, rfl⟩
        exact .inl ⟨readFirst, readSecond, rfl⟩
      · rintro (⟨readFirst, readSecond, rfl⟩ | ⟨absent, -⟩ | ⟨-, absent, -⟩)
        · exact ⟨s, t, ⟨readFirst, rfl⟩, ⟨readSecond, rfl⟩, rfl⟩
        · cases absent
        · cases absent

/-! ## Patterns that are kept -/

/-- The bindings that a pattern consists of. -/
def bindings (p : Pattern) : List Binding := p.first :: (p.second?.map .stroke).toList

/-- Whether a text can say what a pattern is. -/
def isReadable (p : Pattern) : Bool := p.bindings.all Binding.isReadable

theorem parts_eq_map_bindings (p : Pattern) : p.parts = p.bindings.map Binding.encode := by
  cases p <;> rfl

theorem isReadable_single (b : Binding) : (single b).isReadable = b.isReadable :=
  Bool.and_true _

theorem isReadable_chord {s t : Stroke} :
    (chord s t).isReadable = true ↔ s.key.isReadable = true ∧ t.key.isReadable = true := by
  simp [isReadable, bindings, first, second?, Binding.isReadable]

theorem parse_of_isReadable {p : Pattern} (readable : p.isReadable = true) :
    parse p.encode = .ok p := by
  cases p with
  | single b => exact parse_single_eq_ok_iff.mpr ⟨isReadable_single b ▸ readable, rfl⟩
  | chord s t =>
    obtain ⟨first, second⟩ := isReadable_chord.mp readable
    exact parse_chord_eq_ok_iff.mpr (.inl ⟨first, second, rfl⟩)

theorem isReadable_of_read {cs : List Char} {p : Pattern} (reads : read cs = .ok p) :
    p.isReadable = true := by
  have one {cs : List Char} (reads : single <$> Binding.read cs = .ok p) : p.isReadable = true := by
    obtain ⟨b, readBinding, rfl⟩ := map_eq_ok_iff.mp reads
    rw [isReadable_single]
    exact Binding.isReadable_of_read readBinding
  unfold read at reads
  dsimp only at reads
  split at reads
  next => exact one reads
  next =>
    split at reads
    next => cases reads
    next => exact one reads
    next v w words =>
      obtain ⟨b, readFirst, rest⟩ := bind_eq_ok_iff.mp reads
      obtain ⟨c, readSecond, result⟩ := bind_eq_ok_iff.mp rest
      split at result
      next s t =>
        cases result
        exact isReadable_chord.mpr
          ⟨Binding.isReadable_of_read readFirst, Binding.isReadable_of_read readSecond⟩
      next => cases result
    next => cases reads

/-- What was read from any text has a text of its own that is read back, in whole and part by
part. -/
theorem parse_canonical (text : String) (p : Pattern) (reads : parse text = .ok p) :
    parse p.encode = .ok p ∧ (p.parts.length = 2 ↔ p.isChord = true) ∧
      p.parts.map Binding.parse = p.bindings.map .ok := by
  have readable := isReadable_of_read reads
  refine ⟨parse_of_isReadable readable, ?_, ?_⟩
  · rw [p.length_parts]
    cases p.isChord <;> simp
  · rw [p.parts_eq_map_bindings, List.map_map]
    refine List.map_congr_left fun b member => ?_
    exact Binding.parse_of_isReadable (List.all_eq_true.mp readable b member)

/-- Blanks, case and the names of the keys become the canonical ones at once. -/
theorem parse_canonical_aliases :
    let p := chord (.ofKey (.char 'é') .onlyCtrl) (.ofKey (.char '+') .onlyAlt)
    parse " Control+É\tOPTION++" = .ok p ∧ p.encode = "ctrl+é alt+plus" ∧
      parse p.encode = .ok p := by
  intro p
  have reads : parse " Control+É\tOPTION++" = .ok p := by decide
  exact ⟨reads, by decide, (parse_canonical _ p reads).1⟩

/-- The text of a pattern is read back as that pattern or refused, but for a chord of which one part
is written as a blank: that is read as the other part alone. -/
theorem parse_encode_eq_ok_iff (p q : Pattern) :
    parse p.encode = .ok q ↔
      (q = p ∧ p.isReadable = true) ∨
        ∃ s t, p = chord s t ∧
          ((s.isBlank = true ∧ t.key.isReadable = true ∧ q = single (.stroke t)) ∨
            (s.key.isReadable = true ∧ t.isBlank = true ∧ q = single (.stroke s))) := by
  cases p with
  | single b =>
    rw [parse_single_eq_ok_iff, isReadable_single]
    constructor
    · rintro ⟨readable, rfl⟩
      exact .inl ⟨rfl, readable⟩
    · rintro (⟨rfl, readable⟩ | ⟨_, _, other, -⟩)
      · exact ⟨readable, rfl⟩
      · cases other
  | chord s t =>
    rw [parse_chord_eq_ok_iff, isReadable_chord]
    constructor
    · rintro (⟨first, second, rfl⟩ | lost)
      · exact .inl ⟨rfl, first, second⟩
      · exact .inr ⟨s, t, rfl, lost⟩
    · rintro (⟨rfl, first, second⟩ | ⟨_, _, same, lost⟩)
      · exact .inl ⟨first, second, rfl⟩
      · cases same
        exact .inr lost

/-- A no-break space is a key of its own, but to the reader it is one more space between words. -/
theorem chord_of_blank_lost :
    let p := chord (.ofKey (.char '\u00a0') .empty) (.ofKey (.char 'a') .empty)
    let q := single (.stroke (.ofKey (.char 'a') .empty))
    p.encode = "\u00a0 a" ∧ parse p.encode = .ok q ∧ q ≠ p := by
  decide

end Pattern

end Shortcuts
