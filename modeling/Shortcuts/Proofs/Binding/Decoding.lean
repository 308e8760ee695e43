import Shortcuts.Proofs.Binding.Combinations
import Shortcuts.Proofs.Binding.Names
import Shortcuts.Proofs.Except
/-!
# Bindings read back

Reading a text undoes writing a binding (`parse_encode_iff`).  The modifiers come back because a
combination is cut at every plus sign and no name has one in it; the count of a click comes back
because it stands behind the last star.  The one thing that is lost is a blank at the end of a
stroke: the ends of a text are trimmed before it is looked at, so that only `visible` is left of the
stroke.  With it goes the key, and the reader refuses what has none.

In the other direction, the key of a stroke that was read comes from a word without blanks.  So
nothing is read that cannot be written and read again (`isReadable_of_read`).
-/

namespace Shortcuts

/-! ## Combinations -/

namespace Modifiers

/-- The words for the modifiers of a set, in the order in which they are written. -/
def spelled (m : Modifiers) : List (List Char) :=
  ([(m.ctrl, "ctrl"), (m.shift, "shift"), (m.alt, "alt"), (m.logo, "meta")].filter (·.1)).map
    (·.2.toList)

theorem encode_eq_flatMap :
    ∀ m : Modifiers, m.encode.toList = m.spelled.flatMap (· ++ ['+']) := by
  decide

theorem ofWords?_spelled : ∀ m : Modifiers, ofWords? m.spelled = some m := by decide

theorem plus_not_mem_spelled : ∀ m : Modifiers, ∀ w ∈ m.spelled, '+' ∉ w := by decide

end Modifiers

theorem splitCombo_encode_append (m : Modifiers) {v : List Char} (noPlus : '+' ∉ v) :
    splitCombo (m.encode.toList ++ v) = (m.spelled, v) := by
  by_cases nothing : v = []
  · -- with nothing behind them, the modifiers end in a single plus sign
    have all : ∀ m : Modifiers, splitCombo (m.encode.toList ++ []) = (m.spelled, []) := by
      decide
    rw [nothing]
    exact all m
  · rw [m.encode_eq_flatMap]
    exact splitCombo_flatMap m.plus_not_mem_spelled (.inr ⟨nothing, noPlus⟩)

theorem readCombo_encode_append (m : Modifiers) {v : List Char} (noPlus : '+' ∉ v) :
    readCombo (m.encode.toList ++ v) =
      if v = [] then .error (.noKey (String.ofList (m.encode.toList ++ v))) else .ok (m, v) := by
  unfold readCombo
  rw [splitCombo_encode_append m noPlus]
  simp only [List.isEmpty_iff, m.ofWords?_spelled]

/-! ## Strokes -/

theorem Modifiers.isClear_encode (m : Modifiers) : Text.IsClear m.encode.toList :=
  fun c member => (lower_of_inEncoding (m.inEncoding_of_mem_encode c member)).2.1

namespace Stroke

/-- What is left of the text of a stroke when the blanks around it are gone. -/
def visible (s : Stroke) : List Char := Text.trim s.encode.toList

theorem visible_of_isBlank {s : Stroke} (blank : s.key.isBlank = true) :
    s.visible = s.mods.encode.toList := by
  obtain ⟨c, spelled, blank⟩ := s.isNormal.name_of_isBlank blank
  rw [visible, encode, String.toList_append, spelled,
    Text.trim_append_blank s.mods.isClear_encode blank]

theorem isClear_encode {s : Stroke} (visible : s.key.isBlank = false) :
    Text.IsClear s.encode.toList := by
  rw [encode, String.toList_append]
  exact s.mods.isClear_encode.append (s.isNormal.isClear_name visible)

theorem visible_of_not_isBlank {s : Stroke} (visible : s.key.isBlank = false) :
    s.visible = s.encode.toList := Text.trim_of_clear (isClear_encode visible)

theorem isClear_visible (s : Stroke) : Text.IsClear s.visible := by
  cases blank : s.key.isBlank with
  | true =>
    rw [visible_of_isBlank blank]
    exact s.mods.isClear_encode
  | false =>
    rw [visible_of_not_isBlank blank]
    exact isClear_encode blank

theorem lowercase_encode (s : Stroke) : Text.lowercase s.encode.toList = s.encode.toList := by
  rw [encode, String.toList_append, Text.lowercase_append, s.mods.lowercase_encode,
    s.isNormal.lowercase_name]

theorem readCombo_encode (s : Stroke) :
    readCombo s.encode.toList = .ok (s.mods, s.key.name.toList) := by
  rw [encode, String.toList_append, readCombo_encode_append s.mods s.isNormal.clear.1,
    if_neg s.isNormal.name_ne_nil]

theorem read_visible_of_isReadable {s : Stroke} (readable : s.key.isReadable = true) :
    read s.visible = .ok s := by
  cases blank : s.key.isBlank with
  | true =>
    rw [Key.isReadable_of_isBlank blank] at readable
    cases readable
  | false =>
    rw [visible_of_not_isBlank blank, read, s.readCombo_encode]
    simp [bind, Except.bind, s.isNormal.ofName?_name readable, ofKey, s.isNormal.normalized_eq]

/-- The key of a stroke that cannot be read is missed, or it is unknown. -/
theorem read_visible_of_not_isReadable {s : Stroke} (unreadable : s.key.isReadable = false) :
    ∃ e, read s.visible = .error e ∧ e.fault = .key := by
  cases blank : s.key.isBlank with
  | true =>
    have noKey := readCombo_encode_append s.mods (v := []) List.not_mem_nil
    rw [List.append_nil, if_pos rfl] at noKey
    refine ⟨.noKey (String.ofList s.mods.encode.toList), ?_, rfl⟩
    rw [visible_of_isBlank blank, read, noKey]
    rfl
  | false =>
    have unknown : Key.ofName? s.key.name.toList = none := by
      rcases Key.isReadable_eq_false_iff.mp unreadable with
        ⟨n, isFunction, -⟩ | ⟨c, isChar, isBlank⟩
      · rw [isFunction, Key.isReadable] at unreadable
        rw [isFunction, Key.ofName?_name_function, unreadable]
        rfl
      · rw [isChar, Key.isBlank, isBlank] at blank
        cases blank
    refine ⟨.unknownKey s.key.name, ?_, rfl⟩
    rw [visible_of_not_isBlank blank, read, s.readCombo_encode]
    simp [bind, Except.bind, unknown]

end Stroke

/-! ## Buttons -/

namespace MouseButton

theorem isClear_name (b : MouseButton) : Text.IsClear b.name.toList := by
  cases b <;> decide

theorem name_ne_nil (b : MouseButton) : b.name.toList ≠ [] := by
  cases b <;> decide

theorem star_not_mem_name (b : MouseButton) : '*' ∉ b.name.toList := by
  cases b <;> decide

theorem ofName?_name (b : MouseButton) : ofName? b.name.toList = some b := by
  cases b <;> decide

end MouseButton

theorem Modifiers.star_not_mem_encode (m : Modifiers) : '*' ∉ m.encode.toList :=
  fun member => (lower_of_inEncoding (m.inEncoding_of_mem_encode _ member)).2.2 rfl

theorem readButton_encode (m : Modifiers) (b : MouseButton) :
    readButton (m.encode.toList ++ b.name.toList) = .ok (m, b) := by
  rw [readButton, readCombo_encode_append m b.plus_not_mem_name, if_neg b.name_ne_nil]
  simp [bind, Except.bind, b.ofName?_name]

/-! ## Clicks and drags -/

theorem splitAtLastStar?_eq_none {cs : List Char} (noStar : '*' ∉ cs) :
    splitAtLastStar? cs = none := by
  have inside := Text.bne_of_not_mem (mt List.mem_reverse.mp noStar)
  have stops : ∀ c ∈ [].head?, (c != '*') = false := by simp
  have dropped := (Text.takeWhile_append_stop inside stops).2
  rw [List.append_nil] at dropped
  simp only [splitAtLastStar?, dropped]

theorem splitAtLastStar?_append {ds : List Char} (noStar : '*' ∉ ds) (cs : List Char) :
    splitAtLastStar? (cs ++ '*' :: ds) = some (cs, ds) := by
  have inside := Text.bne_of_not_mem (mt List.mem_reverse.mp noStar)
  have stops : ∀ c ∈ ('*' :: cs.reverse).head?, (c != '*') = false := by simp
  have back : (cs ++ '*' :: ds).reverse = ds.reverse ++ '*' :: cs.reverse := by simp
  obtain ⟨taken, dropped⟩ := Text.takeWhile_append_stop inside stops
  simp only [splitAtLastStar?, back, taken, dropped, List.reverse_reverse]

namespace Click

/-- The text of a click behind its mark. -/
def body (c : Click) : List Char := c.mods.encode.toList ++ (c.button.name.toList ++ tail c.count)

theorem isClear_tail (n : Nat) : Text.IsClear (tail n) := by
  unfold tail
  split
  · exact List.forall_mem_cons.mpr ⟨by decide, isClear_toDigits n⟩
  · exact List.forall_mem_nil _

theorem isClear_body (c : Click) : Text.IsClear c.body :=
  c.mods.isClear_encode.append (c.button.isClear_name.append (isClear_tail c.count))

theorem body_ne_nil (c : Click) : c.body ≠ [] := by
  simp [body, c.button.name_ne_nil]

theorem encode_eq_mark_append (c : Click) : c.encode.toList = mark.toList ++ c.body :=
  c.toList_encode

theorem lowercase_mark : Text.lowercase mark.toList = mark.toList := by decide

theorem trim_encode (c : Click) : Text.trim c.encode.toList = c.encode.toList := by
  have first : ∀ d ∈ mark.toList.head?, Text.isBlank d = false := by
    rintro d ⟨⟩
    decide
  rw [c.encode_eq_mark_append]
  exact Text.trim_append_clear (by decide) first c.body_ne_nil c.isClear_body

theorem ofCount_count (c : Click) : ofCount c.mods c.button c.count = c := by
  obtain ⟨mods, button, count, atLeast, atMost⟩ := c
  have same : max 1 (min count Decimal.byteMax) = count := by omega
  simp only [ofCount, same]

theorem read_body (c : Click) : read c.body = .ok c := by
  have combo := readButton_encode c.mods c.button
  have noStar : '*' ∉ c.mods.encode.toList ++ c.button.name.toList := by
    simp [c.mods.star_not_mem_encode, c.button.star_not_mem_name]
  have clear := c.mods.isClear_encode.append c.button.isClear_name
  rw [body, ← List.append_assoc]
  by_cases several : 1 < c.count
  · have counted : Decimal.natural? Decimal.byteMax (Nat.toDigits 10 c.count) = some c.count :=
      Decimal.natural?_toDigits c.count_le
    -- digits follow the star of the count, so it is the last one
    have behind : '*' ∉ Nat.toDigits 10 c.count := Decimal.not_mem_toDigits (by decide) _
    rw [tail, if_pos several, read, splitAtLastStar?_append behind]
    simp only [Text.trim_of_clear (isClear_toDigits c.count), Text.trim_of_clear clear, counted,
      combo]
    simp [Option.filter, c.one_le_count, bind, Except.bind, ofCount_count]
  · have single : c.count = 1 := by
      have := c.one_le_count
      omega
    rw [tail, if_neg several, List.append_nil, read, splitAtLastStar?_eq_none noStar, combo]
    show Except.ok (ofCount c.mods c.button 1) = _
    rw [← single, ofCount_count]

end Click

namespace Drag

def body (d : Drag) : List Char := d.mods.encode.toList ++ d.button.name.toList

theorem isClear_body (d : Drag) : Text.IsClear d.body :=
  d.mods.isClear_encode.append d.button.isClear_name

theorem body_ne_nil (d : Drag) : d.body ≠ [] := by
  simp [body, d.button.name_ne_nil]

theorem encode_eq_mark_append (d : Drag) : d.encode.toList = mark.toList ++ d.body := by
  simp [encode, body]

theorem lowercase_mark : Text.lowercase mark.toList = mark.toList := by decide

theorem trim_encode (d : Drag) : Text.trim d.encode.toList = d.encode.toList := by
  have first : ∀ c ∈ mark.toList.head?, Text.isBlank c = false := by
    rintro c ⟨⟩
    decide
  rw [d.encode_eq_mark_append]
  exact Text.trim_append_clear (by decide) first d.body_ne_nil d.isClear_body

theorem read_body (d : Drag) (source : List Char) : read source d.body = .ok d := by
  have noStar : d.body.contains '*' = false := by
    simp [body, d.mods.star_not_mem_encode, d.button.star_not_mem_name]
  rw [read, noStar, body, readButton_encode]
  rfl

end Drag

/-! ## Bindings -/

theorem isPrefixOf_lowercase {mark : String} (settled : Text.lowercase mark.toList = mark.toList)
    (cs : List Char) : mark.toList.isPrefixOf (Text.lowercase (mark.toList ++ cs)) = true := by
  rw [Text.lowercase_append, settled, List.isPrefixOf_iff_prefix]
  exact List.prefix_append _ _

theorem afterMark?_append {mark : String} (settled : Text.lowercase mark.toList = mark.toList)
    {cs : List Char} (clear : Text.IsClear cs) : afterMark? mark (mark.toList ++ cs) = some cs := by
  rw [afterMark?, if_pos (isPrefixOf_lowercase settled cs), ← String.length_toList, List.drop_left,
    Text.trim_of_clear clear]

theorem afterMark?_of_isClear {mark : String} (space : ' ' ∈ mark.toList) {cs : List Char}
    (clear : Text.IsClear cs) : afterMark? mark cs = none := by
  rw [afterMark?, if_neg]
  intro starts
  have blank := clear.lowercase ' ' ((List.isPrefixOf_iff_prefix.mp starts).subset space)
  exact absurd blank (by decide)

namespace Binding

theorem read_click (c : Click) : read (click c).encode.toList = .ok (click c) := by
  have marked : afterMark? Click.mark c.encode.toList = some c.body := by
    rw [c.encode_eq_mark_append]
    exact afterMark?_append Click.lowercase_mark c.isClear_body
  rw [encode, read, c.trim_encode]
  simp only [marked, c.read_body]
  rfl

theorem read_drag (d : Drag) : read (drag d).encode.toList = .ok (drag d) := by
  have marked : afterMark? Drag.mark d.encode.toList = some d.body := by
    rw [d.encode_eq_mark_append]
    exact afterMark?_append Drag.lowercase_mark d.isClear_body
  -- the marks differ in their first letter
  have noClick : afterMark? Click.mark d.encode.toList = none := by
    rw [afterMark?, if_neg]
    rw [d.encode_eq_mark_append, Text.lowercase_append, Drag.lowercase_mark]
    simp [Click.mark, Drag.mark]
  rw [encode, read, d.trim_encode]
  simp only [noClick, marked, Option.some_or, d.read_body]
  rfl

theorem read_of_isClear_trim {cs : List Char} (clear : Text.IsClear (Text.trim cs)) :
    read cs = stroke <$> Stroke.read (Text.trim cs) := by
  have few : ¬ 1 < (Text.words (Text.trim cs)).length :=
    Nat.not_lt.mpr (Text.length_words_of_clear clear)
  rw [read, afterMark?_of_isClear (by decide) clear, afterMark?_of_isClear (by decide) clear,
    afterMark?_of_isClear (by decide) clear]
  exact if_neg few

theorem read_of_isClear {cs : List Char} (clear : Text.IsClear cs) :
    read cs = stroke <$> Stroke.read cs := by
  have trimmed := Text.trim_of_clear clear
  rw [read_of_isClear_trim (by rwa [trimmed]), trimmed]

/-- Whether a text can say what a binding is. -/
def isReadable : Binding → Bool
  | stroke s => s.key.isReadable
  | _ => true

theorem parse_stroke (s : Stroke) : parse (stroke s).encode = stroke <$> Stroke.read s.visible :=
  read_of_isClear_trim s.isClear_visible

theorem parse_of_isReadable {b : Binding} (readable : b.isReadable = true) :
    parse b.encode = .ok b := by
  cases b with
  | stroke s =>
    rw [parse_stroke, Stroke.read_visible_of_isReadable readable]
    rfl
  | click c => exact read_click c
  | drag d => exact read_drag d

theorem parse_of_not_isReadable {b : Binding} (unreadable : b.isReadable = false) :
    ∃ e, parse b.encode = .error e ∧ e.fault = .key := by
  cases b with
  | stroke s =>
    obtain ⟨e, fails, fault⟩ := Stroke.read_visible_of_not_isReadable unreadable
    exact ⟨e, by rw [parse_stroke, fails]; rfl, fault⟩
  | click c => cases unreadable
  | drag d => cases unreadable

/-- The text of a binding is read back as that binding, but for keys that no text can name: those
are always refused. -/
theorem parse_encode_iff (b : Binding) :
    (parse b.encode = .ok b ↔ b.isReadable = true) ∧
      ((∃ e, parse b.encode = .error e ∧ e.fault = .key) ↔ b.isReadable = false) ∧
      (b.isReadable = false ↔ ∃ s, b = stroke s ∧
        ((∃ n, s.key = .function n ∧ (n = 0 ∨ 24 < n)) ∨
          ∃ c, s.key = .char c ∧ Text.isBlank c = true)) := by
  have exceptions : b.isReadable = false ↔ ∃ s, b = stroke s ∧
      ((∃ n, s.key = .function n ∧ (n = 0 ∨ 24 < n)) ∨
        ∃ c, s.key = .char c ∧ Text.isBlank c = true) := by
    cases b with
    | stroke s => simp [isReadable, Key.isReadable_eq_false_iff]
    | click c => simp [isReadable]
    | drag d => simp [isReadable]
  cases readable : b.isReadable with
  | true =>
    rw [readable] at exceptions
    have reads := parse_of_isReadable readable
    exact ⟨by simp [reads], by simp [reads], exceptions⟩
  | false =>
    rw [readable] at exceptions
    obtain ⟨e, fails, fault⟩ := parse_of_not_isReadable readable
    exact ⟨by simp [fails], by simp [fails, fault], exceptions⟩

end Binding

/-! ## What is read can be read again -/

theorem Stroke.isReadable_of_read {cs : List Char} {s : Stroke} (clear : Text.IsClear cs)
    (reads : read cs = .ok s) : s.key.isReadable = true := by
  obtain ⟨ws, name, key, rfl, -, named, rfl⟩ := read_eq_ok_iff.mp reads
  obtain ⟨-, named⟩ := Key.isNamedBy_iff.mp named
  rw [toList_combination] at clear
  have word : Text.IsClear name.toList := fun c member => clear c (List.mem_append_right _ member)
  exact Key.isReadable_normalized (Key.isReadable_of_ofName? word named)

theorem Binding.isReadable_of_read {cs : List Char} {b : Binding} (reads : read cs = .ok b) :
    b.isReadable = true := by
  unfold read at reads
  dsimp only at reads
  split at reads
  next =>
    obtain ⟨c, -, rfl⟩ := map_eq_ok_iff.mp reads
    rfl
  next =>
    split at reads
    next =>
      obtain ⟨d, -, rfl⟩ := map_eq_ok_iff.mp reads
      rfl
    next =>
      split at reads
      next => cases reads
      next few =>
        obtain ⟨s, readStroke, rfl⟩ := map_eq_ok_iff.mp reads
        exact Stroke.isReadable_of_read (Text.isClear_trim (Nat.not_lt.mp few)) readStroke

end Shortcuts
