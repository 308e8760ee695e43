import Std.Data.String.ToNat
import Shortcuts.Binding.Basic
import Shortcuts.Proofs.Decimal.Digits
import Shortcuts.Proofs.Text.Pieces
/-!
# Encodings tell bindings apart

Different bindings have different encodings (`Binding.encode_inj`), so a table that looks rules up
by encodings finds exactly the rules for a binding.  Three facts carry the proof: a normal key can
be read off its name; no name contains a plus sign, so the last plus sign of an encoding ends its
modifiers; and no stroke contains a space, while every click and every drag does.
-/

namespace Shortcuts

/-! ## Names of keys -/

namespace Key

/-- The three ways in which the name of a normal key is spelled. -/
inductive Spelling (k : Key) : Prop
  /-- A character stands for itself. -/
  | letter (c : Char) (isChar : k = char c) (notPlus : c ≠ '+') (notSpace : c ≠ ' ')
      (spelled : k.name.toList = [c])
  | numbered (n : UInt8) (isFunction : k = function n)
      (spelled : k.name.toList = 'f' :: Nat.toDigits 10 n.toNat)
  /-- A word that the list of words assigns to this key. -/
  | word (listed : words.lookup k.name = some k)

theorem IsNormal.spelling {k : Key} (normal : k.IsNormal) : k.Spelling := by
  cases k with
  | char c =>
    obtain ⟨k', hk⟩ := normal
    cases k' with
    | char c' =>
      by_cases blank : c' = ' '
      · simp [normalized, blank] at hk
      · simp only [normalized, if_neg blank, char.injEq] at hk
        subst hk
        by_cases plus : Text.firstLower c' = '+'
        · rw [plus]
          exact .word (by decide)
        · have notSpace := fun h => blank (Text.eq_space_of_firstLower h)
          refine .letter _ rfl plus notSpace ?_
          rw [name, if_neg plus, if_neg notSpace, Text.lower_firstLower, String.toList_ofList]
    | _ => simp [normalized] at hk
  | function n => exact .numbered n rfl (by simp [name])
  | numpad d => exact .word (by clear normal; revert d; decide)
  | _ => exact .word (by decide)

/-- The words for keys are longer than one character, none of them starts like a function key, and
none contains a character that has a meaning of its own in encodings. -/
theorem words_apart : ∀ w ∈ words, 2 ≤ w.1.toList.length ∧ w.1.toList.head? ≠ some 'f' ∧
    '+' ∉ w.1.toList ∧ ' ' ∉ w.1.toList := by
  decide

theorem mem_words_of_lookup {w : String} {k : Key} (h : words.lookup w = some k) :
    (w, k) ∈ words := by
  obtain ⟨before, after, split, -⟩ := List.lookup_eq_some_iff.mp h
  rw [split]
  simp

theorem IsNormal.clear {k : Key} (normal : k.IsNormal) :
    '+' ∉ k.name.toList ∧ ' ' ∉ k.name.toList := by
  cases normal.spelling with
  | letter c _ notPlus notSpace spelled => simp [spelled, notPlus.symm, notSpace.symm]
  | numbered n _ spelled => simp [spelled, Decimal.not_mem_toDigits]
  | word listed => exact (words_apart _ (mem_words_of_lookup listed)).2.2

/-- The name of a function key reads as its number; any other name reads as no function key, but as
its own key. -/
theorem IsNormal.read_name {k : Key} (normal : k.IsNormal) :
    (∃ n, k = function n ∧ functionNumber? k.name.toList = some n.toNat) ∨
      (functionNumber? k.name.toList = none ∧ ofLowerName? k.name.toList = some k) := by
  cases normal.spelling with
  | letter c isChar _ notSpace spelled =>
    right
    rw [spelled, isChar]
    refine ⟨?_, by simp [ofLowerName?, notSpace]⟩
    by_cases hc : c = 'f'
    · rw [hc]
      decide
    · simp [functionNumber?, hc]
  | numbered n isFunction spelled =>
    left
    refine ⟨n, isFunction, ?_⟩
    rw [spelled, functionNumber?, Decimal.natural?_toDigits]
    exact Nat.le_of_lt_succ n.toNat_lt
  | word listed =>
    right
    obtain ⟨long, notF, -, -⟩ := words_apart _ (mem_words_of_lookup listed)
    cases hs : k.name.toList with
    | nil => simp [hs] at long
    | cons c cs =>
      have noNumber : functionNumber? (c :: cs) = none := by
        simp only [hs, List.head?_cons, ne_eq, Option.some.injEq] at notF
        simp [functionNumber?, notF]
      refine ⟨noNumber, ?_⟩
      cases cs with
      | nil => simp [hs] at long
      | cons c' cs =>
        simp only [ofLowerName?, noNumber]
        rw [← hs, String.ofList_toList, listed]

theorem IsNormal.eq_of_name {k l : Key} (hk : k.IsNormal) (hl : l.IsNormal)
    (same : k.name = l.name) : k = l := by
  rcases hk.read_name with ⟨m, rfl, readK⟩ | ⟨readK, ownK⟩ <;>
    rcases hl.read_name with ⟨n, rfl, readL⟩ | ⟨readL, ownL⟩ <;> rw [same, readL] at readK
  · rw [UInt8.toNat_inj.mp (Option.some.inj readK)]
  · contradiction
  · contradiction
  · exact Option.some.inj (by rw [← ownK, same, ownL])

end Key

/-! ## Modifiers in front of a word -/

namespace Modifiers

/-- There are sixteen sets of modifiers, so a property of all of them can be checked. -/
instance decidableForall (P : Modifiers → Prop) [DecidablePred P] : Decidable (∀ m, P m) :=
  decidable_of_iff (∀ a b c d, P ⟨a, b, c, d⟩)
    ⟨fun all m => all m.ctrl m.shift m.alt m.logo, fun all _ _ _ _ => all _⟩

theorem encode_inj {m n : Modifiers} (same : m.encode.toList = n.encode.toList) : m = n := by
  have all : ∀ m n : Modifiers, m.encode.toList = n.encode.toList → m = n := by decide
  exact all m n same

theorem takeWhile_reverse_encode :
    ∀ m : Modifiers, m.encode.toList.reverse.takeWhile (· != '+') = [] := by
  decide

/-- The modifiers in front of a word without plus signs, and the word, can be read off the text. -/
theorem encode_append_inj {m n : Modifiers} {v w : List Char} (hv : '+' ∉ v) (hw : '+' ∉ w)
    (same : m.encode.toList ++ v = n.encode.toList ++ w) : m = n ∧ v = w := by
  -- the word is what stands behind the last plus sign
  have lastWord (m : Modifiers) (v : List Char) (hv : '+' ∉ v) :
      (m.encode.toList ++ v).reverse.takeWhile (· != '+') = v.reverse := by
    have inside := Text.bne_of_not_mem (mt List.mem_reverse.mp hv)
    rw [List.reverse_append, List.takeWhile_append_of_pos inside, takeWhile_reverse_encode,
      List.append_nil]
  have words : v = w := by
    rw [← List.reverse_inj, ← lastWord m v hv, same, lastWord n w hw]
  subst words
  exact ⟨encode_inj (List.append_cancel_right same), rfl⟩

theorem space_not_mem_encode : ∀ m : Modifiers, ' ' ∉ m.encode.toList := by decide

end Modifiers

/-! ## Bindings -/

theorem Stroke.encode_inj {s t : Stroke} (same : s.encode = t.encode) : s = t := by
  obtain ⟨k, m, hk⟩ := s
  obtain ⟨l, n, hl⟩ := t
  have texts := congrArg String.toList same
  simp only [encode, String.toList_append] at texts
  obtain ⟨rfl, names⟩ := Modifiers.encode_append_inj hk.clear.1 hl.clear.1 texts
  obtain rfl := hk.eq_of_name hl (String.toList_inj.mp names)
  rfl

theorem Stroke.space_not_mem_encode (s : Stroke) : ' ' ∉ s.encode.toList := by
  simp [encode, s.mods.space_not_mem_encode, s.isNormal.clear.2]

theorem MouseButton.plus_not_mem_name (b : MouseButton) : '+' ∉ b.name.toList := by
  cases b <;> decide

/-- Names of buttons have one length, so what follows a name tells two texts apart. -/
theorem MouseButton.name_append_inj {b c : MouseButton} {v w : List Char}
    (same : b.name.toList ++ v = c.name.toList ++ w) : b = c ∧ v = w := by
  cases b <;> cases c <;> simp_all [name]

/-- What follows the button of a click. -/
def Click.tail (n : Nat) : List Char := if 1 < n then '*' :: Nat.toDigits 10 n else []

theorem Click.plus_not_mem_tail (n : Nat) : '+' ∉ tail n := by
  unfold tail
  split <;> simp [Decimal.not_mem_toDigits]

theorem Click.toList_encode (c : Click) :
    c.encode.toList =
      mark.toList ++ (c.mods.encode.toList ++ (c.button.name.toList ++ tail c.count)) := by
  unfold encode tail
  split <;> simp

theorem Click.encode_inj {c d : Click} (same : c.encode = d.encode) : c = d := by
  have texts := congrArg String.toList same
  simp only [toList_encode, List.append_cancel_left_eq] at texts
  have noPlus (c : Click) : '+' ∉ c.button.name.toList ++ tail c.count := by
    simp [c.button.plus_not_mem_name, plus_not_mem_tail]
  obtain ⟨mods, rest⟩ := Modifiers.encode_append_inj (noPlus c) (noPlus d) texts
  obtain ⟨buttons, tails⟩ := MouseButton.name_append_inj rest
  have counts : c.count = d.count := by
    have := c.one_le_count
    have := d.one_le_count
    unfold tail at tails
    split at tails <;> split at tails
    · simp only [List.cons.injEq, true_and, ← Nat.toList_repr, String.toList_inj] at tails
      exact Nat.repr_inj.mp tails
    · contradiction
    · contradiction
    · omega
  cases c
  cases d
  simp_all

theorem Drag.encode_inj {d e : Drag} (same : d.encode = e.encode) : d = e := by
  have texts := congrArg String.toList same
  simp only [encode, String.toList_append, List.append_assoc, List.append_cancel_left_eq] at texts
  obtain ⟨mods, names⟩ := Modifiers.encode_append_inj (MouseButton.plus_not_mem_name _)
    (MouseButton.plus_not_mem_name _) texts
  have buttons := (MouseButton.name_append_inj (v := []) (w := []) (by simpa using names)).1
  cases d
  cases e
  simp_all

theorem Binding.encode_inj {b c : Binding} : b.encode = c.encode ↔ b = c := by
  refine ⟨fun same => ?_, congrArg encode⟩
  have clickSpace (c : Click) : ' ' ∈ c.encode.toList := by simp [Click.toList_encode, Click.mark]
  have dragSpace (d : Drag) : ' ' ∈ d.encode.toList := by simp [Drag.encode, Drag.mark]
  have marks (c : Click) (d : Drag) : c.encode ≠ d.encode := by
    intro same
    have := congrArg String.toList same
    simp [Click.toList_encode, Click.mark, Drag.encode, Drag.mark] at this
  cases b <;> cases c <;> simp only [encode] at same
  case stroke.stroke s t => rw [Stroke.encode_inj same]
  case click.click c d => rw [Click.encode_inj same]
  case drag.drag d e => rw [Drag.encode_inj same]
  case stroke.click s c => exact absurd (same ▸ clickSpace c) s.space_not_mem_encode
  case stroke.drag s d => exact absurd (same ▸ dragSpace d) s.space_not_mem_encode
  case click.stroke c s => exact absurd (same ▸ clickSpace c) s.space_not_mem_encode
  case drag.stroke d s => exact absurd (same ▸ dragSpace d) s.space_not_mem_encode
  case click.drag c d => exact absurd same (marks c d)
  case drag.click d c => exact absurd same.symm (marks c d)

/-- A pattern can be read off the encodings of its parts. -/
theorem Pattern.parts_inj {p q : Pattern} : p.parts = q.parts ↔ p = q := by
  refine ⟨fun same => ?_, congrArg parts⟩
  cases p with
  | single b =>
    cases q with
    | single c => rw [Binding.encode_inj.mp (List.cons.inj same).1]
    | chord s t => simp [parts] at same
  | chord s t =>
    cases q with
    | single c => simp [parts] at same
    | chord s' t' =>
      obtain ⟨first, second⟩ := List.cons.inj same
      rw [Stroke.encode_inj first, Stroke.encode_inj (List.cons.inj second).1]

end Shortcuts
