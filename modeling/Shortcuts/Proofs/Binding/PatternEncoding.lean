import Mathlib.Data.List.Basic
import Shortcuts.Proofs.Binding.Encoding
/-!
# Encodings tell patterns apart

A pattern is written as one text even where it has two parts.  Since no stroke contains a space, the
parts of a chord can be read off that text.  What remains is to tell a chord from a click or a drag,
which contain a space too: the word in front of that space is none that a stroke could be written as
(`Stroke.encode_not_mark`).
-/

namespace Shortcuts

/-- The words that announce a click or a drag. -/
def markWords : List (List Char) := ["mouse".toList, "selection".toList, "sel".toList]

theorem Key.IsNormal.name_not_mark {k : Key} (normal : k.IsNormal) : k.name.toList ∉ markWords := by
  intro mark
  have unread : ∀ w ∈ markWords, functionNumber? w = none ∧ ofLowerName? w = none := by
    decide
  obtain ⟨noNumber, noKey⟩ := unread _ mark
  rcases normal.read_name with ⟨n, -, reads⟩ | ⟨-, reads⟩
  · rw [noNumber] at reads
    cases reads
  · rw [noKey] at reads
    cases reads

/-- A word without plus signs can only have modifiers in front of it if there are none. -/
theorem Modifiers.eq_of_encode_append {m : Modifiers} {v w : List Char} (hv : '+' ∉ v)
    (hw : '+' ∉ w) (same : m.encode.toList ++ v = w) : m = empty ∧ v = w :=
  encode_append_inj hv hw (n := empty) same

theorem Stroke.encode_not_mark (s : Stroke) : s.encode.toList ∉ markWords := by
  intro mark
  have noPlus : ∀ w ∈ markWords, '+' ∉ w := by decide
  obtain ⟨-, name⟩ := Modifiers.eq_of_encode_append s.isNormal.clear.1 (noPlus _ mark)
    String.toList_append.symm
  rw [← name] at mark
  exact s.isNormal.name_not_mark mark

namespace Pattern

theorem encode_eq_intercalate (p : Pattern) : p.encode = String.intercalate " " p.parts := by
  cases p with
  | single b => simp [encode, parts]
  | chord s t => simp [encode, parts, String.append_assoc]

theorem toList_encode_chord (s t : Stroke) :
    (chord s t).encode.toList = s.encode.toList ++ ' ' :: t.encode.toList := by
  simp [encode]

/-- A chord has one space in its text, the one between its parts. -/
theorem split_chord {s t : Stroke} {v w : List Char}
    (same : (chord s t).encode.toList = v ++ ' ' :: w) :
    s.encode.toList = v ∧ t.encode.toList = w := by
  rw [toList_encode_chord,
    List.append_cons_inj_of_notMem s.space_not_mem_encode t.space_not_mem_encode] at same
  exact ⟨same.1, same.2.2⟩

theorem encode_chord_ne (s t : Stroke) (b : Binding) : (chord s t).encode ≠ b.encode := by
  intro same
  have texts := congrArg String.toList same
  -- a click or a drag would make its mark a stroke
  have noMark {v w : List Char} (mark : v ∈ markWords)
      (same : (chord s t).encode.toList = v ++ ' ' :: w) : False := by
    rw [← (split_chord same).1] at mark
    exact s.encode_not_mark mark
  cases b with
  | stroke r =>
    have space : ' ' ∈ (chord s t).encode.toList := by simp [toList_encode_chord]
    rw [texts] at space
    exact r.space_not_mem_encode space
  | click c =>
    rw [Binding.encode, c.toList_encode] at texts
    exact noMark (v := "mouse".toList) (by decide) texts
  | drag d =>
    rw [Binding.encode, Drag.encode, String.toList_append, String.toList_append,
      List.append_assoc] at texts
    exact noMark (v := "selection".toList) (by decide) texts

/-- Two patterns are written alike only if they are equal, whatever they are made of. -/
theorem encode_eq_encode_iff (p q : Pattern) :
    p.encode = String.intercalate " " p.parts ∧ (p.encode = q.encode ↔ p = q) := by
  refine ⟨p.encode_eq_intercalate, fun same => ?_, congrArg encode⟩
  cases p with
  | single b =>
    cases q with
    | single c => rw [Binding.encode_inj.mp same]
    | chord s t => exact absurd same.symm (encode_chord_ne s t b)
  | chord s t =>
    cases q with
    | single b => exact absurd same (encode_chord_ne s t b)
    | chord s' t' =>
      -- the one space of either text is where it is cut
      have texts := congrArg String.toList same
      rw [toList_encode_chord s' t'] at texts
      obtain ⟨first, second⟩ := split_chord texts
      rw [Stroke.encode_inj (String.toList_inj.mp first),
        Stroke.encode_inj (String.toList_inj.mp second)]

end Pattern

end Shortcuts
