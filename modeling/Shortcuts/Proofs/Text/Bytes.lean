/-!
# Texts cut at bytes

A text that is cut at a number of bytes may be too short, or the cut may fall inside a character.
`afterBytes?` makes the cut on the bytes themselves; what it finds is what is left behind a part of
the text with just as many bytes (`afterBytes?_eq_some_iff`), and an ASCII part has as many bytes as
characters (`utf8ByteSize_of_ascii`).
-/

namespace Shortcuts.Text

/-- The text behind the first bytes of a text.  There is none if the text has fewer bytes, or if the
cut would fall inside a character. -/
def afterBytes? (n : Nat) (s : String) : Option String :=
  if valid : (String.Pos.Raw.mk n).IsValid s then some (s.sliceFrom (s.pos ⟨n⟩ valid)).copy
  else none

theorem afterBytes?_eq_some_iff {n : Nat} {s rest : String} :
    afterBytes? n s = some rest ↔ ∃ first, s = first ++ rest ∧ first.utf8ByteSize = n := by
  unfold afterBytes?
  constructor
  · intro cut
    split at cut
    next valid =>
      cases cut
      have splits := (s.pos ⟨n⟩ valid).splits
      exact ⟨_, splits.eq_append, congrArg String.Pos.Raw.byteIdx splits.offset_eq_rawEndPos.symm⟩
    · contradiction
  · rintro ⟨first, rfl, rfl⟩
    have valid : first.rawEndPos.IsValid (first ++ rest) :=
      String.Pos.Raw.isValid_iff_exists_append.mpr ⟨first, rest, rfl, rfl⟩
    have splits : ((first ++ rest).pos first.rawEndPos valid).Splits first rest := ⟨rfl, rfl⟩
    exact (dif_pos valid).trans (congrArg some splits.copy_sliceFrom_eq)

-- the last character has two bytes
example : afterBytes? 6 "mouse ß" = some "ß" := by cbv

example : afterBytes? 7 "mouse ß" = none := by cbv

theorem utf8ByteSize_of_ascii {cs : List Char} (ascii : ∀ c ∈ cs, c.toNat < 0x80) :
    (String.ofList cs).utf8ByteSize = cs.length := by
  induction cs with
  | nil => rfl
  | cons c cs ih =>
    obtain ⟨first, rest⟩ := List.forall_mem_cons.mp ascii
    have single : c.utf8Size = 1 :=
      Char.utf8Size_eq_one_iff.mpr (UInt32.le_iff_toNat_le.mpr (Nat.le_of_lt_succ first))
    rw [String.ofList_cons, String.utf8ByteSize_append, String.utf8ByteSize_singleton, single,
      ih rest, List.length_cons, Nat.add_comm]

end Shortcuts.Text
