import Shortcuts.Binding.Parser
import Shortcuts.Proofs.Text.Bytes
import Shortcuts.Proofs.Text.Lowercase
/-!
# What stands behind a mark

A mark is looked for in the lowercase of a text, but it is the text itself that is cut behind it.
The two need not fit: a lowercase can have more characters than the text, fewer bytes, and ASCII
letters where the text has none.  No mark can be had that way.  The Kelvin sign would give a `k`,
which no mark holds, and a dotted capital `I` gives an `i` with a combining dot behind it, where each
mark goes on in ASCII.  (A sigma at the end of a word has a lowercase of its own, but none of its
lowercases is ASCII.)  So what passes for a mark is spelled in ASCII, and a cut at the bytes of the
mark leaves just what stands behind it (`Binding.behind_mark`).
-/

namespace Shortcuts

/-- The characters that pass for an ASCII text in lowercase are ASCII, if the text has no `k` and
does not end in `i`. -/
theorem exists_spelled_of_isPrefix {mark cs : List Char}
    (ascii : ∀ m ∈ mark, m.toNat < 0x80 ∧ m ≠ 'k') (goesOn : mark.getLast? ≠ some 'i')
    (starts : mark <+: Text.lowercase cs) :
    ∃ spelled rest, cs = spelled ++ rest ∧ (∀ c ∈ spelled, c.toNat < 0x80) ∧
      spelled.map Char.toLower = mark := by
  induction mark generalizing cs with
  | nil => exact ⟨[], cs, rfl, List.forall_mem_nil _, rfl⟩
  | cons m mark ih =>
    obtain ⟨⟨first, notK⟩, others⟩ := List.forall_mem_cons.mp ascii
    cases cs with
    | nil => exact absurd (List.prefix_nil.mp starts) (List.cons_ne_nil m mark)
    | cons c cs =>
      rw [Text.lowercase, List.flatMap_cons, ← Text.lowercase] at starts
      by_cases dotted : c.toNat = 0x130
      · -- the mark would have to go on with a combining dot
        rw [Text.lower, if_pos dotted, List.cons_append, List.cons_prefix_cons] at starts
        obtain ⟨rfl, starts⟩ := starts
        cases mark with
        | nil => exact absurd rfl goesOn
        | cons m mark =>
          obtain ⟨rfl, -⟩ := List.cons_prefix_cons.mp starts
          exact absurd (others _ List.mem_cons_self).1 (by decide)
      · rw [Text.lower_eq_of_ne dotted, List.singleton_append, List.cons_prefix_cons] at starts
        obtain ⟨rfl, starts⟩ := starts
        obtain plain | rfl | rfl := Text.ascii_of_firstLower first
        · have folded : c.toLower = Text.firstLower c :=
            List.singleton_inj.mp ((Text.lower_of_ascii plain).symm.trans
              (Text.lower_eq_of_ne dotted))
          have stillOn : mark.getLast? ≠ some 'i' := fun last =>
            goesOn (by rw [List.getLast?_cons, last]; rfl)
          obtain ⟨spelled, rest, rfl, inAscii, spells⟩ := ih others stillOn starts
          exact ⟨c :: spelled, rest, rfl, List.forall_mem_cons.mpr ⟨plain, inAscii⟩,
            by rw [List.map_cons, spells, folded]⟩
        · exact absurd rfl dotted
        · exact absurd (by decide) notK

/-- The words that announce a click or a drag, each with the space behind it. -/
def marks : List String := [Click.mark, Drag.mark, Drag.shortMark]

theorem ascii_of_mem_marks {mark : String} (isMark : mark ∈ marks) :
    (∀ m ∈ mark.toList, m.toNat < 0x80 ∧ m ≠ 'k') ∧ mark.toList.getLast? ≠ some 'i' := by
  have each : marks.all (fun mark => mark.toList.all (fun m => m.toNat < 0x80 && m != 'k') &&
      mark.toList.getLast? != some 'i') = true := by decide
  simpa using List.all_eq_true.mp each mark isMark

/-- A text starts with a spelling of a mark if its lowercase starts with the mark, and the cut at the
bytes of the mark is the cut behind its characters. -/
theorem exists_cut_of_isPrefix {mark text : String} (isMark : mark ∈ marks)
    (starts : mark.toList <+: Text.lowercase text.toList) :
    ∃ spelled rest : String, text = spelled ++ rest ∧ spelled.length = mark.length ∧
      (∀ c ∈ spelled.toList, c.toNat < 0x80) ∧ spelled.toList.map Char.toLower = mark.toList ∧
      Text.afterBytes? mark.utf8ByteSize text = some rest ∧
      text.toList.drop mark.length = rest.toList := by
  obtain ⟨ascii, goesOn⟩ := ascii_of_mem_marks isMark
  obtain ⟨spelled, rest, text_eq, inAscii, spells⟩ := exists_spelled_of_isPrefix ascii goesOn starts
  have length : spelled.length = mark.length := by
    rw [← String.length_toList, ← spells, List.length_map]
  have bytes : (String.ofList spelled).utf8ByteSize = mark.utf8ByteSize := by
    have markBytes := Text.utf8ByteSize_of_ascii fun m member => (ascii m member).1
    rw [Text.utf8ByteSize_of_ascii inAscii, length, ← String.length_toList, ← markBytes,
      String.ofList_toList]
  have whole : text = String.ofList spelled ++ String.ofList rest := by
    rw [← String.ofList_append, ← text_eq, String.ofList_toList]
  refine ⟨String.ofList spelled, String.ofList rest, whole, ?_, ?_, ?_, ?_, ?_⟩
  · rw [String.length_ofList, length]
  · rwa [String.toList_ofList]
  · rwa [String.toList_ofList]
  · exact Text.afterBytes?_eq_some_iff.mpr ⟨_, whole, bytes⟩
  · rw [text_eq, String.toList_ofList, List.drop_left' length]

/-! ## Reading with cuts at bytes -/

/-- What `afterMark?` finds, with the cut made at the bytes of the mark.  There is no result where the
cut cannot be made. -/
def afterMarkAtBytes? (mark text : String) : Option (Option (List Char)) :=
  if mark.toList.isPrefixOf (Text.lowercase text.toList) then
    (Text.afterBytes? mark.utf8ByteSize text).map fun rest => some (Text.trim rest.toList)
  else some none

theorem afterMarkAtBytes?_eq {mark : String} (isMark : mark ∈ marks) (text : String) :
    afterMarkAtBytes? mark text = some (afterMark? mark text.toList) := by
  unfold afterMarkAtBytes? afterMark?
  split
  next starts =>
    obtain ⟨spelled, rest, -, -, -, -, cut, behind⟩ :=
      exists_cut_of_isPrefix isMark (List.isPrefixOf_iff_prefix.mp starts)
    rw [cut, behind]
    rfl
  next => rfl

/-- Read a binding of any kind, with cuts at the bytes of marks. -/
def Binding.readAtBytes? (source : String) : Option (Except PatternError Binding) := do
  let text := String.ofList (Text.trim source.toList)
  match ← afterMarkAtBytes? Click.mark text with
  | some rest => some (.click <$> Click.read rest)
  | none =>
    match ← afterMarkAtBytes? Drag.mark text with
    | some rest => some (.drag <$> Drag.read source.toList rest)
    | none =>
      match ← afterMarkAtBytes? Drag.shortMark text with
      | some rest => some (.drag <$> Drag.read source.toList rest)
      | none =>
        if 1 < (Text.words text.toList).length then some (.error (.sequence source))
        else some (.stroke <$> Stroke.read text.toList)

/-- Every cut at bytes can be made, and it does not matter for what is read. -/
theorem Binding.readAtBytes?_eq (source : String) : readAtBytes? source = some (parse source) := by
  have isClick : Click.mark ∈ marks := by decide
  have isDrag : Drag.mark ∈ marks := by decide
  have isShort : Drag.shortMark ∈ marks := by decide
  unfold readAtBytes? parse read
  simp only [afterMarkAtBytes?_eq isClick, afterMarkAtBytes?_eq isDrag,
    afterMarkAtBytes?_eq isShort, String.toList_ofList, String.ofList_toList, Option.bind_eq_bind,
    Option.bind_some]
  cases afterMark? Click.mark (Text.trim source.toList) with
  | some rest => rfl
  | none =>
    cases afterMark? Drag.mark (Text.trim source.toList) with
    | some rest => rfl
    | none =>
      cases afterMark? Drag.shortMark (Text.trim source.toList) with
      | some rest => rfl
      | none => exact (apply_ite some _ _ _).symm

/-- Wherever the lowercase of a text without the blanks around it starts with a mark, the text itself
starts with as many ASCII characters that spell the mark in some case, and what is left behind the
bytes of the mark is the text behind these characters.  So a binding is read from every text. -/
theorem Binding.behind_mark (source : String) :
    (∀ mark ∈ marks, mark.toList <+: Text.lowercase (Text.trim source.toList) →
      ∃ spelled rest : String,
        String.ofList (Text.trim source.toList) = spelled ++ rest ∧
        spelled.length = mark.length ∧
        (∀ c ∈ spelled.toList, c.toNat < 0x80) ∧
        spelled.toList.map Char.toLower = mark.toList ∧
        Text.afterBytes? mark.utf8ByteSize (String.ofList (Text.trim source.toList)) = some rest ∧
        afterMark? mark (Text.trim source.toList) = some (Text.trim rest.toList)) ∧
      readAtBytes? source = some (parse source) := by
  refine ⟨fun mark isMark starts => ?_, readAtBytes?_eq source⟩
  have starts' : mark.toList <+: Text.lowercase (String.ofList (Text.trim source.toList)).toList := by
    rwa [String.toList_ofList]
  obtain ⟨spelled, rest, whole, length, ascii, spells, cut, behind⟩ :=
    exists_cut_of_isPrefix isMark starts'
  rw [String.toList_ofList] at behind
  refine ⟨spelled, rest, whole, length, ascii, spells, cut, ?_⟩
  rw [afterMark?, if_pos (List.isPrefixOf_iff_prefix.mpr starts), behind]

/-- What stands behind the mark is a character whose lowercase is longer than itself. -/
theorem Binding.behind_mark_dotted :
    Drag.mark ∈ marks ∧
      Drag.mark.toList <+: Text.lowercase (Text.trim " SELECTION \u0130".toList) ∧
      Text.afterBytes? Drag.mark.utf8ByteSize
        (String.ofList (Text.trim " SELECTION \u0130".toList)) = some "\u0130" := by
  have isMark : Drag.mark ∈ marks := by decide
  have starts : Drag.mark.toList <+: Text.lowercase (Text.trim " SELECTION \u0130".toList) := by
    decide
  obtain ⟨spelled, rest, whole, length, -, -, cut, -⟩ :=
    (behind_mark " SELECTION \u0130").1 Drag.mark isMark starts
  have behind : (Text.trim " SELECTION \u0130".toList).drop Drag.mark.length = rest.toList := by
    rw [← String.toList_ofList (l := Text.trim _), whole, String.toList_append,
      List.drop_left' (String.length_toList.trans length)]
  have left : rest = "\u0130" := String.toList_inj.mp (behind.symm.trans (by decide))
  exact ⟨isMark, starts, left ▸ cut⟩

end Shortcuts
