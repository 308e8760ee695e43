import Shortcuts.Binding.Parser
import Shortcuts.Proofs.Except
import Shortcuts.Proofs.Text.Pieces
/-!
# Combinations of modifiers and a key

In the text of a combination the plus sign separates the words, may be the key, and may then stand
twice at the end.  Still a text is cut in only one way: into words without a plus sign, each with a
plus sign behind it, and a last part that is a plus sign or has none (`splitCombo_flatMap`,
`flatMap_splitCombo`).  What the words in front say is a set (`Modifiers.namedBy`), so neither their
order nor how often or in which spelling one is named makes a difference.
-/

namespace Shortcuts

/-! ## Cutting a combination -/

/-- The last part of a combination: the plus sign, or a text without one. -/
def IsLastPart (v : List Char) : Prop := v = ['+'] ∨ v ≠ [] ∧ '+' ∉ v

theorem splitCombo_flatMap {ws : List (List Char)} {v : List Char} (heads : ∀ w ∈ ws, '+' ∉ w)
    (last : IsLastPart v) : splitCombo (ws.flatMap (· ++ ['+']) ++ v) = (ws, v) := by
  rcases last with rfl | ⟨nonempty, noPlus⟩
  · obtain rfl | ⟨ws, w, rfl⟩ := List.eq_nil_or_concat ws
    · rfl
    · rw [List.concat_eq_append] at heads ⊢
      have init : ∀ u ∈ ws, '+' ∉ u := fun u member => heads u (by simp [member])
      have double : ((ws ++ [w]).flatMap (· ++ ['+']) ++ ['+']).reverse =
          '+' :: '+' :: (ws.flatMap (· ++ ['+']) ++ w).reverse := by simp
      unfold splitCombo
      rw [if_neg]
      · simp only [double, List.reverse_reverse, Text.pieces_flatMap init (heads w (by simp))]
      · intro single
        rw [single] at double
        simp at double
  · -- the text does not end in a plus sign, so that it is cut at all of them
    obtain rfl | ⟨v, c, rfl⟩ := List.eq_nil_or_concat v
    · contradiction
    rw [List.concat_eq_append] at noPlus ⊢
    have notPlus : c ≠ '+' := by
      rintro rfl
      exact noPlus (by simp)
    unfold splitCombo
    rw [if_neg]
    · split
      next double => simp [notPlus] at double
      next =>
        simp only [Text.pieces_flatMap heads noPlus]
        simp
    · intro single
      have last := congrArg List.getLast? single
      simp [notPlus] at last

/-- The parts of a combination, put together again, are the whole text. -/
theorem flatMap_splitCombo (cs : List Char) :
    (splitCombo cs).1.flatMap (· ++ ['+']) ++ (splitCombo cs).2 = cs := by
  unfold splitCombo
  split
  next plus => exact plus.symm
  next =>
    split
    next head double =>
      have text := congrArg List.reverse double
      rw [List.reverse_reverse, List.reverse_cons, List.reverse_cons] at text
      rw [Text.flatMap_pieces, text]
    next =>
      have whole := Text.flatMap_pieces '+' cs
      rw [← List.dropLast_concat_getLast (Text.pieces_ne_nil (· == '+') cs), List.flatMap_append,
        List.flatMap_singleton, ← List.append_assoc] at whole
      exact List.append_cancel_right whole

theorem splitCombo_last (cs : List Char) :
    (splitCombo cs).2 = ['+'] ∨ '+' ∉ (splitCombo cs).2 := by
  unfold splitCombo
  split
  next => exact .inl rfl
  next =>
    split
    next => exact .inl rfl
    next =>
      refine .inr fun plus => ?_
      obtain ⟨-, uncut⟩ := Text.mem_pieces_iff.mp ⟨_, List.getLast_mem _, plus⟩
      cases uncut

/-! ## The words for modifiers -/

namespace Modifiers

/-- The words for control, which is the command key too. -/
def ctrlWords : List String := ["cmd", "mod", "ctrl", "control"]

def shiftWords : List String := ["shift"]

def altWords : List String := ["alt", "option", "opt"]

def logoWords : List String := ["meta", "super", "win"]

def wordLists : List (List String) := [ctrlWords, shiftWords, altWords, logoWords]

/-- Whether a text is one of some words, in any case. -/
def isOneOf (words : List String) (w : String) : Bool := words.contains (Text.lowercaseString w)

/-- Whether a text is a word for a modifier. -/
def isWord (w : String) : Bool := wordLists.any (isOneOf · w)

/-- The set of the modifiers that some texts are words for. -/
def namedBy (ws : List String) : Modifiers where
  ctrl := ws.any (isOneOf ctrlWords)
  shift := ws.any (isOneOf shiftWords)
  alt := ws.any (isOneOf altWords)
  logo := ws.any (isOneOf logoWords)

theorem namedBy_cons (w : String) (ws : List String) :
    namedBy (w :: ws) = (namedBy [w]).union (namedBy ws) := by
  simp [namedBy, union]

/-- No word stands for two modifiers. -/
theorem ofWord?_of_mem : ∀ u ∈ wordLists.flatten, ofWord? u = some
    ⟨ctrlWords.contains u, shiftWords.contains u, altWords.contains u, logoWords.contains u⟩ := by
  decide

theorem ofWord?_of_not_mem {u : String} (other : u ∉ wordLists.flatten) : ofWord? u = none := by
  simpa [wordLists, ctrlWords, shiftWords, altWords, logoWords, ofWord?,
    List.lookup_eq_none_iff] using other

theorem isWord_iff {w : String} :
    isWord w = true ↔ Text.lowercaseString w ∈ wordLists.flatten := by
  simp [isWord, isOneOf]

theorem plus_not_mem_of_isWord {w : String} (word : isWord w = true) : '+' ∉ w.toList := by
  have noPlus : ∀ u ∈ wordLists.flatten, '+' ∉ u.toList := by decide
  intro plus
  refine noPlus _ (isWord_iff.mp word) ?_
  rw [Text.lowercaseString, String.toList_ofList]
  exact List.mem_flatMap.mpr ⟨'+', plus, by decide⟩

theorem ofWord?_lowercaseString (w : String) :
    ofWord? (Text.lowercaseString w) = if isWord w then some (namedBy [w]) else none := by
  split
  next word =>
    rw [ofWord?_of_mem _ (isWord_iff.mp word)]
    simp [namedBy, isOneOf]
  next other => exact ofWord?_of_not_mem (mt isWord_iff.mpr other)

theorem ofWords?_eq (ws : List String) :
    ofWords? (ws.map String.toList) = if ws.all isWord then some (namedBy ws) else none := by
  induction ws with
  | nil => rfl
  | cons w ws ih =>
    rw [List.map_cons, ofWords?, ih, ← Text.lowercaseString, ofWord?_lowercaseString,
      namedBy_cons w ws, List.all_cons]
    cases isWord w <;> cases ws.all isWord <;> rfl

/-! ## Words that say the same -/

/-- Whether two texts differ in the case of ASCII letters only, or are words for one modifier. -/
def Alike (w w' : String) : Prop :=
  w.toList.map Char.toLower = w'.toList.map Char.toLower ∨
    ∃ words ∈ wordLists, isOneOf words w = true ∧ isOneOf words w' = true

instance (w w' : String) : Decidable (Alike w w') := inferInstanceAs (Decidable (_ ∨ _))

theorem Alike.symm {w w' : String} (alike : Alike w w') : Alike w' w :=
  alike.imp Eq.symm fun ⟨words, listed, first, second⟩ => ⟨words, listed, second, first⟩

theorem isOneOf_of_alike {words : List String} (listed : words ∈ wordLists) {w w' : String}
    (alike : Alike w w') (named : isOneOf words w = true) : isOneOf words w' = true := by
  have apart : ∀ us ∈ wordLists, ∀ vs ∈ wordLists, ∀ u ∈ us, u ∈ vs → us = vs := by decide
  rcases alike with same | ⟨others, alsoListed, first, second⟩
  · rwa [isOneOf, Text.lowercaseString, ← Text.lowercase_map_toLower, ← same,
      Text.lowercase_map_toLower, ← Text.lowercaseString]
  · have both := apart _ listed _ alsoListed _ (List.contains_iff_mem.mp named)
      (List.contains_iff_mem.mp first)
    rwa [both]

theorem isWord_of_alike {w w' : String} (alike : Alike w w') (word : isWord w = true) :
    isWord w' = true := by
  obtain ⟨words, listed, named⟩ := List.any_eq_true.mp word
  exact List.any_eq_true.mpr ⟨words, listed, isOneOf_of_alike listed alike named⟩

theorem namedBy_congr {ws ws' : List String} (there : ∀ w ∈ ws, ∃ w' ∈ ws', Alike w w')
    (back : ∀ w' ∈ ws', ∃ w ∈ ws, Alike w' w) : namedBy ws = namedBy ws' := by
  have carried {us vs : List String} (alike : ∀ u ∈ us, ∃ v ∈ vs, Alike u v)
      {words : List String} (listed : words ∈ wordLists) (some : us.any (isOneOf words) = true) :
      vs.any (isOneOf words) = true := by
    obtain ⟨u, member, named⟩ := List.any_eq_true.mp some
    obtain ⟨v, other, same⟩ := alike u member
    exact List.any_eq_true.mpr ⟨v, other, isOneOf_of_alike listed same named⟩
  have equal : ∀ words ∈ wordLists, ws.any (isOneOf words) = ws'.any (isOneOf words) :=
    fun words listed => Bool.eq_iff_iff.mpr ⟨carried there listed, carried back listed⟩
  simp only [namedBy, equal ctrlWords (by decide), equal shiftWords (by decide),
    equal altWords (by decide), equal logoWords (by decide)]

end Modifiers

/-- Whether a text is the name of a key in a combination. -/
def Key.IsNamedBy (key : Key) (name : String) : Prop :=
  name = "+" ∧ key = .char '+' ∨
    name ≠ "" ∧ '+' ∉ name.toList ∧ ofName? name.toList = some key

/-- The text of a combination: words with a plus sign behind each, and then a key. -/
def combination (ws : List String) (name : String) : String :=
  String.join (ws.map (· ++ "+")) ++ name

theorem toList_combination (ws : List String) (name : String) :
    (combination ws name).toList = (ws.map String.toList).flatMap (· ++ ['+']) ++ name.toList := by
  simp [combination, String.toList_join, List.flatMap_map]

/-! ## Reading a combination -/

theorem readCombo_combination {ws : List String} {name : String}
    (words : ∀ w ∈ ws, Modifiers.isWord w = true) (last : IsLastPart name.toList) :
    readCombo (combination ws name).toList = .ok (.namedBy ws, name.toList) := by
  have heads : ∀ w ∈ ws.map String.toList, '+' ∉ w := by
    intro w member
    obtain ⟨w', listed, rfl⟩ := List.mem_map.mp member
    exact Modifiers.plus_not_mem_of_isWord (words w' listed)
  have nonempty : name.toList ≠ [] := by
    rcases last with plus | ⟨nonempty, -⟩
    · simp [plus]
    · exact nonempty
  have all : ws.all Modifiers.isWord = true := List.all_eq_true.mpr words
  rw [toList_combination, readCombo, splitCombo_flatMap heads last]
  simp [nonempty, Modifiers.ofWords?_eq, all]

theorem exists_combination_of_readCombo {cs v : List Char} {mods : Modifiers}
    (reads : readCombo cs = .ok (mods, v)) :
    ∃ ws name, cs = (combination ws name).toList ∧ (∀ w ∈ ws, Modifiers.isWord w = true) ∧
      IsLastPart name.toList ∧ mods = .namedBy ws ∧ v = name.toList := by
  have text := flatMap_splitCombo cs
  have last := splitCombo_last cs
  unfold readCombo at reads
  generalize splitCombo cs = combo at reads text last
  obtain ⟨heads, word⟩ := combo
  dsimp only at reads text last
  split at reads
  next => cases reads
  next nonempty =>
    split at reads
    next mods named =>
      cases reads
      have strings : heads = (heads.map String.ofList).map String.toList := by simp
      rw [strings, Modifiers.ofWords?_eq] at named
      split at named
      next all =>
        cases named
        refine ⟨heads.map String.ofList, String.ofList v, ?_, List.all_eq_true.mp all, ?_, rfl,
          String.toList_ofList.symm⟩
        · rw [toList_combination, ← strings, String.toList_ofList, text]
        · rw [String.toList_ofList]
          rw [List.isEmpty_iff] at nonempty
          exact last.imp_right (.intro nonempty)
      next => cases named
    next => cases reads

theorem Key.isNamedBy_iff {key : Key} {name : String} :
    key.IsNamedBy name ↔ IsLastPart name.toList ∧ ofName? name.toList = some key := by
  have plus : ofName? ['+'] = some (.char '+') := by decide
  constructor
  · rintro (⟨rfl, rfl⟩ | ⟨nonempty, noPlus, named⟩)
    · exact ⟨.inl rfl, plus⟩
    · exact ⟨.inr ⟨mt String.toList_eq_nil_iff.mp nonempty, noPlus⟩, named⟩
  · rintro ⟨single | ⟨nonempty, noPlus⟩, named⟩
    · rw [single, plus] at named
      cases named
      exact .inl ⟨String.toList_inj.mp single, rfl⟩
    · exact .inr ⟨mt String.toList_eq_nil_iff.mpr nonempty, noPlus, named⟩

theorem fault_of_readCombo {cs : List Char} {e : PatternError} (fails : readCombo cs = .error e) :
    e.fault = .key := by
  unfold readCombo at fails
  dsimp only at fails
  split at fails
  next =>
    cases fails
    rfl
  next =>
    split at fails
    next => cases fails
    next =>
      cases fails
      rfl

namespace Stroke

theorem fault_of_read {cs : List Char} {e : PatternError} (fails : read cs = .error e) :
    e.fault = .key := by
  rcases bind_eq_error_iff.mp fails with unread | ⟨⟨mods, name⟩, -, unnamed⟩
  · exact fault_of_readCombo unread
  · dsimp only at unnamed
    split at unnamed
    next => cases unnamed
    next =>
      cases unnamed
      rfl

theorem read_combination {ws : List String} {name : String}
    (words : ∀ w ∈ ws, Modifiers.isWord w = true) (last : IsLastPart name.toList) :
    read (combination ws name).toList =
      match Key.ofName? name.toList with
      | some key => .ok (ofKey key (.namedBy ws))
      | none => .error (.unknownKey name) := by
  rw [read, readCombo_combination words last]
  cases named : Key.ofName? name.toList with
  | none => simp [bind, Except.bind, named]
  | some key => simp [bind, Except.bind, named]

theorem read_eq_ok_iff {cs : List Char} {s : Stroke} :
    read cs = .ok s ↔ ∃ ws name key, cs = (combination ws name).toList ∧
      (∀ w ∈ ws, Modifiers.isWord w = true) ∧ key.IsNamedBy name ∧
        s = ofKey key (.namedBy ws) := by
  constructor
  · intro reads
    obtain ⟨⟨mods, v⟩, combo, reads⟩ := bind_eq_ok_iff.mp reads
    obtain ⟨ws, name, rfl, words, last, rfl, rfl⟩ := exists_combination_of_readCombo combo
    dsimp only at reads
    split at reads
    next key named =>
      cases reads
      exact ⟨ws, name, key, rfl, words, Key.isNamedBy_iff.mpr ⟨last, named⟩, rfl⟩
    next => cases reads
  · rintro ⟨ws, name, key, rfl, words, named, rfl⟩
    obtain ⟨last, named⟩ := Key.isNamedBy_iff.mp named
    rw [read_combination words last, named]

/-- The texts of strokes are the combinations of words for modifiers with one key, every other text
is refused for its key, and the words count as a set of modifiers. -/
theorem parse_exactly_combinations :
    (∀ text s, parse text = .ok s ↔ ∃ ws name key, text = combination ws name ∧
        (∀ w ∈ ws, Modifiers.isWord w = true) ∧ key.IsNamedBy name ∧
          s = ofKey key (.namedBy ws)) ∧
      (∀ text e, parse text = .error e → e.fault = .key) ∧
      ∀ ws ws' name, (∀ w ∈ ws, Modifiers.isWord w = true) → IsLastPart name.toList →
        (∀ w ∈ ws, ∃ w' ∈ ws', Modifiers.Alike w w') →
        (∀ w' ∈ ws', ∃ w ∈ ws, Modifiers.Alike w' w) →
          parse (combination ws name) = parse (combination ws' name) := by
  refine ⟨fun text s => ?_, fun text e fails => fault_of_read fails, ?_⟩
  · rw [parse, read_eq_ok_iff]
    simp only [String.toList_inj]
  · intro ws ws' name words last there back
    have words' : ∀ w' ∈ ws', Modifiers.isWord w' = true := by
      intro w' member
      obtain ⟨w, other, alike⟩ := back w' member
      exact Modifiers.isWord_of_alike alike.symm (words w other)
    rw [parse, parse, read_combination words last, read_combination words' last,
      Modifiers.namedBy_congr there back]

theorem parse_exactly_combinations_swapped :
    (∀ w ∈ ["Control", "SHIFT", "ctrl"], Modifiers.isWord w = true) ∧ IsLastPart "+".toList ∧
      parse "Control+SHIFT+ctrl++" = parse "shift+mod++" ∧
      parse "shift+mod++" = .ok (ofKey (.char '+') ⟨true, true, false, false⟩) := by
  have words : ∀ w ∈ ["Control", "SHIFT", "ctrl"], Modifiers.isWord w = true := by decide
  have last : IsLastPart "+".toList := .inl rfl
  have there : ∀ w ∈ ["Control", "SHIFT", "ctrl"], ∃ w' ∈ ["shift", "mod"],
      Modifiers.Alike w w' := by decide
  have back : ∀ w' ∈ ["shift", "mod"], ∃ w ∈ ["Control", "SHIFT", "ctrl"],
      Modifiers.Alike w' w := by decide
  have long : combination ["Control", "SHIFT", "ctrl"] "+" = "Control+SHIFT+ctrl++" := by decide
  have short : combination ["shift", "mod"] "+" = "shift+mod++" := by decide
  obtain ⟨exactly, -, same⟩ := parse_exactly_combinations
  have same := same _ _ "+" words last there back
  rw [long, short] at same
  refine ⟨words, last, same, (exactly _ _).mpr ?_⟩
  exact ⟨["shift", "mod"], "+", .char '+', short.symm, by decide, .inl ⟨rfl, rfl⟩, rfl⟩

end Stroke

end Shortcuts
