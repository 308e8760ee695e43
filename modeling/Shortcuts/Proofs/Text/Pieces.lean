import Shortcuts.Proofs.Text.Blank
/-!
# Cutting a text that was put together

A cut between two texts separates their pieces (`pieces_append`), so a blank between two texts
separates their words.  The words of a text do not depend on the blanks around it (`words_trim`);
that a text may hold blanks inside is why trimming needs to look at its ends only (`trim_eq_self`).
-/

namespace Shortcuts.Text

/-! ## Where a class of characters ends -/

theorem takeWhile_append_stop {α : Type} {p : α → Bool} {xs rest : List α}
    (inside : ∀ x ∈ xs, p x = true) (stops : ∀ x ∈ rest.head?, p x = false) :
    (xs ++ rest).takeWhile p = xs ∧ (xs ++ rest).dropWhile p = rest := by
  rw [List.takeWhile_append_of_pos inside, List.dropWhile_append_of_pos inside]
  cases rest with
  | nil => simp
  | cons x rest =>
    have stops : p x = false := stops x rfl
    simp [stops]

theorem bne_of_not_mem {x : Char} {cs : List Char} (absent : x ∉ cs) :
    ∀ c ∈ cs, (c != x) = true := by
  intro c member
  rw [bne_iff_ne]
  rintro rfl
  exact absent member

theorem dropWhile_eq_self {p : Char → Bool} {cs : List Char}
    (stops : ∀ c ∈ cs.head?, p c = false) : cs.dropWhile p = cs :=
  (takeWhile_append_stop (List.forall_mem_nil _) stops).2

/-! ## Pieces -/

section Pieces

variable {isCut : Char → Bool}

theorem extendFirst_append {ps : List (List Char)} (nonempty : ps ≠ []) (c : Char)
    (qs : List (List Char)) : extendFirst c (ps ++ qs) = extendFirst c ps ++ qs := by
  cases ps with
  | nil => contradiction
  | cons p ps => rfl

theorem pieces_append {c : Char} (cut : isCut c = true) (cs ds : List Char) :
    pieces isCut (cs ++ c :: ds) = pieces isCut cs ++ pieces isCut ds := by
  induction cs with
  | nil => simp [pieces, cut]
  | cons d cs ih =>
    rw [List.cons_append, pieces, pieces, ih]
    split
    · rfl
    · exact extendFirst_append (pieces_ne_nil isCut cs) d _

theorem pieces_of_uncut {cs : List Char} (uncut : ∀ c ∈ cs, isCut c = false) :
    pieces isCut cs = [cs] := by
  induction cs with
  | nil => rfl
  | cons c cs ih =>
    obtain ⟨first, rest⟩ := List.forall_mem_cons.mp uncut
    rw [pieces, if_neg (by simp [first]), ih rest]
    rfl

theorem flatten_extendFirst (c : Char) (ps : List (List Char)) :
    (extendFirst c ps).flatten = c :: ps.flatten := by
  cases ps <;> simp [extendFirst]

/-- Cutting drops the cuts and nothing else. -/
theorem flatten_pieces (cs : List Char) :
    (pieces isCut cs).flatten = cs.filter fun c => !isCut c := by
  induction cs with
  | nil => rfl
  | cons c cs ih =>
    rw [pieces]
    split
    next cut => simp [cut, ih]
    next uncut => simp [uncut, flatten_extendFirst, ih]

theorem mem_pieces_iff {cs : List Char} {c : Char} :
    (∃ p ∈ pieces isCut cs, c ∈ p) ↔ c ∈ cs ∧ isCut c = false := by
  rw [← List.mem_flatten, flatten_pieces, List.mem_filter, Bool.not_eq_true']

end Pieces

/-! ## Cut at one character -/

theorem pieces_flatMap {x : Char} {ws : List (List Char)} {v : List Char}
    (heads : ∀ w ∈ ws, x ∉ w) (last : x ∉ v) :
    pieces (· == x) (ws.flatMap (· ++ [x]) ++ v) = ws ++ [v] := by
  have uncut {w : List Char} (h : x ∉ w) : ∀ c ∈ w, (c == x) = false := by
    intro c member
    rw [beq_eq_false_iff_ne]
    rintro rfl
    exact h member
  induction ws with
  | nil => exact pieces_of_uncut (uncut last)
  | cons w ws ih =>
    obtain ⟨first, heads⟩ := List.forall_mem_cons.mp heads
    rw [List.flatMap_cons, List.append_assoc, List.append_assoc, List.singleton_append,
      pieces_append (by simp), pieces_of_uncut (uncut first), ih heads]
    rfl

/-- The pieces with the cut put back behind each of them are the text and one cut. -/
theorem flatMap_pieces (x : Char) (cs : List Char) :
    (pieces (· == x) cs).flatMap (· ++ [x]) = cs ++ [x] := by
  induction cs with
  | nil => rfl
  | cons c cs ih =>
    rw [pieces]
    split
    next cut =>
      rw [beq_iff_eq] at cut
      rw [List.flatMap_cons, ih, cut]
      rfl
    next =>
      obtain ⟨p, ps, cutUp⟩ := List.exists_cons_of_ne_nil (pieces_ne_nil (· == x) cs)
      rw [cutUp, List.flatMap_cons] at ih
      rw [cutUp, extendFirst, List.flatMap_cons, List.cons_append, List.cons_append, ih]
      rfl

/-! ## Words -/

/-- There is no blank in a text. -/
def IsClear (cs : List Char) : Prop := ∀ c ∈ cs, isBlank c = false

instance (cs : List Char) : Decidable (IsClear cs) := List.decidableBAll _ cs

theorem IsClear.append {cs ds : List Char} (first : IsClear cs) (second : IsClear ds) :
    IsClear (cs ++ ds) := List.forall_mem_append.mpr ⟨first, second⟩

theorem words_nil : words [] = [] := rfl

theorem words_of_clear {cs : List Char} (clear : IsClear cs) (nonempty : cs ≠ []) :
    words cs = [cs] := by
  rw [words, pieces_of_uncut clear]
  simp [nonempty]

theorem length_words_of_clear {cs : List Char} (clear : IsClear cs) : (words cs).length ≤ 1 := by
  by_cases nonempty : cs = []
  · simp [nonempty, words_nil]
  · simp [words_of_clear clear nonempty]

theorem words_append_blank {c : Char} (blank : isBlank c = true) (cs ds : List Char) :
    words (cs ++ c :: ds) = words cs ++ words ds := by
  rw [words, pieces_append blank, List.filter_append]
  rfl

theorem words_ne_nil {cs : List Char} {c : Char} (member : c ∈ cs) (visible : isBlank c = false) :
    words cs ≠ [] := by
  obtain ⟨p, piece, inside⟩ := mem_pieces_iff.mpr ⟨member, visible⟩
  refine List.ne_nil_of_mem (a := p) (List.mem_filter.mpr ⟨piece, ?_⟩)
  rw [Bool.not_eq_true', List.isEmpty_eq_false_iff]
  exact List.ne_nil_of_mem inside

theorem words_trimStart (cs : List Char) : words (trimStart cs) = words cs := by
  induction cs with
  | nil => rfl
  | cons c cs ih =>
    rw [trimStart, List.dropWhile_cons]
    split
    next blank => exact ih.trans (words_append_blank blank [] cs).symm
    next => rfl

theorem words_append_blanks {bs : List Char} (blank : ∀ c ∈ bs, isBlank c = true)
    (cs : List Char) : words (cs ++ bs) = words cs := by
  induction bs generalizing cs with
  | nil => rw [List.append_nil]
  | cons b bs ih =>
    obtain ⟨first, rest⟩ := List.forall_mem_cons.mp blank
    rw [words_append_blank first, ← List.nil_append bs, ih rest, words_nil, List.append_nil]

/-- What `trimEnd` drops are the first characters of the reversed text. -/
theorem trimEnd_append (cs : List Char) :
    trimEnd cs ++ (cs.reverse.takeWhile isBlank).reverse = cs := by
  rw [trimEnd, ← List.reverse_append, List.takeWhile_append_dropWhile, List.reverse_reverse]

theorem words_trimEnd (cs : List Char) : words (trimEnd cs) = words cs := by
  conv => rhs; rw [← trimEnd_append cs]
  refine (words_append_blanks (fun c member => ?_) _).symm
  exact List.all_eq_true.mp List.all_takeWhile c (List.mem_reverse.mp member)

theorem words_trim (cs : List Char) : words (trim cs) = words cs := by
  rw [trim, words_trimEnd, words_trimStart]

/-! ## Trimming -/

theorem trim_eq_self {cs : List Char} (first : ∀ c ∈ cs.head?, isBlank c = false)
    (last : ∀ c ∈ cs.getLast?, isBlank c = false) : trim cs = cs := by
  rw [trim, trimStart, dropWhile_eq_self first, trimEnd, dropWhile_eq_self, List.reverse_reverse]
  rwa [List.head?_reverse]

theorem trim_of_clear {cs : List Char} (clear : IsClear cs) : trim cs = cs :=
  trim_eq_self (fun c first => clear c (List.mem_of_mem_head? first))
    (fun c last => clear c (List.mem_of_getLast? last))

theorem not_isBlank_of_head_trim {cs : List Char} {c : Char} (first : c ∈ (trim cs).head?) :
    isBlank c = false := by
  have inner : c ∈ (trimStart cs).head? := by
    rw [← trimEnd_append (trimStart cs), List.head?_append, Option.mem_def, ← trim,
      Option.mem_def.mp first]
    rfl
  have stop := List.head?_dropWhile_not isBlank cs
  rw [← trimStart, Option.mem_def.mp inner] at stop
  simpa using stop

theorem not_isBlank_of_getLast_trim {cs : List Char} {c : Char} (last : c ∈ (trim cs).getLast?) :
    isBlank c = false := by
  rw [trim, trimEnd, List.getLast?_reverse] at last
  have stop := List.head?_dropWhile_not isBlank (trimStart cs).reverse
  rw [Option.mem_def.mp last] at stop
  simpa using stop

/-- A trimmed text that is no sequence of words has no blank in it. -/
theorem isClear_trim {cs : List Char} (single : (words (trim cs)).length ≤ 1) :
    IsClear (trim cs) := by
  intro c member
  rw [Bool.eq_false_iff]
  intro blank
  obtain ⟨before, after, split⟩ := List.append_of_mem member
  -- a blank inside would have a word on either side
  have left : words before ≠ [] := by
    cases before with
    | nil =>
      have first : c ∈ (trim cs).head? := by rw [split]; rfl
      rw [not_isBlank_of_head_trim first] at blank
      cases blank
    | cons d before =>
      exact words_ne_nil List.mem_cons_self (not_isBlank_of_head_trim (by rw [split]; rfl))
  have right : words after ≠ [] := by
    obtain rfl | ⟨after, d, rfl⟩ := List.eq_nil_or_concat after
    · have last : c ∈ (trim cs).getLast? := by simp [split]
      rw [not_isBlank_of_getLast_trim last] at blank
      cases blank
    · have last : d ∈ (trim cs).getLast? := by simp [split, List.getLast?_cons]
      exact words_ne_nil (by simp) (not_isBlank_of_getLast_trim last)
  rw [split, words_append_blank blank, List.length_append] at single
  have some := List.length_pos_iff.mpr left
  have more := List.length_pos_iff.mpr right
  omega

/-- Where no blank stands at the start and none after some point, nothing is trimmed, whatever
stands between. -/
theorem trim_append_clear {cs ds : List Char} (some : cs ≠ [])
    (first : ∀ c ∈ cs.head?, isBlank c = false) (last : ds ≠ []) (clear : IsClear ds) :
    trim (cs ++ ds) = cs ++ ds := by
  cases cs with
  | nil => contradiction
  | cons d cs =>
    refine trim_eq_self first fun c member => clear c ?_
    rw [Option.mem_def, List.getLast?_append, List.getLast?_eq_some_getLast last] at member
    cases member
    exact List.getLast_mem last

theorem trim_append_blank {cs : List Char} (clear : IsClear cs) {c : Char}
    (blank : isBlank c = true) : trim (cs ++ [c]) = cs := by
  cases cs with
  | nil => simp [trim, trimStart, trimEnd, blank]
  | cons d cs =>
    have first : isBlank d = false := clear d List.mem_cons_self
    have back : ((d :: cs).reverse).dropWhile isBlank = (d :: cs).reverse :=
      dropWhile_eq_self fun e last => clear e (List.mem_of_getLast? (List.head?_reverse ▸ last))
    rw [trim, trimStart, List.cons_append, List.dropWhile_cons_of_neg (by simp [first]), trimEnd,
      ← List.cons_append, List.reverse_concat, List.dropWhile_cons_of_pos blank, back,
      List.reverse_reverse]

/-! ## Words in lower case -/

theorem IsClear.lowercase {cs : List Char} (clear : IsClear cs) : IsClear (lowercase cs) := by
  intro d member
  obtain ⟨c, inText, inLower⟩ := List.mem_flatMap.mp member
  rw [Bool.eq_false_iff]
  intro blank
  have origin := isBlank_of_mem_lower inLower blank
  rw [clear c inText] at origin
  cases origin

theorem IsClear.of_lowercase {cs : List Char} (clear : IsClear (Text.lowercase cs)) :
    IsClear cs := by
  intro c member
  rw [Bool.eq_false_iff]
  intro blank
  have same : c ∈ Text.lowercase cs := by
    refine List.mem_flatMap.mpr ⟨c, member, ?_⟩
    rw [lower_of_isBlank blank]
    exact List.mem_singleton_self c
  rw [clear c same] at blank
  cases blank

theorem eq_space_of_mem_lower {c : Char} (member : ' ' ∈ lower c) : c = ' ' := by
  by_cases dotted : c.toNat = 0x130
  · rw [lower, if_pos dotted] at member
    exact absurd member (by decide)
  · rw [lower_eq_of_ne dotted, List.mem_singleton] at member
    exact eq_space_of_firstLower member.symm

/-- The first word of a text in lower case, if a space ends it, comes from the first word of the
text. -/
theorem exists_of_lowercase {cs u v : List Char} (spelled : lowercase cs = u ++ ' ' :: v)
    (noSpace : ' ' ∉ u) : ∃ w ds, cs = w ++ ' ' :: ds ∧ lowercase w = u := by
  induction cs generalizing u with
  | nil => simp [lowercase] at spelled
  | cons c cs ih =>
    rw [lowercase, List.flatMap_cons, ← lowercase] at spelled
    by_cases space : c = ' '
    · subst space
      cases u with
      | nil => exact ⟨[], cs, rfl, rfl⟩
      | cons d u =>
        have same : ' ' = d := (List.cons.inj spelled).1
        exact absurd (by rw [same]; exact List.mem_cons_self) noSpace
    · have further : ∃ as, u = lower c ++ as ∧ lowercase cs = as ++ ' ' :: v := by
        obtain ⟨as, split, rest⟩ | ⟨bs, split, rest⟩ := List.append_eq_append_iff.mp spelled
        · exact ⟨as, split, rest⟩
        · cases bs with
          | nil => exact ⟨[], by simpa using split.symm, by simpa using rest.symm⟩
          | cons b bs =>
            have same : ' ' = b := (List.cons.inj rest).1
            exact absurd (eq_space_of_mem_lower (by rw [split, same]; simp)) space
      obtain ⟨as, split, rest⟩ := further
      obtain ⟨w, ds, text, lowered⟩ := ih rest fun member => noSpace (by simp [split, member])
      exact ⟨c :: w, ds, by rw [text]; rfl, by rw [split, ← lowered]; rfl⟩

end Shortcuts.Text
