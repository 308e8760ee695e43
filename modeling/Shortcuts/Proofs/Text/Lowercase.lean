import Shortcuts.Text.Case
/-!
# Lowercase characters stay as they are

The lowercase of a character has a lowercase of its own, and that is itself: the table of case runs
never maps a code point to one that it maps again (`bits_images`).  So the keys that bindings use
are spelled by the very character that they hold.
-/

namespace Shortcuts.Text

/-! ## What the table lists, and what it maps that to -/

def CaseRun.points (r : CaseRun) : List Nat :=
  (List.range ((r.last - r.first) / r.step + 1)).map fun i => r.first + r.step * i

def listed (runs : List CaseRun) : List Nat := runs.flatMap CaseRun.points

/-- The code points to which a table maps those that it lists. -/
def images (runs : List CaseRun) : List Nat :=
  runs.flatMap fun r => r.points.map fun (n : Nat) => (n + r.shift).toNat

/-- A code point within a run and in step with it is one of its points. -/
theorem CaseRun.mem_points {r : CaseRun} {n : Nat} (above : r.first ≤ n) (below : n ≤ r.last)
    (inStep : (n - r.first) % r.step = 0) : n ∈ r.points := by
  have whole : r.step * ((n - r.first) / r.step) = n - r.first := by
    have := Nat.div_add_mod (n - r.first) r.step
    omega
  have within : (n - r.first) / r.step ≤ (r.last - r.first) / r.step :=
    Nat.div_le_div_right (by omega)
  refine List.mem_map.mpr ⟨(n - r.first) / r.step, List.mem_range.mpr (by omega), ?_⟩
  omega

/-- A code point with a shift is listed, and the shift leads to an image. -/
theorem mem_of_shiftOf {runs : List CaseRun} {n : Nat} {d : Int}
    (shifted : shiftOf runs n = some d) : n ∈ listed runs ∧ (n + d).toNat ∈ images runs := by
  induction runs with
  | nil => simp [shiftOf] at shifted
  | cons r runs ih =>
    rw [listed, images, List.flatMap_cons, List.flatMap_cons, List.mem_append, List.mem_append]
    unfold shiftOf at shifted
    split at shifted
    · contradiction
    next above =>
      split at shifted
      next below =>
        split at shifted
        next inStep =>
          cases shifted
          have point := CaseRun.mem_points (Nat.le_of_not_lt above) below inStep
          exact ⟨.inl point, .inl (List.mem_map.mpr ⟨n, point, rfl⟩)⟩
        · contradiction
      · exact (ih shifted).imp .inr .inr

/-! ## No image is listed

Comparing some fourteen hundred images with as many listed code points one by one is slow to check.
As the bits of two numbers the sets are compared in one step. -/

/-- A set of numbers as the bits of one number. -/
def bits : List Nat → Nat
  | [] => 0
  | n :: ns => 1 <<< n ||| bits ns

theorem testBit_bits (ns : List Nat) (m : Nat) : (bits ns).testBit m = decide (m ∈ ns) := by
  induction ns with
  | nil => simp [bits]
  | cons n ns ih => simp [bits, ih, Nat.one_shiftLeft, Nat.testBit_two_pow, Bool.decide_or, eq_comm]

/-- Sets without a common bit have no common member. -/
theorem not_mem_of_bits {ms ns : List Nat} (apart : bits ms &&& bits ns = 0) {n : Nat}
    (h : n ∈ ns) : n ∉ ms := by
  intro h'
  have both : (bits ms &&& bits ns).testBit n = true := by simp [testBit_bits, h, h']
  rw [apart, Nat.zero_testBit] at both
  contradiction

/-- The lowercase table maps nothing to a code point that it lists, nor to the space or to the one
character with a lowercase of two characters. -/
theorem bits_images :
    bits (0x20 :: 0x130 :: listed lowercaseRuns) &&& bits (images lowercaseRuns) = 0 := by
  decide +kernel

theorem isValidChar_images : ∀ m ∈ images lowercaseRuns, m.isValidChar := by decide +kernel

/-! ## The first lowercase character -/

theorem toNat_ofNat {n : Nat} (valid : n.isValidChar) : (Char.ofNat n).toNat = n := by
  rw [Char.ofNat, dif_pos valid]
  rfl

theorem firstLower_cases (c : Char) :
    firstLower c = 'i' ∨
      (shiftOf lowercaseRuns c.toNat = none ∧ c.toNat ≠ 0x130 ∧ firstLower c = c) ∨
        (firstLower c).toNat ∈ images lowercaseRuns := by
  unfold firstLower
  by_cases h : c.toNat = 0x130
  · rw [if_pos h]
    exact .inl rfl
  · rw [if_neg h, mapped]
    cases hd : shiftOf lowercaseRuns c.toNat with
    | none => exact .inr (.inl ⟨rfl, h, Char.ofNat_toNat c⟩)
    | some d =>
      have image := (mem_of_shiftOf hd).2
      have code : (Char.ofNat (c.toNat + d).toNat).toNat = (c.toNat + d).toNat :=
        toNat_ofNat (isValidChar_images _ image)
      exact .inr (.inr (by simpa only [code] using image))

/-- A first lowercase character is mapped no further, and only the space leads to the space. -/
theorem firstLower_settled (c : Char) :
    shiftOf lowercaseRuns (firstLower c).toNat = none ∧ (firstLower c).toNat ≠ 0x130 ∧
      (firstLower c = ' ' → c = ' ') := by
  rcases firstLower_cases c with dotted | ⟨unlisted, short, same⟩ | image
  · rw [dotted]
    exact ⟨by decide +kernel, by decide, fun blank => absurd blank (by decide)⟩
  · rw [same]
    exact ⟨unlisted, short, id⟩
  · have apart := not_mem_of_bits bits_images image
    simp only [List.mem_cons, not_or] at apart
    obtain ⟨visible, short, unlisted⟩ := apart
    refine ⟨?_, short, fun blank => absurd (congrArg Char.toNat blank) visible⟩
    exact Option.eq_none_iff_forall_ne_some.mpr fun e he => unlisted (mem_of_shiftOf he).1

/-- The lowercase of a first lowercase character is that character. -/
theorem lower_firstLower (c : Char) : lower (firstLower c) = [firstLower c] := by
  obtain ⟨unlisted, short, -⟩ := firstLower_settled c
  rw [lower, if_neg short, mapped, unlisted, Char.ofNat_toNat]

theorem firstLower_firstLower (c : Char) : firstLower (firstLower c) = firstLower c := by
  have head := head_lower (firstLower c)
  rw [lower_firstLower, List.head?_cons, Option.some_inj] at head
  exact head.symm

/-- Only the space has the space for its lowercase. -/
theorem eq_space_of_firstLower {c : Char} (h : firstLower c = ' ') : c = ' ' :=
  (firstLower_settled c).2.2 h

/-! ## What leads to ASCII

Nothing but its own letters does so, with two exceptions: the Kelvin sign, whose lowercase is `k`,
and the one character with a lowercase of two, the first of which is `i`. -/

/-- A code point with a shift lies in a run with that shift. -/
theorem exists_run_of_shiftOf {runs : List CaseRun} {n : Nat} {d : Int}
    (shifted : shiftOf runs n = some d) :
    ∃ r ∈ runs, r.first ≤ n ∧ n ≤ r.last ∧ r.shift = d := by
  induction runs with
  | nil => cases shifted
  | cons r runs ih =>
    unfold shiftOf at shifted
    split at shifted
    · contradiction
    next above =>
      split at shifted
      next below =>
        split at shifted
        · cases shifted
          exact ⟨r, List.mem_cons_self, Nat.le_of_not_lt above, below, rfl⟩
        · contradiction
      next =>
        obtain ⟨r', member, within⟩ := ih shifted
        exact ⟨r', List.mem_cons_of_mem r member, within⟩

/-- Of all runs, those that lead to ASCII stay in it or hold the Kelvin sign alone. -/
theorem runs_to_ascii : lowercaseRuns.all (fun r =>
    0x80 ≤ r.first + r.shift || r.last < 0x80 || r.first == 0x212a && r.last == 0x212a) = true := by
  decide

theorem ascii_of_firstLower {c : Char} (ascii : (firstLower c).toNat < 0x80) :
    c.toNat < 0x80 ∨ c = '\u0130' ∨ c = '\u212a' := by
  unfold firstLower at ascii
  split at ascii
  next dotted => exact .inr (.inl (Char.toNat_inj.mp dotted))
  next =>
    rw [mapped] at ascii
    cases shifted : shiftOf lowercaseRuns c.toNat with
    | none =>
      rw [shifted, Char.ofNat_toNat] at ascii
      exact .inl ascii
    | some d =>
      have image := (mem_of_shiftOf shifted).2
      rw [shifted, toNat_ofNat (isValidChar_images _ image)] at ascii
      obtain ⟨r, member, above, below, rfl⟩ := exists_run_of_shiftOf shifted
      have far := List.all_eq_true.mp runs_to_ascii r member
      simp only [Bool.or_eq_true, Bool.and_eq_true, decide_eq_true_eq, beq_iff_eq] at far
      rcases far with (far | within) | ⟨first, last⟩
      · omega
      · exact .inl (by omega)
      · have kelvin : c.toNat = 0x212a := by omega
        exact .inr (.inr (Char.toNat_inj.mp kelvin))

theorem lower_of_ascii {c : Char} (ascii : c.toNat < 0x80) : lower c = [c.toLower] := by
  have each : ∀ n < 0x80, lower (Char.ofNat n) = [(Char.ofNat n).toLower] := by decide
  have same := each c.toNat ascii
  rwa [Char.ofNat_toNat] at same

/-! ## Whole texts -/

theorem lowercase_append (cs ds : List Char) :
    lowercase (cs ++ ds) = lowercase cs ++ lowercase ds := List.flatMap_append

theorem lowercase_eq_self {cs : List Char} (settled : ∀ c ∈ cs, lower c = [c]) :
    lowercase cs = cs := by
  induction cs with
  | nil => rfl
  | cons c cs ih =>
    obtain ⟨first, rest⟩ := List.forall_mem_cons.mp settled
    rw [lowercase, List.flatMap_cons, first, ← lowercase, ih rest]
    rfl

/-! ## Capital letters -/

theorem lower_toLower (c : Char) : lower c.toLower = lower c := by
  by_cases ascii : c.toNat < 0x80
  · have each : ∀ n < 0x80, lower (Char.ofNat n).toLower = lower (Char.ofNat n) := by
      decide
    have all := each c.toNat ascii
    rwa [Char.ofNat_toNat] at all
  · have noCapital : ¬(c.val ≥ 'A'.val ∧ c.val ≤ 'Z'.val) := by
      rintro ⟨-, atMost⟩
      exact ascii (Nat.lt_of_le_of_lt (UInt32.le_iff_toNat_le.mp atMost) (by decide))
    have same : c.toLower = c := dif_neg noCapital
    rw [same]

theorem lowercase_map_toLower (cs : List Char) :
    lowercase (cs.map Char.toLower) = lowercase cs := by
  simp only [lowercase, List.flatMap_map, lower_toLower]

end Shortcuts.Text
