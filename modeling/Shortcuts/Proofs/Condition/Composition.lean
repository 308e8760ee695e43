import Shortcuts.Proofs.Condition.RoundTrip
import Shortcuts.Proofs.Except
/-!
# Conditions put together as texts

Conditions can be combined before they are read: a connective or a negation written around texts
means what it means for the conditions that they are read as.  A disjunction needs no parentheses
around its sides, as nothing binds less tightly; but then the disjunctions of the sides are spliced
into the outer one, so that only the meaning is that of the parts (`parse_or`).  With parentheses
the conditions themselves are parts (`parse_intercalate_and`).  Therefore a list of texts that must
all hold is read like the one text that joins them (`parse_composed`).
-/

namespace Shortcuts.Condition

variable {s t : String} {c d : Condition}

/-! ## The meaning of a chain -/

theorem holds_joined_all (look : Lookup) (cs : List Condition) :
    (joined all cs).holds look = holdsAll look cs := by
  rcases cs with _ | ⟨c, _ | ⟨d, cs⟩⟩
  · rfl
  · simp [joined, holdsAll]
  · rfl

theorem holds_joined_any (look : Lookup) (cs : List Condition) :
    (joined any cs).holds look = holdsAny look cs := by
  rcases cs with _ | ⟨c, _ | ⟨d, cs⟩⟩
  · rfl
  · simp [joined, holdsAny]
  · rfl

/-! ## Texts with something around them -/

theorem Reads.of_parse (reads : parse s = .ok c) : Reads .unary (parenthesized s) c := by
  obtain ⟨cs, parts, rfl⟩ := parse_eq_ok_iff_readsParts.mp reads
  exact parts.group

theorem ReadsParts.parse_and {cs : List Condition} (reads : ReadsParts .and s cs) :
    parse s = .ok (joined all cs) :=
  parse_eq_ok_iff_readsParts.mpr ⟨_, reads.or, rfl⟩

theorem parse_or (readsLeft : parse s = .ok c) (readsRight : parse t = .ok d) :
    ∃ e, parse (s ++ " || " ++ t) = .ok e ∧
      ∀ look, e.holds look = (c.holds look || d.holds look) := by
  obtain ⟨cs, left, rfl⟩ := parse_eq_ok_iff_readsParts.mp readsLeft
  obtain ⟨ds, right, rfl⟩ := parse_eq_ok_iff_readsParts.mp readsRight
  refine ⟨_, parse_eq_ok_iff_readsParts.mpr ⟨_, left.append right, rfl⟩, fun look => ?_⟩
  simp only [holds_joined_any, holdsAny_append]

theorem parse_not (reads : parse s = .ok c) : parse ("!" ++ parenthesized s) = .ok (.not c) :=
  (Reads.of_parse reads).not.and.parse_and

theorem parse_intercalate_and {pairs : List (String × Condition)} (nonempty : pairs ≠ [])
    (each : ∀ p ∈ pairs, parse p.1 = .ok p.2) :
    parse (" && ".intercalate (pairs.map fun p => parenthesized p.1)) =
      .ok (joined all (pairs.map Prod.snd)) := by
  have parts : ∀ p ∈ pairs, ReadsParts .and (parenthesized p.1) [p.2] := fun p member =>
    (Reads.of_parse (each p member)).and
  have whole := (ReadsParts.intercalate nonempty parts).parse_and
  rwa [← List.map_eq_flatMap] at whole

theorem parse_and (readsLeft : parse s = .ok c) (readsRight : parse t = .ok d) :
    parse (parenthesized s ++ " && " ++ parenthesized t) = .ok (all [c, d]) := by
  have each : ∀ p ∈ [(s, c), (t, d)], parse p.1 = .ok p.2 := by simp [readsLeft, readsRight]
  simpa [joined] using parse_intercalate_and (List.cons_ne_nil _ _) each

/-! ## Lists of texts -/

theorem parseAll_eq_ok_iff {texts : List String} :
    parseAll texts = .ok c ↔ ∃ cs, texts.map parse = cs.map .ok ∧
      c = if cs = [] then always else joined all cs := by
  rw [parseAll, bind_eq_ok_iff]
  constructor
  · rintro ⟨cs, reads, result⟩
    refine ⟨cs, mapM_eq_ok_iff.mp reads, ?_⟩
    rcases cs with _ | ⟨c, _ | ⟨d, cs⟩⟩ <;> cases result <;> rfl
  · rintro ⟨cs, reads, rfl⟩
    refine ⟨cs, mapM_eq_ok_iff.mpr reads, ?_⟩
    rcases cs with _ | ⟨c, _ | ⟨d, cs⟩⟩ <;> rfl

/-- Texts of conditions are composed to texts of the disjunction, the conjunction and the negation of
these conditions, and a list of texts that must all hold is read like their conjunction. -/
theorem parse_composed :
    (∀ s t c d, parse s = .ok c → parse t = .ok d →
        (∃ e, parse (s ++ " || " ++ t) = .ok e ∧
          ∀ look, e.holds look = (c.holds look || d.holds look)) ∧
        (∃ e, parse (parenthesized s ++ " && " ++ parenthesized t) = .ok e ∧
          ∀ look, e.holds look = (c.holds look && d.holds look)) ∧
        ∃ e, parse ("!" ++ parenthesized s) = .ok e ∧ ∀ look, e.holds look = !c.holds look) ∧
      ∀ (texts : List String) (c : Condition), texts ≠ [] → parseAll texts = .ok c →
        parse (" && ".intercalate (texts.map parenthesized)) = .ok c ∧
          ∃ cs : List Condition, texts.map parse = cs.map .ok ∧
            ∀ look, c.holds look = cs.all (holds look) := by
  refine ⟨fun s t c d readsLeft readsRight => ⟨parse_or readsLeft readsRight, ?_, ?_⟩, ?_⟩
  · exact ⟨_, parse_and readsLeft readsRight, fun look => by simp [holds, holdsAll]⟩
  · exact ⟨_, parse_not readsLeft, fun look => by rw [holds]⟩
  · intro texts c nonempty reads
    obtain ⟨cs, results, rfl⟩ := parseAll_eq_ok_iff.mp reads
    obtain ⟨pairs, rfl, rfl, each⟩ := exists_pairs_of_map_eq results
    have some : pairs ≠ [] := by simpa using nonempty
    rw [if_neg (by simpa using some)]
    refine ⟨?_, pairs.map Prod.snd, results, fun look => ?_⟩
    · rw [List.map_map]
      exact parse_intercalate_and some each
    · rw [holds_joined_all, holdsAll_eq]

/-- The disjunctions are spliced where they stand bare and kept where they stand in parentheses, and
an operator in quotes is none. -/
theorem parse_composed_spliced :
    let c := any [has "a", has "b"]
    let d := any [compare "c" .eq "||", not (has "d")]
    parse "a || b" = .ok c ∧ parse "c == '||' || !d" = .ok d ∧
      (∃ e, parse "a || b || c == '||' || !d" = .ok e ∧
        ∀ look, e.holds look = (c.holds look || d.holds look)) ∧
      parseAll ["a || b", "c == '||' || !d"] = .ok (all [c, d]) ∧
      parse "(a || b) && (c == '||' || !d)" = .ok (all [c, d]) := by
  intro c d
  have left : parse "a || b" = .ok c := parse_eq_ok.mpr (by cbv)
  have right : parse "c == '||' || !d" = .ok d := parse_eq_ok.mpr (by cbv)
  have bare : "a || b" ++ " || " ++ "c == '||' || !d" = "a || b || c == '||' || !d" := by decide
  have grouped : " && ".intercalate (["a || b", "c == '||' || !d"].map parenthesized) =
      "(a || b) && (c == '||' || !d)" := by decide
  have both : parseAll ["a || b", "c == '||' || !d"] = .ok (all [c, d]) :=
    parseAll_eq_ok_iff.mpr ⟨[c, d], by simp [left, right], rfl⟩
  obtain ⟨pair, list⟩ := parse_composed
  refine ⟨left, right, bare ▸ (pair _ _ c d left right).1, both, ?_⟩
  rw [← grouped]
  exact (list _ _ (by simp) both).1

end Shortcuts.Condition
