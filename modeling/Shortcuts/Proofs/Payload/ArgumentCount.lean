import Shortcuts.Proofs.Payload.Filling
/-!
# How many arguments a command gets

A payload is spread after it has been filled.  A filled list has the length of the template, and a
filled record is still a record, so the number of arguments is that of the template.  It is not if
the template is nothing but a placeholder (`composeArguments_count_varies`), for then the argument
itself is spread, whatever it is.
-/

namespace Shortcuts

theorem Payload.length_spread_of_shell {p q : Payload} (shells : q.shell = p.shell) :
    q.spread.length = p.spread.length := by
  cases p with
  | list items =>
    cases q with
    | list others =>
      simpa [spread, shell] using congrArg (fun r => r.spread.length) shells
    | _ => simp [shell] at shells
  | _ =>
    cases q with
    | list others => simp [shell] at shells
    | _ => rfl

theorem length_of_composeArguments {caller args : List Payload} {p : Payload}
    (noText : ∀ s, p ≠ .text s) (template : p.isTemplate)
    (composed : composeArguments caller (some p) = .ok args) : args.length = p.spread.length := by
  rw [composeArguments_of_template template, map_eq_ok_iff] at composed
  obtain ⟨q, filled, rfl⟩ := composed
  exact Payload.length_spread_of_shell (Payload.of_fill_eq_ok noText filled).1

theorem composeArguments_placeholder {caller : List Payload} {p v : Payload} {i : Nat}
    (stands : p.PlaceholderAt [] i) (given : caller[i]? = some v) :
    composeArguments caller (some p) = .ok v.spread := by
  obtain ⟨s, rfl, number⟩ := Payload.placeholderAt_nil.mp stands
  have template : (Payload.text s).isTemplate := by simp [Payload.isTemplate, number]
  have filled : (Payload.text s).fill caller = .ok v := by simp [Payload.fill, number, given]
  rw [composeArguments_of_template template, filled]
  rfl

theorem exists_placeholder_of_text {s : String} (template : (Payload.text s).isTemplate) :
    ∃ i, (Payload.text s).PlaceholderAt [] i := by
  obtain ⟨i, number⟩ := Option.isSome_iff_exists.mp template
  exact ⟨i, Payload.placeholderAt_text.mpr ⟨rfl, number⟩⟩

section

variable {caller caller' args args' : List Payload} {payload : Option Payload}

theorem exists_composeArguments_congr (ordered : ∀ p ∈ payload, p.Ordered)
    (sameLength : caller.length = caller'.length) :
    (∃ args, composeArguments caller payload = .ok args) ↔
      ∃ args, composeArguments caller' payload = .ok args := by
  cases payload with
  | none => simp [composeArguments]
  | some p =>
    by_cases template : p.isTemplate
    · rw [exists_composeArguments_iff (ordered p rfl) template,
        exists_composeArguments_iff (ordered p rfl) template, sameLength]
    · simp [composeArguments_of_plain template]

theorem length_composeArguments_congr (noPlaceholder : ∀ p ∈ payload, ∀ i, ¬ p.PlaceholderAt [] i)
    (sameLength : caller.length = caller'.length)
    (composed : composeArguments caller payload = .ok args)
    (composed' : composeArguments caller' payload = .ok args') : args.length = args'.length := by
  cases payload with
  | none =>
    cases composed
    cases composed'
    exact sameLength
  | some p =>
    by_cases template : p.isTemplate
    · have noText : ∀ s, p ≠ .text s := by
        rintro s rfl
        obtain ⟨i, stands⟩ := exists_placeholder_of_text template
        exact noPlaceholder _ rfl i stands
      rw [length_of_composeArguments noText template composed,
        length_of_composeArguments noText template composed']
    · rw [composeArguments_of_plain template] at composed composed'
      cases composed
      cases composed'
      rw [List.length_append, List.length_append, sameLength]

end

/-- Whether a command gets its arguments depends only on how many its caller gives.  So does the
number that it gets, unless the payload is nothing but a placeholder: such a payload gives as many
arguments as the one that it stands for spreads to.  Any other template gives one argument, or one
for each of its items if it is a list. -/
theorem composeArguments_counts (payload : Option Payload) (ordered : ∀ p ∈ payload, p.Ordered) :
    (∀ caller caller' : List Payload, caller.length = caller'.length →
      ((∃ args, composeArguments caller payload = .ok args) ↔
        ∃ args, composeArguments caller' payload = .ok args)) ∧
    ((∀ caller caller' args args', caller.length = caller'.length →
        composeArguments caller payload = .ok args →
        composeArguments caller' payload = .ok args' → args.length = args'.length) ↔
      ∀ p ∈ payload, ∀ i, ¬ p.PlaceholderAt [] i) ∧
    ∀ p ∈ payload, (∃ place i, p.PlaceholderAt place i) →
      ∀ caller args, composeArguments caller payload = .ok args →
        match p with
        | .list items => args.length = items.length
        | .text _ => ∃ i v, p.PlaceholderAt [] i ∧ caller[i]? = some v ∧ args = v.spread
        | _ => args.length = 1 := by
  refine ⟨fun _ _ => exists_composeArguments_congr ordered, ⟨?_, ?_⟩, ?_⟩
  · rintro decided p rfl i stands
    -- as many arguments on both sides, but nulls on one and empty lists on the other
    have one : composeArguments (List.replicate (i + 1) .null) (some p) = .ok [.null] :=
      composeArguments_placeholder (v := .null) stands (by simp)
    have nothing : composeArguments (List.replicate (i + 1) (.list [])) (some p) = .ok [] :=
      composeArguments_placeholder (v := .list []) stands (by simp)
    have equal := decided _ _ _ _ (by simp) one nothing
    cases equal
  · intro noPlaceholder caller caller' args args'
    exact length_composeArguments_congr noPlaceholder
  · rintro p rfl marked caller args composed
    have template := (Payload.isTemplate_iff (ordered p rfl)).mpr marked
    cases p with
    | text s =>
      obtain ⟨i, stands⟩ := exists_placeholder_of_text template
      have below := (exists_composeArguments_iff (ordered _ rfl) template).mp ⟨args, composed⟩
        [] i stands
      have given := List.getElem?_eq_getElem below
      rw [composeArguments_placeholder stands given] at composed
      cases composed
      exact ⟨i, _, stands, given, rfl⟩
    | _ => exact length_of_composeArguments (by simp) template composed

theorem composeArguments_counts_list :
    let p := Payload.list [.text "$\x7b0\x7d", .whole 7]
    (∀ q ∈ some p, q.Ordered) ∧
      ((∃ args, composeArguments [.null] (some p) = .ok args) ↔
        ∃ args, composeArguments [.list []] (some p) = .ok args) := by
  intro p
  have ordered : ∀ q ∈ some p, q.Ordered := by
    rintro q ⟨⟩
    apply Payload.ordered_list
    intro q member
    simp only [List.mem_cons, List.not_mem_nil, or_false] at member
    rcases member with rfl | rfl
    · exact .of_leaf (fun _ => rfl) nofun
    · exact .of_leaf (fun _ => rfl) nofun
  exact ⟨ordered, (composeArguments_counts (some p) ordered).1 _ _ rfl⟩

/-- Nothing but a placeholder takes on the length of its argument, so that the arguments behind it
are shifted. -/
theorem composeArguments_count_varies :
    let p := Payload.text "$\x7b0\x7d"
    composeArguments [.list [.whole 1, .whole 2]] (some p) = .ok [.whole 1, .whole 2] ∧
      composeArguments [.whole 1] (some p) = .ok [.whole 1] ∧
      ¬ ∀ caller caller' args args', caller.length = caller'.length →
        composeArguments caller (some p) = .ok args →
        composeArguments caller' (some p) = .ok args' → args.length = args'.length := by
  intro p
  have two : composeArguments [.list [.whole 1, .whole 2]] (some p) = .ok [.whole 1, .whole 2] :=
    rfl
  have one : composeArguments [.whole 1] (some p) = .ok [.whole 1] := rfl
  refine ⟨two, one, fun decided => ?_⟩
  have equal := decided [.list [.whole 1, .whole 2]] [.whole 1] _ _ rfl two one
  cases equal

end Shortcuts
