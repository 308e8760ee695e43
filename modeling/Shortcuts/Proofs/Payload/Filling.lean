import Shortcuts.Proofs.Except
import Shortcuts.Proofs.Payload.Placeholders
/-!
# Templates filled with arguments

A template that is filled has the same places as before, with an argument at each place of a
placeholder (`Fills`).  The arguments themselves are not looked into, so there is one such payload,
and filling finds it (`fill_eq_ok_iff`).  If it fails, it names the first placeholder whose argument
is missing: the walk over the children of a payload stops at the first child that fails, and the
children are visited in the order of places.

Main result: `composeArguments_exact` says what a command is called with, for all payloads.
-/

namespace Shortcuts

namespace Payload

variable {caller : List Payload} {e : MissingArgument}

/-! ## Filling child by child -/

theorem fill_list (items : List Payload) :
    fill caller (list items) = list <$> items.mapM (fill caller) := by
  -- the walk over the items is written out next to `fill` for the sake of termination
  have each : fillItems caller items = items.mapM (fill caller) := by
    induction items with
    | nil => rfl
    | cons p items ih =>
      rw [fillItems, List.mapM_cons, ih]
      cases fill caller p <;> cases items.mapM (fill caller) <;> rfl
  rw [fill, each]
  cases items.mapM (fill caller) <;> rfl

theorem fill_record (fields : List (String × Payload)) :
    fill caller (record fields) =
      record <$> fields.mapM fun f => (f.1, ·) <$> fill caller f.2 := by
  have each : fillFields caller fields = fields.mapM fun f => (f.1, ·) <$> fill caller f.2 := by
    induction fields with
    | nil => rfl
    | cons f fields ih =>
      rw [fillFields, List.mapM_cons, ih]
      cases fill caller f.2 <;>
        cases fields.mapM fun f => (f.1, ·) <$> fill caller f.2 <;> rfl
  rw [fill, each]
  cases fields.mapM fun f => (f.1, ·) <$> fill caller f.2 <;> rfl

theorem lookup_of_filled {fields out : List (String × Payload)}
    (filled : fields.map (fun f => (f.1, ·) <$> fill caller f.2) = out.map .ok) :
    out.map Prod.fst = fields.map Prod.fst ∧
      ∀ name v, fields.lookup name = some v →
        ∃ w, out.lookup name = some w ∧ v.fill caller = .ok w := by
  induction fields generalizing out with
  | nil =>
    cases out with
    | nil => exact ⟨rfl, nofun⟩
    | cons g out => cases filled
  | cons f fields ih =>
    cases out with
    | nil => cases filled
    | cons g out =>
      obtain ⟨first, rest⟩ := List.cons.inj filled
      obtain ⟨w, value, rfl⟩ := map_eq_ok_iff.mp first
      obtain ⟨names, lookups⟩ := ih rest
      refine ⟨by simp [names], ?_⟩
      intro name v found
      rw [List.lookup_cons] at found ⊢
      split at found
      next => exact ⟨w, rfl, Option.some.inj found ▸ value⟩
      next => exact lookups name v found

/-- A payload that is no text is filled in its children. -/
theorem of_fill_eq_ok {p q : Payload} (noText : ∀ s, p ≠ text s) (filled : p.fill caller = .ok q) :
    q.shell = p.shell ∧
      ∀ s v, p.child? s = some v → ∃ w, q.child? s = some w ∧ v.fill caller = .ok w := by
  cases p with
  | text s => exact absurd rfl (noText s)
  | list items =>
    rw [fill_list, map_eq_ok_iff] at filled
    obtain ⟨out, filled, rfl⟩ := filled
    rw [mapM_eq_ok_iff] at filled
    have length : items.length = out.length := by simpa using congrArg List.length filled
    refine ⟨by simp [shell, List.map_const', length], ?_⟩
    intro s v child
    cases s with
    | item i =>
      have here := congrArg (·[i]?) filled
      have child : items[i]? = some v := child
      simp only [List.getElem?_map, child, Option.map_some] at here
      obtain ⟨w, found, same⟩ := Option.map_eq_some_iff.mp here.symm
      exact ⟨w, found, same.symm⟩
    | field name => cases child
  | record fields =>
    rw [fill_record, map_eq_ok_iff] at filled
    obtain ⟨out, filled, rfl⟩ := filled
    obtain ⟨names, lookups⟩ := lookup_of_filled (mapM_eq_ok_iff.mp filled)
    refine ⟨?_, ?_⟩
    · have bare (fs : List (String × Payload)) :
          fs.map (fun f => (f.1, null)) = (fs.map Prod.fst).map (·, null) := by simp
      simp only [shell, bare, names]
    · intro s v child
      cases s with
      | item i => cases child
      | field name => exact lookups name v child
  | _ =>
    cases filled
    refine ⟨rfl, ?_⟩
    intro s v child
    cases child

/-- A payload whose filling fails has a first child whose filling fails, in the same way. -/
theorem exists_child_of_fill_error {p : Payload}
    (ascending : ∀ fields, p = record fields → IsAscending fields) (noText : ∀ s, p ≠ text s)
    (failed : p.fill caller = .error e) :
    ∃ s q, p.child? s = some q ∧ q.fill caller = .error e ∧
      ∀ s' q', p.child? s' = some q' → s' = s ∨ s.Before s' ∨ ∃ v, q'.fill caller = .ok v := by
  cases p with
  | text s => exact absurd rfl (noText s)
  | list items =>
    rw [fill_list, map_eq_error_iff, mapM_eq_error_iff] at failed
    obtain ⟨before, q, after, rfl, earlier, fails⟩ := failed
    refine ⟨.item before.length, q, by simp [child?], fails, ?_⟩
    intro s' q' child
    cases s' with
    | field name => cases child
    | item j =>
      -- what is left of the failing item was filled, the rest was not looked at
      rcases Nat.lt_trichotomy j before.length with less | rfl | greater
      · right; right
        have found : (before ++ q :: after)[j]? = some q' := child
        rw [List.getElem?_append_left less] at found
        exact earlier q' (List.mem_of_getElem? found)
      · exact .inl rfl
      · exact .inr (.inl (.item greater))
  | record fields =>
    rw [fill_record, map_eq_error_iff, mapM_eq_error_iff] at failed
    obtain ⟨before, ⟨name, q⟩, after, rfl, earlier, fails⟩ := failed
    have ascends := ascending _ rfl
    refine ⟨.field name, q, lookup_of_mem ascends (f := (name, q)) (by simp),
      map_eq_error_iff.mp fails, ?_⟩
    intro s' q' child
    cases s' with
    | item j => cases child
    | field other =>
      rcases List.mem_append.mp (mem_of_lookup child) with inBefore | inRest
      · right; right
        obtain ⟨g, filled⟩ := earlier _ inBefore
        obtain ⟨v, filled, -⟩ := map_eq_ok_iff.mp filled
        exact ⟨v, filled⟩
      · rcases List.mem_cons.mp inRest with here | inAfter
        · left
          rw [(Prod.mk.inj here).1]
        · right; left
          obtain ⟨-, restAscends, -⟩ := List.pairwise_append.mp ascends
          exact .field ((List.pairwise_cons.mp restAscends).1 _ inAfter)
  | _ => cases failed

/-! ## What a filled template is -/

/-- One payload is another one with each placeholder replaced by its argument; elsewhere it has
the same values, the same lengths and the same names. -/
structure Fills (caller : List Payload) (p q : Payload) : Prop where
  replaced : ∀ place i, p.PlaceholderAt place i →
    ∃ v, caller[i]? = some v ∧ q.at? place = some v
  kept : ∀ place v, p.at? place = some v → (∀ i, ¬ p.PlaceholderAt place i) →
    (q.at? place).map shell = some v.shell

theorem Fills.of_placeholder {p v : Payload} {i : Nat} (stands : p.PlaceholderAt [] i)
    (given : caller[i]? = some v) : Fills caller p v := by
  obtain ⟨s, rfl, number⟩ := placeholderAt_nil.mp stands
  constructor
  · intro place j found
    cases place with
    | nil =>
      obtain ⟨t, same, other⟩ := placeholderAt_nil.mp found
      cases same
      rw [number, Option.some.injEq] at other
      exact ⟨v, other ▸ given, rfl⟩
    | cons s place =>
      obtain ⟨q, child, -⟩ := placeholderAt_cons.mp found
      cases child
  · intro place w found unmarked
    cases place with
    | nil => exact absurd stands (unmarked i)
    | cons s place => cases found

theorem Fills.of_children {p q : Payload} (unmarked : ∀ i, ¬ p.PlaceholderAt [] i)
    (shells : q.shell = p.shell)
    (children : ∀ s v, p.child? s = some v → ∃ w, q.child? s = some w ∧ Fills caller v w) :
    Fills caller p q := by
  constructor
  · intro place i found
    cases place with
    | nil => exact absurd found (unmarked i)
    | cons s place =>
      obtain ⟨v, child, found⟩ := placeholderAt_cons.mp found
      obtain ⟨w, filledChild, fills⟩ := children s v child
      obtain ⟨u, given, there⟩ := fills.replaced place i found
      exact ⟨u, given, by rw [at?, filledChild, Option.bind_some, there]⟩
  · intro place v found other
    cases place with
    | nil =>
      obtain rfl : p = v := Option.some.inj found
      exact congrArg some shells
    | cons s place =>
      obtain ⟨u, child, found⟩ := Option.bind_eq_some_iff.mp found
      obtain ⟨w, filledChild, fills⟩ := children s u child
      rw [at?, filledChild, Option.bind_some]
      refine fills.kept place v found fun i stands => other i ?_
      exact placeholderAt_cons.mpr ⟨u, child, stands⟩

theorem Fills.shell_eq {p q : Payload} (fills : Fills caller p q)
    (unmarked : ∀ i, ¬ p.PlaceholderAt [] i) : q.shell = p.shell :=
  Option.some.inj (fills.kept [] p rfl unmarked)

theorem Fills.child {p q v : Payload} {s : Step} (fills : Fills caller p q)
    (child : p.child? s = some v) : ∃ w, q.child? s = some w ∧ Fills caller v w := by
  have unmarked (i : Nat) : ¬ p.PlaceholderAt [] i := by
    intro stands
    obtain ⟨t, rfl, -⟩ := placeholderAt_nil.mp stands
    cases child
  have there := isSome_child?_of_shell (fills.shell_eq unmarked) s
  rw [child, Option.isSome_some, Option.isSome_iff_exists] at there
  obtain ⟨w, filledChild⟩ := there
  have inside (place : Place) : q.at? (s :: place) = w.at? place := by
    rw [at?, filledChild, Option.bind_some]
  refine ⟨w, filledChild, ?_, ?_⟩
  · intro place i stands
    rw [← inside]
    exact fills.replaced (s :: place) i (placeholderAt_cons.mpr ⟨v, child, stands⟩)
  · intro place u found other
    rw [← inside]
    apply fills.kept (s :: place) u
    · rw [at?, child, Option.bind_some, found]
    · intro i stands
      obtain ⟨v', child', stands⟩ := placeholderAt_cons.mp stands
      rw [child, Option.some.injEq] at child'
      exact other i (child' ▸ stands)

/-- A template has at most one filling. -/
theorem Fills.unique {p q q' : Payload} (ordered : p.Ordered) (left : Fills caller p q)
    (right : Fills caller p q') : q = q' := by
  induction p using induction_on_children generalizing q q' with
  | step p ih =>
    by_cases stands : ∃ i, p.PlaceholderAt [] i
    · obtain ⟨i, stands⟩ := stands
      obtain ⟨v, given, here⟩ := left.replaced [] i stands
      obtain ⟨v', given', here'⟩ := right.replaced [] i stands
      rw [given, Option.some.injEq] at given'
      exact Option.some.inj (here.trans (given' ▸ here'.symm))
    · -- both fillings have the shell of the template, so only their children can differ
      have leftShell := left.shell_eq (not_exists.mp stands)
      have rightShell := right.shell_eq (not_exists.mp stands)
      apply eq_of_children
      · intro fields root
        exact ordered.ascending_of_shell leftShell root
      · rw [leftShell, rightShell]
      · intro s
        cases child : p.child? s with
        | none =>
          have noLeft := isSome_child?_of_shell leftShell s
          have noRight := isSome_child?_of_shell rightShell s
          rw [child, Option.isSome_none, Option.isSome_eq_false_iff,
            Option.isNone_iff_eq_none] at noLeft noRight
          rw [noLeft, noRight]
        | some v =>
          obtain ⟨w, leftChild, leftFills⟩ := left.child child
          obtain ⟨w', rightChild, rightFills⟩ := right.child child
          rw [leftChild, rightChild, ih s v child (ordered.child child) leftFills rightFills]

theorem fills_of_fill {p q : Payload} (filled : p.fill caller = .ok q) : Fills caller p q := by
  induction p using induction_on_texts generalizing q with
  | text s =>
    simp only [fill] at filled
    split at filled
    next noNumber =>
      cases filled
      refine .of_children ?_ rfl nofun
      intro i stands
      exact absurd (placeholderAt_text.mp stands).2 (by simp [noNumber])
    next i number =>
      split at filled
      next v given =>
        cases filled
        exact .of_placeholder (placeholderAt_text.mpr ⟨rfl, number⟩) given
      next => cases filled
  | other p noText ih =>
    obtain ⟨shells, children⟩ := of_fill_eq_ok noText filled
    refine .of_children ?_ shells ?_
    · intro i stands
      obtain ⟨s, same, -⟩ := placeholderAt_nil.mp stands
      exact noText s same
    · intro s v child
      obtain ⟨w, filledChild, filled⟩ := children s v child
      exact ⟨w, filledChild, ih s v child filled⟩

/-! ## Which argument is missing -/

/-- The first placeholder of a template, depth first, for which no argument is given. -/
structure FirstMissing (caller : List Payload) (p : Payload) (place : Place) (i : Nat) :
    Prop where
  stands : p.PlaceholderAt place i
  missing : caller.length ≤ i
  first : ∀ other j, p.PlaceholderAt other j → caller.length ≤ j →
    other = place ∨ place.Before other

theorem Fills.lt_length {p q : Payload} (fills : Fills caller p q) {place : Place} {i : Nat}
    (stands : p.PlaceholderAt place i) : i < caller.length := by
  obtain ⟨v, given, -⟩ := fills.replaced place i stands
  exact (List.getElem?_eq_some_iff.mp given).1

theorem firstMissing_of_fill_error {p : Payload} (ordered : p.Ordered)
    (failed : p.fill caller = .error e) :
    e.given = caller.length ∧ ∃ place, FirstMissing caller p place e.index := by
  induction p using induction_on_texts with
  | text s =>
    simp only [fill] at failed
    split at failed
    next => cases failed
    next i number =>
      split at failed
      next => cases failed
      next absent =>
        cases failed
        refine ⟨rfl, [], placeholderAt_text.mpr ⟨rfl, number⟩,
          List.getElem?_eq_none_iff.mp absent, ?_⟩
        intro other j stands _
        exact .inl (placeholderAt_text.mp stands).1
  | other p noText ih =>
    obtain ⟨s, q, child, failed, earlier⟩ :=
      exists_child_of_fill_error (fun _ => ordered.ascending) noText failed
    obtain ⟨given, place, missing⟩ := ih s q child (ordered.child child) failed
    refine ⟨given, s :: place, placeholderAt_cons.mpr ⟨q, child, missing.stands⟩,
      missing.missing, ?_⟩
    intro other j stands beyond
    obtain ⟨s', q', rest, rfl, child', stands⟩ := (placeholderAt_iff_child noText).mp stands
    -- a placeholder without an argument is in the child that fails, or in a later one
    rcases earlier s' q' child' with rfl | later | ⟨v, filled⟩
    · rw [child, Option.some.injEq] at child'
      rcases missing.first rest j (child' ▸ stands) beyond with rfl | after
      · exact .inl rfl
      · exact .inr (.cons after)
    · exact .inr (.rel later)
    · have below := (fills_of_fill filled).lt_length stands
      omega

theorem exists_fill_iff {p : Payload} (ordered : p.Ordered) :
    (∃ q, p.fill caller = .ok q) ↔ ∀ place i, p.PlaceholderAt place i → i < caller.length := by
  constructor
  · rintro ⟨q, filled⟩ place i stands
    exact (fills_of_fill filled).lt_length stands
  · intro enough
    cases outcome : p.fill caller with
    | ok q => exact ⟨q, rfl⟩
    | error e =>
      obtain ⟨-, place, missing⟩ := firstMissing_of_fill_error ordered outcome
      have below := enough place e.index missing.stands
      have beyond := missing.missing
      omega

/-- Filling a template gives the one payload that fills it, if there is one. -/
theorem fill_eq_ok_iff {p q : Payload} (ordered : p.Ordered) :
    p.fill caller = .ok q ↔ Fills caller p q := by
  constructor
  · exact fills_of_fill
  · intro fills
    obtain ⟨q', filled⟩ := (exists_fill_iff ordered).mpr fun _ _ => fills.lt_length
    rw [fills.unique ordered (fills_of_fill filled), filled]

end Payload

/-! ## Composed arguments -/

theorem composeArguments_of_plain {caller : List Payload} {p : Payload} (plain : ¬ p.isTemplate) :
    composeArguments caller (some p) = .ok (caller ++ p.spread) := by
  rw [composeArguments, if_neg plain]

theorem composeArguments_of_template {caller : List Payload} {p : Payload}
    (template : p.isTemplate) :
    composeArguments caller (some p) = Payload.spread <$> p.fill caller := by
  rw [composeArguments, if_pos template]

theorem exists_composeArguments_iff {caller : List Payload} {p : Payload} (ordered : p.Ordered)
    (template : p.isTemplate) :
    (∃ args, composeArguments caller (some p) = .ok args) ↔
      ∀ place i, p.PlaceholderAt place i → i < caller.length := by
  rw [← Payload.exists_fill_iff ordered, composeArguments_of_template template]
  simp only [map_eq_ok_iff]
  constructor
  · rintro ⟨args, q, filled, -⟩
    exact ⟨q, filled⟩
  · rintro ⟨q, filled⟩
    exact ⟨q.spread, q, filled, rfl⟩

/-- The arguments of a command are those of its caller if the rule has no payload, and those of the
caller before the payload if the payload holds no placeholder.  A template replaces them: it
succeeds if an argument is given for each placeholder, with the one payload that fills it, and else
names the first placeholder without an argument. -/
theorem composeArguments_exact (caller : List Payload) (p : Payload) (ordered : p.Ordered) :
    composeArguments caller none = .ok caller ∧
      ((∀ place i, ¬ p.PlaceholderAt place i) →
        composeArguments caller (some p) = .ok (caller ++ p.spread)) ∧
      ((∃ place i, p.PlaceholderAt place i) →
        ((∃ args, composeArguments caller (some p) = .ok args) ↔
          ∀ place i, p.PlaceholderAt place i → i < caller.length) ∧
        (∀ args, composeArguments caller (some p) = .ok args ↔
          ∃ q, p.Fills caller q ∧ args = q.spread) ∧
        ∀ e, composeArguments caller (some p) = .error e →
          e.given = caller.length ∧ ∃ place, p.FirstMissing caller place e.index) := by
  refine ⟨rfl, ?_, ?_⟩
  · intro unmarked
    have plain : ¬ p.isTemplate := by
      intro template
      obtain ⟨place, i, stands⟩ := (Payload.isTemplate_iff ordered).mp template
      exact unmarked place i stands
    exact composeArguments_of_plain plain
  · intro marked
    have template := (Payload.isTemplate_iff ordered).mpr marked
    refine ⟨exists_composeArguments_iff ordered template, ?_, ?_⟩
    · intro args
      rw [composeArguments_of_template template]
      simp only [map_eq_ok_iff, Payload.fill_eq_ok_iff ordered, eq_comm (a := args)]
    · intro e failed
      rw [composeArguments_of_template template] at failed
      exact Payload.firstMissing_of_fill_error ordered (map_eq_error_iff.mp failed)

/-- An argument that looks like a placeholder stays as it is, and names count for nothing. -/
theorem composeArguments_exact_nested :
    let p := Payload.record [("$\x7b7\x7d", .text "$\x7b0\x7d"),
      ("names", .list [.text "$\x7b1\x7d", .text "x"])]
    p.Ordered ∧
      composeArguments [.text "$\x7b1\x7d", .whole 42] (some p) =
        .ok [.record [("$\x7b7\x7d", .text "$\x7b1\x7d"), ("names", .list [.whole 42, .text "x"])]] ∧
      composeArguments [.null] (some p) = .error ⟨1, 1⟩ ∧
      ∃ place, p.FirstMissing [.null] place 1 := by
  intro p
  have ordered : p.Ordered := by
    have leaf (t : String) : (Payload.text t).Ordered := .of_leaf (fun _ => rfl) nofun
    have ascending : "$\x7b7\x7d" < "names" := by decide
    refine Payload.ordered_record (List.pairwise_pair.mpr ascending) ?_
    simp [leaf, Payload.ordered_list]
  have failed : composeArguments [.null] (some p) = .error ⟨1, 1⟩ := by rfl
  have template : ∃ place i, p.PlaceholderAt place i :=
    ⟨[.field "$\x7b7\x7d"], 0, "0", rfl, by decide⟩
  exact ⟨ordered, rfl, failed,
    (((composeArguments_exact [.null] p ordered).2.2 template).2.2 ⟨1, 1⟩ failed).2⟩

end Shortcuts
