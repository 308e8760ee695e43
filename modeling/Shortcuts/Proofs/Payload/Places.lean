import Shortcuts.Yaml.Field
/-!
# Places in a payload

A place is reached from the root of a payload step by step, each step an item of a list or a field
of a record.  A payload is determined by what it has at its places (`eq_of_children`), and a fact
about all payloads follows once it passes from the children of a payload to the payload itself
(`induction_on_children`): lists and records need no induction of their own.

The fields of a record count as they do for a reader of the data, by their names.  So a field can be
reached only if its name is not repeated; `Ordered` says so, and every payload that is read from
a document is ordered.
-/

namespace Shortcuts.Payload

inductive Step
  | item (index : Nat)
  | field (name : String)
  deriving DecidableEq

/-- A step comes before another one out of the same payload: items from left to right, fields in
ascending order of their names. -/
inductive Step.Before : Step → Step → Prop
  | item {i j : Nat} : i < j → Before (item i) (item j)
  | field {a b : String} : a < b → Before (field a) (field b)

/-- The way from the root of a payload to a place in it. -/
abbrev Place := List Step

/-- Places are visited depth first. -/
abbrev Place.Before : Place → Place → Prop := List.Lex Step.Before

def child? : Payload → Step → Option Payload
  | list items, .item i => items[i]?
  | record fields, .field name => fields.lookup name
  | _, _ => none

/-- What stands at a place. -/
def at? (p : Payload) : Place → Option Payload
  | [] => some p
  | s :: place => (p.child? s).bind (·.at? place)

/-- A payload without what is in it: the length of a list and the names of a record are left, and
anything else stays as it is. -/
def shell : Payload → Payload
  | list items => list (items.map fun _ => null)
  | record fields => record (fields.map fun f => (f.1, null))
  | p => p

def IsAscending (fields : List (String × Payload)) : Prop :=
  fields.Pairwise fun f g => f.1 < g.1

/-- All records in a payload have their fields in ascending order of names. -/
def Ordered (p : Payload) : Prop :=
  ∀ place fields, p.at? place = some (record fields) → IsAscending fields

/-! ## Children -/

theorem mem_of_lookup {fields : List (String × Payload)} {name : String} {p : Payload}
    (found : fields.lookup name = some p) : (name, p) ∈ fields := by
  obtain ⟨before, after, rfl, -⟩ := List.lookup_eq_some_iff.mp found
  exact List.mem_append_right before List.mem_cons_self

theorem sizeOf_child? {p q : Payload} {s : Step} (child : p.child? s = some q) :
    sizeOf q < sizeOf p := by
  cases p with
  | list items =>
    cases s with
    | item i =>
      have smaller := List.sizeOf_lt_of_mem (List.mem_of_getElem? child)
      simp only [list.sizeOf_spec]
      omega
    | field name => cases child
  | record fields =>
    cases s with
    | item i => cases child
    | field name =>
      have smaller := List.sizeOf_lt_of_mem (mem_of_lookup child)
      simp only [record.sizeOf_spec, Prod.mk.sizeOf_spec] at smaller ⊢
      omega
  | _ => cases child

theorem induction_on_children {motive : Payload → Prop}
    (step : ∀ p, (∀ s q, p.child? s = some q → motive q) → motive p) (p : Payload) : motive p :=
  step p fun _ q _ => induction_on_children step q
termination_by sizeOf p
decreasing_by exact sizeOf_child? ‹_›

/-- Texts by themselves, and everything else by its children. -/
theorem induction_on_texts {motive : Payload → Prop} (text : ∀ s, motive (text s))
    (other : ∀ p, (∀ s, p ≠ .text s) → (∀ s q, p.child? s = some q → motive q) → motive p)
    (p : Payload) : motive p := by
  induction p using induction_on_children with
  | step p ih =>
    by_cases isText : ∃ s, p = .text s
    · obtain ⟨s, rfl⟩ := isText
      exact text s
    · exact other p (not_exists.mp isText) ih

theorem child?_shell (p : Payload) (s : Step) :
    p.shell.child? s = (p.child? s).map fun _ => null := by
  cases p with
  | list items =>
    cases s with
    | item i => exact List.getElem?_map
    | field name => rfl
  | record fields =>
    cases s with
    | item i => rfl
    | field name =>
      simp only [shell, child?]
      induction fields with
      | nil => rfl
      | cons f fields ih =>
        obtain ⟨k, v⟩ := f
        cases here : name == k with
        | true => simp [List.lookup_cons, here]
        | false => simpa [List.lookup_cons, here] using ih
  | _ => rfl

/-- Payloads with the same shell have children at the same steps. -/
theorem isSome_child?_of_shell {p q : Payload} (same : p.shell = q.shell) (s : Step) :
    (p.child? s).isSome = (q.child? s).isSome := by
  have shells := congrArg (fun r => (r.child? s).isSome) same
  simpa only [child?_shell, Option.isSome_map] using shells

theorem lookup_of_mem {fields : List (String × Payload)} (ascending : IsAscending fields)
    {f : String × Payload} (member : f ∈ fields) : fields.lookup f.1 = some f.2 := by
  obtain ⟨before, after, rfl⟩ := List.append_of_mem member
  rw [List.lookup_eq_some_iff]
  -- no earlier field has this name, for it would have to come before itself
  refine ⟨before, after, rfl, ?_⟩
  intro g earlier
  have less : g.1 < f.1 := (List.pairwise_append.mp ascending).2.2 g earlier f List.mem_cons_self
  simpa using Ne.symm (String.ne_of_lt less)

theorem IsAscending.of_names {fields others : List (String × Payload)}
    (ascending : IsAscending fields) (names : fields.map Prod.fst = others.map Prod.fst) :
    IsAscending others := by
  have sorted : (fields.map Prod.fst).Pairwise (· < ·) := List.pairwise_map.mpr ascending
  rw [names] at sorted
  exact List.pairwise_map.mp sorted

theorem eq_of_lookups {fields others : List (String × Payload)} (ascending : IsAscending fields)
    (names : fields.map Prod.fst = others.map Prod.fst)
    (same : ∀ name, fields.lookup name = others.lookup name) : fields = others := by
  have ascendingOthers := ascending.of_names names
  apply List.ext_getElem
  · simpa using congrArg List.length names
  · intro n inFields inOthers
    have sameName : fields[n].1 = others[n].1 := by
      have names := List.getElem_of_eq names (by simpa using inFields)
      simpa using names
    have left := lookup_of_mem ascending (List.getElem_mem inFields)
    have right := lookup_of_mem ascendingOthers (List.getElem_mem inOthers)
    rw [same, sameName, right, Option.some.injEq] at left
    exact Prod.ext sameName left.symm

theorem names_of_shell {fields others : List (String × Payload)}
    (shells : (record fields).shell = (record others).shell) :
    fields.map Prod.fst = others.map Prod.fst := by
  have names := congrArg (List.map Prod.fst) (record.inj shells)
  rw [List.map_map, List.map_map] at names
  exact names

/-- A payload is determined by its shell and its children. -/
theorem eq_of_children {p q : Payload}
    (ascending : ∀ fields, p = record fields → IsAscending fields) (shells : p.shell = q.shell)
    (children : ∀ s, p.child? s = q.child? s) : p = q := by
  cases p with
  | list items =>
    cases q with
    | list others =>
      have same : items = others := List.ext_getElem? fun n => children (.item n)
      rw [same]
    | _ => simp [shell] at shells
  | record fields =>
    cases q with
    | record others =>
      have same := eq_of_lookups (ascending fields rfl) (names_of_shell shells)
        fun name => children (.field name)
      rw [same]
    | _ => simp [shell] at shells
  | _ => cases q <;> simp_all [shell]

/-! ## Ordered payloads -/

theorem Ordered.ascending {p : Payload} (ordered : p.Ordered) {fields : List (String × Payload)}
    (root : p = record fields) : IsAscending fields :=
  ordered [] fields (congrArg some root)

theorem Ordered.ascending_of_shell {p q : Payload} (ordered : p.Ordered)
    (shells : q.shell = p.shell) {fields : List (String × Payload)} (root : q = record fields) :
    IsAscending fields := by
  subst root
  cases p with
  | record others =>
    exact (ordered.ascending rfl).of_names (names_of_shell shells).symm
  | _ => simp [shell] at shells

theorem Ordered.child {p q : Payload} {s : Step} (ordered : p.Ordered)
    (child : p.child? s = some q) : q.Ordered := by
  intro place fields found
  apply ordered (s :: place) fields
  rw [at?, child, Option.bind_some, found]

theorem Ordered.of_children {p : Payload}
    (ascending : ∀ fields, p = record fields → IsAscending fields)
    (children : ∀ s q, p.child? s = some q → q.Ordered) : p.Ordered := by
  intro place fields found
  cases place with
  | nil => exact ascending fields (Option.some.inj found)
  | cons s place =>
    obtain ⟨q, child, found⟩ := Option.bind_eq_some_iff.mp found
    exact children s q child place fields found

theorem Ordered.of_leaf {p : Payload} (leaf : ∀ s, p.child? s = none)
    (noRecord : ∀ fields, p ≠ record fields) : p.Ordered :=
  .of_children (fun fields root => absurd root (noRecord fields))
    fun s q child => by cases (leaf s).symm.trans child

theorem ordered_list {items : List Payload} (ordered : ∀ p ∈ items, p.Ordered) :
    (list items).Ordered := by
  apply Ordered.of_children
  · intro fields root
    cases root
  · intro s q child
    cases s with
    | item i => exact ordered q (List.mem_of_getElem? child)
    | field name => cases child

theorem ordered_record {fields : List (String × Payload)} (ascending : IsAscending fields)
    (ordered : ∀ f ∈ fields, f.2.Ordered) : (record fields).Ordered := by
  apply Ordered.of_children
  · intro others root
    exact record.inj root ▸ ascending
  · intro s q child
    cases s with
    | item i => cases child
    | field name => exact ordered (name, q) (mem_of_lookup child)

theorem mem_putField {key : String} {value : Payload} {fields : List (String × Payload)}
    {f : String × Payload} (member : f ∈ putField key value fields) :
    f = (key, value) ∨ f ∈ fields := by
  induction fields with
  | nil => simpa [putField] using member
  | cons g fields ih =>
    simp only [putField] at member
    split at member
    next => simpa using member
    next =>
      split at member
      next =>
        rcases List.mem_cons.mp member with here | there
        · exact .inl here
        · exact .inr (List.mem_cons_of_mem g there)
      next =>
        rcases List.mem_cons.mp member with here | there
        · exact .inr (here ▸ List.mem_cons_self)
        · exact (ih there).imp id (List.mem_cons_of_mem g)

theorem isAscending_putField {key : String} {value : Payload} {fields : List (String × Payload)}
    (ascending : IsAscending fields) : IsAscending (putField key value fields) := by
  induction fields with
  | nil => exact List.pairwise_singleton _ _
  | cons g fields ih =>
    obtain ⟨first, rest⟩ := List.pairwise_cons.mp ascending
    simp only [putField]
    split
    next less =>
      refine List.pairwise_cons.mpr ⟨?_, ascending⟩
      intro f member
      rcases List.mem_cons.mp member with rfl | later
      · exact less
      · exact String.lt_trans less (first f later)
    next notLess =>
      split
      next same => exact List.pairwise_cons.mpr ⟨fun f member => same ▸ first f member, rest⟩
      next other =>
        have greater : g.1 < key := by
          refine String.not_le.mp fun atMost => other ?_
          exact String.le_antisymm atMost (String.not_lt.mp notLess)
        refine List.pairwise_cons.mpr ⟨?_, ih rest⟩
        intro f member
        rcases mem_putField member with rfl | later
        · exact greater
        · exact first f later

/-- The record of any list of fields with ordered values is ordered. -/
theorem ordered_ofFields {fields : List (String × Payload)} (ordered : ∀ f ∈ fields, f.2.Ordered) :
    (ofFields fields).Ordered := by
  -- by induction on what is still to be put, over all records that are ordered so far
  have filled (fs : List (String × Payload)) (ascending : IsAscending fs)
      (good : ∀ f ∈ fs, f.2.Ordered) :
      (record (fields.foldl (fun fs f => putField f.1 f.2 fs) fs)).Ordered := by
    induction fields generalizing fs with
    | nil => exact ordered_record ascending good
    | cons f fields ih =>
      apply ih (fun g member => ordered g (List.mem_cons_of_mem f member))
      · exact isAscending_putField ascending
      · intro g member
        rcases mem_putField member with rfl | older
        · exact ordered f List.mem_cons_self
        · exact good g older
  exact filled [] .nil (by simp)

theorem exists_of_mapM_eq_some {α β : Type} {f : α → Option β} {l : List α} {out : List β}
    (all : l.mapM f = some out) {y : β} (member : y ∈ out) : ∃ x ∈ l, f x = some y := by
  induction l generalizing out with
  | nil =>
    cases all
    cases member
  | cons x l ih =>
    simp only [List.mapM_cons, Option.bind_eq_bind, Option.bind_eq_some_iff, Option.pure_def,
      Option.some.injEq] at all
    obtain ⟨z, first, rest, others, rfl⟩ := all
    rcases List.mem_cons.mp member with rfl | member
    · exact ⟨x, List.mem_cons_self, first⟩
    · obtain ⟨w, inRest, found⟩ := ih others member
      exact ⟨w, List.mem_cons_of_mem x inRest, found⟩

theorem ordered_of_scalar {depth : Nat} {tag : Option Yaml.Tag} {t : String} {style : Yaml.Style}
    {p : Payload} (read : (Yaml.Node.scalar tag t style).payload? depth = some p) : p.Ordered := by
  rw [Yaml.Node.payload?.eq_def] at read
  dsimp only at read
  split at read
  next => cases read
  next => cases read
  next =>
    cases read
    exact .of_leaf (fun _ => rfl) nofun
  next =>
    cases read
    exact .of_leaf (fun _ => rfl) nofun
  next =>
    cases read
    exact .of_leaf (fun _ => rfl) nofun
  next x _ =>
    -- a number that is not finite is kept as null
    cases read
    by_cases finite : x.isFinite = true
    · rw [if_pos finite]
      exact .of_leaf (fun _ => rfl) nofun
    · rw [if_neg finite]
      exact .of_leaf (fun _ => rfl) nofun
  next =>
    cases read
    exact .of_leaf (fun _ => rfl) nofun

/-- What a document gives as the data of a command is ordered. -/
theorem ordered_of_payload? {depth : Nat} {n : Yaml.Node} {p : Payload}
    (read : n.payload? depth = some p) : p.Ordered := by
  induction depth generalizing n p with
  | zero =>
    cases n with
    | scalar tag t style => exact ordered_of_scalar read
    | _ => cases read
  | succ depth ih =>
    cases n with
    | scalar tag t style => exact ordered_of_scalar read
    | sequence tag items =>
      simp only [Yaml.Node.payload?, Option.ite_none_right_eq_some] at read
      obtain ⟨out, all, rfl⟩ := Option.map_eq_some_iff.mp read.2
      apply ordered_list
      intro q member
      obtain ⟨item, -, found⟩ := exists_of_mapM_eq_some all member
      exact ih found
    | mapping tag entries =>
      simp only [Yaml.Node.payload?, Option.ite_none_right_eq_some] at read
      obtain ⟨out, all, rfl⟩ := Option.map_eq_some_iff.mp read.2
      apply ordered_ofFields
      intro f member
      obtain ⟨entry, -, found⟩ := exists_of_mapM_eq_some all member
      split at found
      next name value isName isValue =>
        cases found
        exact ih isValue
      next => cases found

end Shortcuts.Payload
