import Std.Data.HashMap
import Shortcuts.Rule
/-!
# Indexes of rules

An index of an array of rules answers which rules have a text as their key without a walk over all
of them: it keeps, for each key, the places of its rules. That these are the right places is part
of the type, so `lookup_eq` holds of every index, however it came about.
-/

namespace Shortcuts

/-- The places in an array of the rules of a kind, from the last to the first. -/
def places (ofKind : Rule → Bool) (rules : Array Rule) : List Nat :=
  ((List.range rules.size).filter fun i => rules[i]?.any ofKind).reverse

/-- A rule at the end of an array adds the last place, if it is of the kind. -/
theorem places_push (ofKind : Rule → Bool) (rules : Array Rule) (r : Rule) :
    places ofKind (rules.push r) =
      if ofKind r then rules.size :: places ofKind rules else places ofKind rules := by
  have older : (List.range rules.size).filter (fun i => (rules.push r)[i]?.any ofKind) =
      (List.range rules.size).filter fun i => rules[i]?.any ofKind := by
    apply List.filter_congr
    intro i hi
    rw [Array.getElem?_push_lt (List.mem_range.mp hi), Array.getElem?_eq_getElem]
  simp only [places, Array.size_push, List.range_succ, List.filter_append, older]
  by_cases h : ofKind r <;> simp [h]

/-- Reading a list place by place gives its members of a kind in their order. -/
theorem filterMap_range_filter (ofKind : Rule → Bool) (rules : List Rule) :
    (List.range rules.length).filterMap (fun i => rules[i]?.filter ofKind) =
      rules.filter ofKind := by
  induction rules with
  | nil => rfl
  | cons r rules ih =>
    rw [List.length_cons, List.range_succ_eq_map, List.filterMap_cons, List.filterMap_map]
    by_cases h : ofKind r
    · simpa [h, Option.filter, Function.comp_def] using ih
    · simpa [h, Option.filter, Function.comp_def] using ih

/-- The rules at the places of a kind are those of the kind, from the last to the first. -/
theorem filterMap_places (ofKind : Rule → Bool) (rules : Array Rule) :
    (places ofKind rules).filterMap (rules[·]?) = (rules.toList.filter ofKind).reverse := by
  rw [places, List.filterMap_reverse, List.filterMap_filter, ← filterMap_range_filter]
  have atPlace (i : Nat) : (if rules[i]?.any ofKind then rules[i]? else none) =
      rules.toList[i]?.filter ofKind := by
    cases h : rules[i]? with
    | none => simp [Option.filter, h]
    | some r => simp [Option.filter, h]
  simp only [atPlace, Array.length_toList]

/-- For each key, the places in an array of the rules that have it, from the newest to the oldest.
Rules without a key are in no bucket. -/
structure RuleIndex (key : Rule → Option String) (rules : Array Rule) where
  buckets : Std.HashMap String (List Nat)
  getD_buckets (k : String) : buckets.getD k [] = places (fun r => key r == some k) rules

namespace RuleIndex

variable {key : Rule → Option String} {rules : Array Rule}

def empty (key : Rule → Option String) : RuleIndex key #[] := ⟨∅, fun k => by simp [places]⟩

/-- The buckets after one more rule, whose place comes first in the bucket of its key. -/
def bucketsAfter (ix : RuleIndex key rules) (r : Rule) : Std.HashMap String (List Nat) :=
  match key r with
  | some k => ix.buckets.insert k (rules.size :: ix.buckets.getD k [])
  | none => ix.buckets

theorem getD_bucketsAfter (ix : RuleIndex key rules) (r : Rule) (k : String) :
    (ix.bucketsAfter r).getD k [] =
      if key r == some k then rules.size :: ix.buckets.getD k [] else ix.buckets.getD k [] := by
  cases h : key r with
  | none => simp [bucketsAfter, h]
  | some l =>
    by_cases hl : l = k
    · simp [bucketsAfter, h, hl]
    · simp [bucketsAfter, h, hl, Std.HashMap.getD_insert]

def push (ix : RuleIndex key rules) (r : Rule) : RuleIndex key (rules.push r) where
  buckets := ix.bucketsAfter r
  getD_buckets k := by rw [getD_bucketsAfter, places_push, ix.getD_buckets]

def lookup (ix : RuleIndex key rules) (k : String) : List Rule :=
  (ix.buckets.getD k []).filterMap (rules[·]?)

/-- An index agrees with a walk over all rules from the newest. -/
theorem lookup_eq (ix : RuleIndex key rules) (k : String) :
    ix.lookup k = (rules.toList.filter fun r => key r == some k).reverse := by
  rw [lookup, ix.getD_buckets, filterMap_places]

end RuleIndex

end Shortcuts
