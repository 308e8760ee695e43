import Shortcuts.RuleIndex
/-!
# Rule tables

A table keeps rules in the order in which they were added and answers which of them decides an
input. Later rules win. Two indexes, by the first part and by the command, save walking over all
rules. The lemmas at the end say what a table answers in terms of its list of rules alone.
-/

namespace Shortcuts

structure Match where
  command : String
  payload : Option Payload
  bubbles : Bool

inductive Resolution
  /-- The input opens a chord. -/
  | enterChord
  | execute (m : Match)
  /-- The deciding rule removes the binding. -/
  | removed

def Rule.resolution (r : Rule) : Resolution :=
  match r.command with
  | some command => .execute ⟨command, r.payload, r.bubbles⟩
  | none => .removed

/-- Rules in the order of their addition, indexed by their first part and by their command. -/
structure RuleTable where
  rules : Array Rule
  byFirst : RuleIndex (fun r => some r.firstPart) rules
  byCommand : RuleIndex Rule.command rules

namespace RuleTable

def empty : RuleTable := ⟨#[], .empty _, .empty _⟩

def add (t : RuleTable) (r : Rule) : RuleTable :=
  ⟨t.rules.push r, t.byFirst.push r, t.byCommand.push r⟩

/-- The table of a list of rules, later ones winning. -/
def ofRules (rules : List Rule) : RuleTable := rules.foldl add empty

def size (t : RuleTable) : Nat := t.rules.size

/-- The rules whose first part has an encoding, from new to old. -/
def startingWith (t : RuleTable) (part : String) : List Rule := t.byFirst.lookup part

/-- Of rules from new to old, those that count in a context; a chord that a newer removal takes
away does not count, and neither does the removal itself, which only acts on the second key.
`removed` holds the second parts taken away so far. -/
def liveFrom (look : Lookup) (removed : List String) : List Rule → List Rule
  | [] => []
  | r :: rs =>
    if r.applies look then
      match r.secondPart? with
      | none => r :: liveFrom look removed rs
      | some part =>
        -- a removal hides the older rules for its second key, never a rule without one
        if r.isRemoval then liveFrom look (part :: removed) rs
        else if removed.contains part then liveFrom look removed rs
        else r :: liveFrom look removed rs
    else liveFrom look removed rs

/-- Of rules from new to old, those that compete for a first key in a context. -/
def live (look : Lookup) (rs : List Rule) : List Rule := liveFrom look [] rs

/-- What a table says about an input on its own: the newest competing rule decides. -/
def resolveFirst (t : RuleTable) (look : Lookup) (part : String) : Option Resolution :=
  match live look (t.startingWith part) with
  | [] => none
  | r :: rs =>
    if r.isChord || (r.waits && (r :: rs).any Rule.isChord) then some .enterChord
    else some r.resolution

/-- What a table says about a second key: the newest rule for that chord decides. -/
def resolveSecond (t : RuleTable) (look : Lookup) (first part : String) : Option Resolution :=
  ((t.startingWith first).find? fun r => r.secondPart? == some part && r.applies look).map
    Rule.resolution

/-- What a table says about an input, on its own or as the second key of a chord. -/
def resolve (t : RuleTable) (look : Lookup) (first : Option String) (part : String) :
    Option Resolution :=
  match first with
  | none => t.resolveFirst look part
  | some first => t.resolveSecond look first part

/-- The rules that run a command, in the order of their addition. -/
def bindingsFor (t : RuleTable) (command : String) : List Rule :=
  (t.byCommand.lookup command).reverse

def preferredFor? (t : RuleTable) (command : String) : Option Rule :=
  (t.byCommand.lookup command).head?

def labelFor? (t : RuleTable) (command : String) : Option String :=
  (t.preferredFor? command).map Rule.label

/-- The preferred rule is the last of all that run the command. -/
theorem preferredFor?_eq (t : RuleTable) (command : String) :
    t.preferredFor? command = (t.bindingsFor command).getLast? := by
  simp [preferredFor?, bindingsFor]

theorem toList_add (t : RuleTable) (r : Rule) :
    (t.add r).rules.toList = t.rules.toList ++ [r] := by
  simp [add]

theorem toList_foldl_add (rules : List Rule) (t : RuleTable) :
    (rules.foldl add t).rules.toList = t.rules.toList ++ rules := by
  induction rules generalizing t with
  | nil => simp
  | cons r rules ih => simp [ih, toList_add]

theorem toList_ofRules (rules : List Rule) : (ofRules rules).rules.toList = rules := by
  simp [ofRules, toList_foldl_add, empty]

/-- The index by first part agrees with a walk over all rules from the newest. -/
theorem startingWith_eq (t : RuleTable) (part : String) :
    t.startingWith part = (t.rules.toList.filter (·.firstPart == part)).reverse := by
  simp [startingWith, RuleIndex.lookup_eq]

theorem bindingsFor_eq (t : RuleTable) (command : String) :
    t.bindingsFor command = t.rules.toList.filter (·.command == some command) := by
  rw [bindingsFor, RuleIndex.lookup_eq, List.reverse_reverse]

end RuleTable

end Shortcuts
