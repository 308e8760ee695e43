import Shortcuts.Proofs.Resolution.Deciding
/-!
# Both ways through a table

A table is asked in two directions: what an input runs, and which rules run a command.  Each
direction has an index of its own, and a removal is in one of them only.  What ties them together
is that both hold exactly the places of their rules (`RuleIndex.exists_rule_of_mem`), so that either
answer is a part of the one list of rules (`lookups_agree`).
-/

namespace Shortcuts

/-- A place in a bucket is a place of the array, and the rule there has the key of the bucket. -/
theorem RuleIndex.exists_rule_of_mem {key : Rule → Option String} {rules : Array Rule}
    (ix : RuleIndex key rules) {k : String} {i : Nat} (member : i ∈ ix.buckets.getD k []) :
    ∃ r, rules[i]? = some r ∧ key r = some k := by
  rw [ix.getD_buckets, places, List.mem_reverse, List.mem_filter] at member
  obtain ⟨r, found, keyed⟩ := (Option.any_eq_true _ _).mp member.2
  exact ⟨r, found, by simpa using keyed⟩

namespace RuleTable

theorem mem_bindingsFor {t : RuleTable} {command : String} {r : Rule} :
    r ∈ t.bindingsFor command ↔ r ∈ t.rules.toList ∧ r.command = some command := by
  simp [bindingsFor_eq]

/-- The rules that run a command are those of the list that do, in their order, and the last of them
is preferred.  No index leads out of the list.  What a table executes is the command of one of
these rules, which applies and is for exactly what was looked up. -/
theorem lookups_agree (rules : List Rule) :
    (∀ command, (ofRules rules).bindingsFor command = rules.filter (·.command == some command) ∧
      (ofRules rules).preferredFor? command =
        (rules.filter (·.command == some command)).getLast? ∧
      ((ofRules rules).preferredFor? command = none ↔
        (ofRules rules).bindingsFor command = []) ∧
      (ofRules rules).labelFor? command =
        (rules.filter (·.command == some command)).getLast?.map fun r => r.pattern.label) ∧
    (∀ k i, i ∈ (ofRules rules).byFirst.buckets.getD k [] ++
        (ofRules rules).byCommand.buckets.getD k [] → i < rules.length) ∧
    ∀ look first part m, (ofRules rules).resolve look first part = some (.execute m) →
      ∃ r ∈ (ofRules rules).bindingsFor m.command, r.applies look ∧ r.payload = m.payload ∧
        r.bubbles = m.bubbles ∧ r.pattern.parts = first.toList ++ [part] := by
  have bindings (command : String) : (ofRules rules).bindingsFor command =
      rules.filter (·.command == some command) := by
    rw [bindingsFor_eq, toList_ofRules]
  have preferred (command : String) : (ofRules rules).preferredFor? command =
      (rules.filter (·.command == some command)).getLast? := by
    rw [preferredFor?_eq, bindings]
  refine ⟨fun command => ⟨bindings command, preferred command, ?_, ?_⟩, fun k i member => ?_, ?_⟩
  · rw [preferred, bindings, List.getLast?_eq_none_iff]
  · rw [labelFor?, preferred]
    rfl
  · have inside {r : Rule} (found : (ofRules rules).rules[i]? = some r) : i < rules.length := by
      obtain ⟨bound, -⟩ := Array.getElem?_eq_some_iff.mp found
      rwa [← Array.length_toList, toList_ofRules] at bound
    obtain first | command := List.mem_append.mp member
    · obtain ⟨r, found, -⟩ := RuleIndex.exists_rule_of_mem _ first
      exact inside found
    · obtain ⟨r, found, -⟩ := RuleIndex.exists_rule_of_mem _ command
      exact inside found
  · intro look first part m executes
    obtain ⟨r, inside, parts, applies, resolution⟩ := exists_rule_of_resolve executes
    obtain ⟨command, payload, bubbles⟩ := Rule.resolution_eq_execute.mp resolution
    exact ⟨r, mem_bindingsFor.mpr ⟨inside, command⟩, applies, payload, bubbles, parts⟩

/-- A chord that was unbound and bound again is found both ways; its first command has a rule left
that no input reaches. -/
theorem lookups_agree_rebound :
    let chord := Pattern.chord (.ofKey (.char 'K') .onlyCtrl) (.ofKey (.char 's') .onlyCtrl)
    let rules := [Rule.run chord "save", .removal chord, .run chord "saveAll"]
    (ofRules rules).resolve (fun _ => none) (some "ctrl+k") "ctrl+s" =
        some (.execute ⟨"saveAll", none, false⟩) ∧
      (∃ r ∈ (ofRules rules).bindingsFor "saveAll", r.pattern.parts = ["ctrl+k", "ctrl+s"]) ∧
      (ofRules rules).labelFor? "save" = some "Ctrl+K Ctrl+S" := by
  intro chord rules
  obtain ⟨inverse, -, forward⟩ := lookups_agree rules
  have executes : (ofRules rules).resolve (fun _ => none) (some "ctrl+k") "ctrl+s" =
      some (.execute ⟨"saveAll", none, false⟩) := by
    rw [resolve, resolveSecond_eq, toList_ofRules]
    rfl
  obtain ⟨r, inside, -, -, -, parts⟩ := forward _ _ _ _ executes
  refine ⟨executes, ⟨r, inside, parts⟩, ?_⟩
  rw [(inverse "save").2.2.2]
  rfl

end RuleTable

end Shortcuts
