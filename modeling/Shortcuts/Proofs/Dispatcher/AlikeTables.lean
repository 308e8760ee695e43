import Shortcuts.Proofs.Dispatcher.Run
import Shortcuts.Proofs.Resolution.Unbinding
/-!
# Dispatchers on alike tables

A dispatcher that is put on an alike table goes through the same states, up to the table, and shows
the same to its host, in any run and with any executor (`observe_onTable`).  One step does not tell
the tables apart: a second key that executes nothing ends its chord in the same way, whatever the
reason.  Hence a chord that was unbound might as well never have been bound (`observe_unbound`).
-/

namespace Shortcuts.Dispatcher

/-- A dispatcher in the same state on another table. -/
def onTable (d : Dispatcher) (u : RuleTable) : Dispatcher := { d with table := u }

def resultOn {α : Type} (u : RuleTable) (x : α × Dispatcher) : α × Dispatcher :=
  (x.1, x.2.onTable u)

def outcomeOn {α β : Type} (u : RuleTable) (x : α × Dispatcher × β) : α × Dispatcher × β :=
  (x.1, x.2.1.onTable u, x.2.2)

variable {σ : Type} {d : Dispatcher} {u : RuleTable}

/-! ## Steps that ask no table -/

theorem leaveChord_onTable (d : Dispatcher) (u : RuleTable) :
    (d.onTable u).leaveChord = d.leaveChord.onTable u := by
  cases h : d.chord <;> simp [leaveChord, onTable, notify, h]

theorem expireChord_onTable (d : Dispatcher) (u : RuleTable) (now : Nat) :
    (d.onTable u).expireChord now = (d.expireChord now).onTable u := by
  unfold expireChord
  rw [leaveChord_onTable]
  show (if d.chord.any (·.isExpired now d.timing.timeout) then _ else _) = _
  split <;> rfl

theorem table_expireChord (d : Dispatcher) (now : Nat) : (d.expireChord now).table = d.table := by
  -- put on the table it has, the dispatcher is itself
  have same := congrArg table (expireChord_onTable d d.table now)
  exact same

theorem reset_onTable (d : Dispatcher) (u : RuleTable) : (d.onTable u).reset = d.reset.onTable u := by
  rw [reset, leaveChord_onTable]
  rfl

theorem tick_onTable (d : Dispatcher) (u : RuleTable) (now : Nat) (hasFocus : Bool) :
    (d.onTable u).tick now hasFocus = resultOn u (d.tick now hasFocus) := by
  obtain ⟨table, timing, chord, gesture, consumed, held, tracks, notices⟩ := d
  cases chord with
  | none => cases hasFocus <;> rfl
  | some c =>
    cases hasFocus with
    | false => rfl
    | true =>
      show (if c.isExpired now timing.timeout then _ else _) =
        resultOn u (if c.isExpired now timing.timeout then _ else _)
      split <;> rfl

/-- What a command is called with, and what becomes of it, does not depend on the table. -/
theorem invoke_onTable (exec : Executor σ) (s : σ) (d : Dispatcher) (u : RuleTable) (m : Match)
    (args : List Payload) :
    (d.onTable u).invoke exec s m args = outcomeOn u (d.invoke exec s m args) := by
  unfold invoke
  cases composeArguments args m.payload with
  | error e => rfl
  | ok args =>
    dsimp only
    rcases exec s m.command args with ⟨_ | _, after⟩ <;> rfl

theorem settle_onTable (exec : Executor σ) (s : σ) (args : List Payload) (x : Plan × Dispatcher) :
    settle exec s args (resultOn u x) = outcomeOn u (settle exec s args x) := by
  obtain ⟨plan, d⟩ := x
  cases plan with
  | answer a => rfl
  | invoke m => exact invoke_onTable exec s d u m args

theorem planDrop_onTable (d : Dispatcher) (u : RuleTable) :
    (d.onTable u).planDrop = resultOn u d.planDrop := by
  obtain ⟨table, timing, chord, gesture, consumed, held, tracks, notices⟩ := d
  cases gesture <;> rfl

/-! ## Steps that ask the table -/

theorem planFirst_onTable (alike : d.table.Alike u) (b : Binding) (look : Lookup) (now : Nat) :
    (d.onTable u).planFirst b look now = resultOn u (d.planFirst b look now) := by
  have same : (d.onTable u).table.resolve look none b.encode =
      d.table.resolve look none b.encode := (alike.first look b.encode).symm
  rw [planFirst, planFirst, same]
  cases d.table.resolve look none b.encode with
  | none => rfl
  | some r =>
    cases r with
    | execute m => rfl
    | removed => rfl
    | enterChord => cases b.isStroke <;> rfl

/-- A second key executes a command or aborts its chord; the table only chooses the command. -/
theorem planSecond_eq (d : Dispatcher) (c : PendingChord) (s : Stroke) (look : Lookup) :
    d.planSecond c s look =
      let ended := { d with chord := none }.notify .chordCleared
      match (d.table.resolve look (some c.first) s.encode).bind Resolution.match? with
      | some m => (.invoke m, ended)
      | none => (.answer .chordAborted, ended.notify (.notACommand c.label s.label)) := by
  have table : ({ d with chord := none }.notify .chordCleared).table = d.table := rfl
  rw [planSecond, table]
  cases d.table.resolve look (some c.first) s.encode with
  | none => rfl
  | some r => cases r <;> rfl

theorem planSecond_onTable (alike : d.table.Alike u) (c : PendingChord) (s : Stroke)
    (look : Lookup) :
    (d.onTable u).planSecond c s look = resultOn u (d.planSecond c s look) := by
  have same : ((d.onTable u).table.resolve look (some c.first) s.encode).bind Resolution.match? =
      (d.table.resolve look (some c.first) s.encode).bind Resolution.match? :=
    (alike.second look c.first s.encode).symm
  rw [planSecond_eq, planSecond_eq, same]
  cases (d.table.resolve look (some c.first) s.encode).bind Resolution.match? <;> rfl

theorem planBinding_onTable (alike : d.table.Alike u) (b : Binding) (look : Lookup) (now : Nat) :
    (d.onTable u).planBinding b look now = resultOn u (d.planBinding b look now) := by
  -- the chord in progress may end first, which leaves the table as it is
  rw [← table_expireChord d now] at alike
  unfold planBinding
  rw [expireChord_onTable]
  generalize d.expireChord now = d at alike
  have sameChord : (d.onTable u).chord = d.chord := rfl
  cases b with
  | stroke s =>
    dsimp only
    rw [sameChord]
    cases d.chord with
    | none => exact planFirst_onTable alike (.stroke s) look now
    | some c => exact planSecond_onTable alike c s look
  | click c => exact planFirst_onTable alike (.click c) look now
  | drag g => exact planFirst_onTable alike (.drag g) look now

theorem planPattern_onTable (alike : d.table.Alike u) (p : Pattern) (look : Lookup) (now : Nat) :
    (d.onTable u).planPattern p look now = resultOn u (d.planPattern p look now) := by
  cases p with
  | single b => exact planBinding_onTable alike b look now
  | chord s t => rfl

theorem beginDrag_onTable (alike : d.table.Alike u) (drag : Drag) (look : Lookup) (now : Nat) :
    (d.onTable u).beginDrag drag look now = resultOn u (d.beginDrag drag look now) := by
  rw [← table_expireChord d now] at alike
  rw [beginDrag, beginDrag, expireChord_onTable]
  generalize d.expireChord now = d at alike
  have same : PendingGesture.begin? (d.onTable u).table look drag =
      PendingGesture.begin? d.table look drag := by
    rw [PendingGesture.begin?, PendingGesture.begin?, alike.first]
    rfl
  rw [same]
  rfl

/-! ## Operations and runs -/

theorem pressKey_onTable (exec : Executor σ) (s : σ) (alike : d.table.Alike u) (e : KeyEvent)
    (args : List Payload) (look : Lookup) (now : Nat) :
    pressKey exec s (d.onTable u) e args look now =
      outcomeOn u (pressKey exec s d e args look now) := by
  unfold pressKey
  rw [planBinding_onTable alike, settle_onTable]
  show (if d.isRepeated e then _ else _) = outcomeOn u (if d.isRepeated e then _ else _)
  split <;> rfl

theorem handle_onTable (exec : Executor σ) (s : σ) (alike : d.table.Alike u) (input : Input)
    (args : List Payload) (look : Lookup) (now : Nat) :
    handle exec s (d.onTable u) input args look now =
      outcomeOn u (handle exec s d input args look now) := by
  cases input with
  | keyDown e => exact pressKey_onTable exec s alike e args look now
  | keyUp e => rfl
  | click c =>
    rw [handle, planBinding_onTable alike, settle_onTable]
    rfl
  | drag phase g =>
    cases phase with
    | start =>
      rw [handle, beginDrag_onTable alike]
      rfl
    | finish =>
      rw [handle, planDrop_onTable, settle_onTable]
      rfl
    | cancel => rfl

theorem handlePattern_onTable (exec : Executor σ) (s : σ) (alike : d.table.Alike u) (p : Pattern)
    (args : List Payload) (look : Lookup) (now : Nat) :
    handlePattern exec s (d.onTable u) p args look now =
      outcomeOn u (handlePattern exec s d p args look now) := by
  rw [handlePattern, planPattern_onTable alike, settle_onTable]
  rfl

/-- One operation has the same outcome on alike tables, and the tables stay alike. -/
theorem perform_onTable (exec : Executor σ) (s : σ) (alike : d.table.Alike u) (op : Operation) :
    ∃ v, perform exec s (d.onTable u) op = outcomeOn v (perform exec s d op) ∧
      (perform exec s d op).2.1.table.Alike v := by
  -- an operation that treats all alike tables the same cannot have changed its own
  have keeps (same : ∀ v, d.table.Alike v →
      perform exec s (d.onTable v) op = outcomeOn v (perform exec s d op)) :
      ∃ v, perform exec s (d.onTable u) op = outcomeOn v (perform exec s d op) ∧
        (perform exec s d op).2.1.table.Alike v := by
    have stays : (perform exec s d op).2.1.table = d.table :=
      congrArg (·.2.1.table) (same d.table (.refl _))
    refine ⟨u, same u alike, ?_⟩
    rw [stays]
    exact alike
  cases op with
  | handle input args look now =>
    apply keeps
    intro v alike
    rw [perform, handle_onTable exec s alike]
    rfl
  | handlePattern p args look now =>
    apply keeps
    intro v alike
    rw [perform, handlePattern_onTable exec s alike]
    rfl
  | tick now hasFocus =>
    apply keeps
    intro v _
    rw [perform, tick_onTable]
    rfl
  | reset =>
    apply keeps
    intro v _
    rw [perform, reset_onTable]
    rfl
  | takeNotices =>
    apply keeps
    intro v _
    rfl
  | setTable t =>
    refine ⟨t, ?_, .refl t⟩
    rw [perform, setTable, reset_onTable]
    rfl

/-- A host that cannot look into a dispatcher cannot tell alike tables apart. -/
theorem observe_onTable (exec : Executor σ) (s : σ) (alike : d.table.Alike u)
    (ops : List Operation) : observe exec s (d.onTable u) ops = observe exec s d ops := by
  induction ops generalizing s d u with
  | nil => rfl
  | cons op ops ih =>
    obtain ⟨v, outcome, still⟩ := perform_onTable exec.recording (s, []) alike op
    rw [observe, observe, outcome]
    exact congrArg _ (ih _ still)

/-- Removing a chord at the end of a list of rules, under no condition, shows in no run of a
dispatcher: it is as if the list had no rule for that chord. -/
theorem observe_unbound (exec : Executor σ) (s : σ) (rules : List Rule) (a b : Stroke)
    (payload : Option Payload) (bubbles waits : Bool) (layer : Layer) (timing : ChordTiming)
    (tracksRelease : Bool) (ops : List Operation) :
    observe exec s (new (.ofRules (rules ++ [⟨.chord a b, none, none, payload, bubbles, waits,
        layer⟩])) timing tracksRelease) ops =
      observe exec s (new (.ofRules (rules.filter fun r => r.pattern != .chord a b)) timing
        tracksRelease) ops := by
  have alike := RuleTable.alike_unbound rules (a := a) (b := b)
    (m := ⟨.chord a b, none, none, payload, bubbles, waits, layer⟩) rfl rfl rfl
  symm
  exact observe_onTable (d := new _ timing tracksRelease) exec s alike ops

end Shortcuts.Dispatcher
