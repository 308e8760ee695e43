import Shortcuts.Proofs.Binding.Names
import Shortcuts.Proofs.Dispatcher.History
/-!
# Keys as they are typed, and as bindings use them

Some hosts report a key as it was typed, others as bindings use it, a small letter for a capital
one and the space bar for a space.  A dispatcher does not tell these hosts apart, nor one that does
now this and now that (`observe_normalized`).

Rules see a key only as part of a stroke, which holds the normal key.  But presses are paired with
releases by another folding of the key as it was reported, `Key.unshifted`, which has a table of
symbols besides.  So what has to be shown is that the two foldings agree
(`Key.unshifted_normalized`), and they do because no character but a shifted symbol itself has one
for its lowercase.
-/

namespace Shortcuts

namespace Key

/-- Shifted symbols have no case. -/
theorem firstLower_shiftedSymbols :
    shiftedSymbols.all fun entry => Text.firstLower entry.1 == entry.1 := by
  decide

theorem bits_shiftedSymbols :
    Text.bits (shiftedSymbols.map (·.1.toNat)) &&& Text.bits (Text.images Text.lowercaseRuns) =
      0 := by
  decide +kernel

theorem lookup_firstLower_eq_none {c : Char} (plain : shiftedSymbols.lookup c = none) :
    shiftedSymbols.lookup (Text.firstLower c) = none := by
  rcases Text.firstLower_cases c with dotted | ⟨-, -, same⟩ | image
  · rw [dotted]
    rfl
  · rw [same]
    exact plain
  · have apart := Text.not_mem_of_bits bits_shiftedSymbols image
    rw [List.lookup_eq_none_iff]
    intro entry mem
    rw [bne_iff_ne]
    intro same
    exact apart (List.mem_map.mpr ⟨entry, mem, congrArg Char.toNat same.symm⟩)

theorem unshifted_normalized (k : Key) : k.normalized.unshifted = k.unshifted := by
  cases k with
  | char c =>
    by_cases blank : c = ' '
    · rw [normalized, if_pos blank, unshifted, unshifted, if_pos blank]
      intro c same
      cases same
    · rw [normalized, if_neg blank]
      cases symbol : shiftedSymbols.lookup c with
      | some base =>
        obtain ⟨before, after, split, -⟩ := List.lookup_eq_some_iff.mp symbol
        have mem : (c, base) ∈ shiftedSymbols := by
          rw [split]
          exact List.mem_append_right before List.mem_cons_self
        have same : Text.firstLower c = c :=
          eq_of_beq (List.all_eq_true.mp firstLower_shiftedSymbols (c, base) mem)
        rw [same]
      | none =>
        have visible : Text.firstLower c ≠ ' ' := fun h => blank (Text.eq_space_of_firstLower h)
        rw [unshifted, unshifted, if_neg visible, if_neg blank, symbol,
          lookup_firstLower_eq_none symbol, Text.firstLower_firstLower]
  | _ => rfl

end Key

namespace KeyEvent

/-- The event with the key that bindings use for its key. -/
def normalized (e : KeyEvent) : KeyEvent := { e with key := e.stroke.key }

theorem stroke_normalized (e : KeyEvent) : e.normalized.stroke = e.stroke := by
  have normal : e.stroke.key.normalized = e.stroke.key := e.stroke.isNormal.normalized_eq
  simp only [stroke, Stroke.ofKey, normalized] at normal ⊢
  simp only [normal]

theorem identity_normalized (e : KeyEvent) : e.normalized.identity = e.identity := by
  have cap : e.stroke.key.unshifted = e.key.unshifted := Key.unshifted_normalized e.key
  unfold identity normalized
  dsimp only
  rw [cap]

end KeyEvent

namespace Operation

/-- The operation with the key that bindings use, if it is a press or a release. -/
def normalized : Operation → Operation
  | .handle (.keyDown e) args look now => .handle (.keyDown e.normalized) args look now
  | .handle (.keyUp e) args look now => .handle (.keyUp e.normalized) args look now
  | op => op

/-- A run in which some keys are reported as bindings use them. -/
inductive Normalizes : List Operation → List Operation → Prop
  | nil : Normalizes [] []
  | keep {ops ops' : List Operation} (op : Operation) :
    Normalizes ops ops' → Normalizes (op :: ops) (op :: ops')
  | fold {ops ops' : List Operation} (op : Operation) :
    Normalizes ops ops' → Normalizes (op :: ops) (op.normalized :: ops')

end Operation

namespace Dispatcher

open Operation (Normalizes)

variable {σ : Type}

theorem pressKey_normalized (exec : Executor σ) (s : σ) (d : Dispatcher) (e : KeyEvent)
    (args : List Payload) (look : Lookup) (now : Nat) :
    pressKey exec s d e.normalized args look now = pressKey exec s d e args look now := by
  have repeated : d.isRepeated e.normalized = d.isRepeated e := by
    rw [isRepeated, isRepeated, e.identity_normalized]
    rfl
  rw [pressKey, pressKey, repeated, e.identity_normalized, e.stroke_normalized]

theorem releaseKey_normalized (d : Dispatcher) (e : KeyEvent) :
    d.releaseKey e.normalized = d.releaseKey e := by
  rw [releaseKey, releaseKey, e.identity_normalized]

/-- One operation has the same outcome, whichever way its key is reported. -/
theorem perform_normalized (exec : Executor σ) (s : σ) (d : Dispatcher) (op : Operation) :
    perform exec s d op.normalized = perform exec s d op := by
  cases op with
  | handle input args look now =>
    cases input with
    | keyDown e =>
      rw [Operation.normalized, perform, perform, handle, handle, pressKey_normalized]
    | keyUp e =>
      rw [Operation.normalized, perform, perform, handle, handle, releaseKey_normalized]
    | click c => rfl
    | drag phase g => rfl
  | _ => rfl

/-- A host that reports some keys as bindings use them sees the same of a dispatcher, and leaves it
in the same state, as a host that reports them as they are typed. -/
theorem observe_normalized (exec : Executor σ) (s : σ) (d : Dispatcher)
    {ops ops' : List Operation} (normalizes : Normalizes ops ops') :
    observe exec s d ops' = observe exec s d ops ∧ run exec s d ops' = run exec s d ops := by
  induction normalizes generalizing s d with
  | nil => exact ⟨rfl, rfl⟩
  | keep op _ ih =>
    obtain ⟨seen, left⟩ := ih (step exec s d op).2 (step exec s d op).1.after
    exact ⟨congrArg (_ :: ·) seen, left⟩
  | fold op _ ih =>
    obtain ⟨seen, left⟩ := ih (step exec s d op).2 (step exec s d op).1.after
    have same := perform_normalized exec.recording (s, []) d op
    rw [observe, run, step, same]
    exact ⟨congrArg (_ :: ·) seen, left⟩

/-- A key goes down as a capital letter with a dot and comes up as the small letter that bindings
use; it is not held any more when it goes down again. -/
theorem observe_normalized_released :
    let event := KeyEvent.press (.char '\u0130') .onlyCtrl
    let down := fun now => Operation.handle (.keyDown event) [] Context.empty.get? now
    let up := fun now => Operation.handle (.keyUp event) [] Context.empty.get? now
    let exec : Executor Unit := fun s _ _ => (.ok (), s)
    let d := new (RuleTable.ofRules [.run (.single (.stroke event.stroke)) "italic"]) .standard true
    observe exec () d [down 0, (up 10).normalized, (down 20).normalized, up 30] =
        observe exec () d [down 0, up 10, down 20, up 30] ∧
      run exec () d [down 0, (up 10).normalized, (down 20).normalized, up 30] =
        run exec () d [down 0, up 10, down 20, up 30] := by
  intro event down up exec d
  exact observe_normalized exec () d
    (.keep (down 0) (.fold (up 10) (.fold (down 20) (.keep (up 30) .nil))))

end Dispatcher

end Shortcuts
