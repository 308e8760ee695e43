import Shortcuts.Proofs.Dispatcher.Unwinding
/-!
# Keyboard and mouse

Key strokes and the mouse share the table, the chord and the steps that decide, and yet neither
disturbs the other: `keyboard_and_mouse_apart` leaves the operations of one device out of a run, and
nothing changes for the other.

What the keyboard needs of a dispatcher is its `keyboardSide`.  A click may drop a chord that has
waited too long, and a check puts the next check off, so of the chord only that counts which a key
that comes now would still find, and not when it is to be checked.  The mouse needs the table and
the drag in progress.
-/

namespace Shortcuts

namespace Operation

/-- Keys that go down and up; a host may also hand key strokes over as patterns. -/
def isKeyboard : Operation → Bool
  | .handle (.keyDown _) _ _ _ | .handle (.keyUp _) _ _ _ => true
  | .handlePattern p _ _ _ => p.first.isStroke
  | _ => false

/-- Clicks and drags, also those handed over as patterns. -/
def isMouse : Operation → Bool
  | .handle (.click _) _ _ _ | .handle (.drag _ _) _ _ _ => true
  | .handlePattern p _ _ _ => !p.first.isStroke
  | _ => false

def isInput (op : Operation) : Bool := op.isKeyboard || op.isMouse

/-- A check on the chord in progress while the host has the focus. -/
def isLivenessCheck : Operation → Bool
  | .tick _ true => true
  | _ => false

theorem plan?_of_not_isInput {op : Operation} (other : op.isInput = false) (d : Dispatcher) :
    d.plan? op = none := by
  cases op with
  | handle input args look now => cases input <;> cases other
  | handlePattern p args look now => simp [isInput, isKeyboard, isMouse] at other
  | _ => rfl

end Operation

/-- A chord in progress, whenever it is checked next. -/
def PendingChord.unscheduled (c : PendingChord) : PendingChord := { c with nextTick := 0 }

theorem react_stroke_congr {t : RuleTable} {timing : ChordTiming} {look : Lookup} {now : Nat}
    {chord chord' : Option PendingChord} (s : Stroke)
    (same : chord.map PendingChord.unscheduled = chord'.map PendingChord.unscheduled) :
    react t timing chord (.stroke s) look now = react t timing chord' (.stroke s) look now := by
  cases chord with
  | none =>
    cases chord' with
    | none => rfl
    | some c' => cases same
  | some c =>
    cases chord' with
    | none => cases same
    | some c' =>
      obtain ⟨first, label, -⟩ := PendingChord.mk.inj (Option.some.inj same)
      simp only [react, Reaction.second, first, label]

theorem plan_react_of_not_stroke {t : RuleTable} {timing timing' : ChordTiming}
    {chord chord' : Option PendingChord} {b : Binding} {look : Lookup} {now now' : Nat}
    (other : b.isStroke = false) :
    (react t timing chord b look now).plan = (react t timing' chord' b look now').plan := by
  rw [react_of_not_stroke other, react_of_not_stroke other, Reaction.first, Reaction.first]
  split
  · rfl
  · rfl
  · rfl
  · rw [if_neg (by simp [other]), if_neg (by simp [other])]

namespace Dispatcher

open Operation (NeverGoesBack Omits)

variable {d e : Dispatcher} {op : Operation} {now : Nat}

/-! ## The chord that waits -/

/-- The chord that a key now would complete, whenever it is checked next. -/
def waiting (d : Dispatcher) (now : Nat) : Option PendingChord :=
  (d.freshChord now).map PendingChord.unscheduled

theorem waiting_of_le {t : Nat} (le : now ≤ t) :
    d.waiting t = (d.waiting now).filter fun c => !c.isExpired t d.timing.timeout := by
  rcases chord : d.chord with _ | c
  · simp [waiting, freshChord, chord]
  · have stays : c.unscheduled.isExpired t d.timing.timeout = c.isExpired t d.timing.timeout := rfl
    cases gone : c.isExpired now d.timing.timeout with
    | true =>
      -- what has waited too long by now has waited too long later
      have later : c.isExpired t d.timing.timeout = true := by
        simp only [PendingChord.isExpired, decide_eq_true_eq] at gone ⊢
        omega
      simp [waiting, freshChord, chord, Option.filter, gone, later]
    | false =>
      cases later : c.isExpired t d.timing.timeout <;>
        simp [waiting, freshChord, chord, gone, later, stays, Option.filter]

theorem waiting_move_of_silent (silent : d.Silent op) (goesOn : op.dropsChord = false) :
    (d.move op).waiting (op.clock now) = d.waiting (op.clock now) := by
  rw [waiting, waiting, move_eq, freshChord, freshChord]
  dsimp only
  obtain same | ⟨t, time, same⟩ := chordAfter_of_silent silent goesOn
  · rw [same]
  · rw [Operation.clock, time, Option.getD_some]
    rcases chord : d.chord with _ | c
    · obtain same | same := same <;> simp [same, freshChord, chord]
    · have stays : (c.postpone t d.timing).isExpired t d.timing.timeout =
          c.isExpired t d.timing.timeout := rfl
      have forgets : (c.postpone t d.timing).unscheduled = c.unscheduled := rfl
      obtain same | same := same <;> cases gone : c.isExpired t d.timing.timeout <;>
        simp [same, freshChord, chord, Option.filter, gone, stays, forgets]

/-! ## The keyboard's side -/

/-- What the keyboard needs of a dispatcher. -/
@[ext] structure KeyboardSide where
  table : RuleTable
  timing : ChordTiming
  waiting : Option PendingChord
  consumed : List (KeyIdentity × Bool)
  held : List KeyIdentity
  tracksRelease : Bool

def keyboardSide (now : Nat) (d : Dispatcher) : KeyboardSide :=
  ⟨d.table, d.timing, d.waiting now, d.consumed, d.held, d.tracksRelease⟩

theorem isRepeated_congr (held : d.held = e.held) (k : KeyEvent) :
    d.isRepeated k = e.isRepeated k := by
  rw [isRepeated, isRepeated, held]

theorem offer?_congr (held : d.held = e.held) (op : Operation) : d.offer? op = e.offer? op := by
  cases op with
  | handle input args look now =>
    cases input with
    | keyDown k => simp only [offer?, isRepeated_congr held]
    | _ => rfl
  | handlePattern p args look now => cases p <;> rfl
  | _ => rfl

theorem reaction_congr (alike : d.keyboardSide now = e.keyboardSide now) (s : Stroke)
    (look : Lookup) : d.reaction (.stroke s) look now = e.reaction (.stroke s) look now := by
  have table : d.table = e.table := congrArg KeyboardSide.table alike
  have timing : d.timing = e.timing := congrArg KeyboardSide.timing alike
  have waiting : d.waiting now = e.waiting now := congrArg KeyboardSide.waiting alike
  rw [reaction, reaction, table, timing]
  exact react_stroke_congr s waiting

theorem waiting_move_congr
    (alike : d.keyboardSide (op.clock now) = e.keyboardSide (op.clock now)) :
    (d.move op).waiting (op.clock now) = (e.move op).waiting (op.clock now) := by
  have held : d.held = e.held := congrArg KeyboardSide.held alike
  have timing : d.timing = e.timing := congrArg KeyboardSide.timing alike
  have moved (d : Dispatcher) : (d.move op).waiting (op.clock now) =
      ((d.chordAfter op).filter fun c => !c.isExpired (op.clock now) d.timing.timeout).map
        PendingChord.unscheduled := by
    rw [waiting, freshChord, move_eq]
  by_cases struck : ∃ s look t, d.offer? op = some (.stroke s, look, t)
  · -- both sides react to the key, and in the same way
    obtain ⟨s, look, t, offered⟩ := struck
    rw [Operation.clock_of_offer now offered] at alike
    rw [moved, moved, chordAfter_of_offer offered,
      chordAfter_of_offer ((offer?_congr held op).symm.trans offered), timing,
      reaction_congr alike s look]
  · have silent : d.Silent op := fun s look t offered => struck ⟨s, look, t, offered⟩
    have silent' : e.Silent op := fun s look t offered =>
      silent s look t ((offer?_congr held op).trans offered)
    cases drops : op.dropsChord with
    | true =>
      rw [moved, moved, chordAfter_of_dropsChord drops, chordAfter_of_dropsChord drops]
      rfl
    | false =>
      rw [waiting_move_of_silent silent drops, waiting_move_of_silent silent' drops]
      exact congrArg KeyboardSide.waiting alike

theorem consumedAfter_congr
    (alike : d.keyboardSide (op.clock now) = e.keyboardSide (op.clock now)) :
    d.consumedAfter op = e.consumedAfter op := by
  have held : d.held = e.held := congrArg KeyboardSide.held alike
  have consumed : d.consumed = e.consumed := congrArg KeyboardSide.consumed alike
  cases op with
  | handle input args look t =>
    cases input with
    | keyDown k =>
      have alike : d.keyboardSide t = e.keyboardSide t := alike
      simp only [consumedAfter, isRepeated_congr held, consumed, reaction_congr alike]
    | _ => exact consumed
  | reset => rfl
  | setTable t => rfl
  | _ => exact consumed

theorem heldAfter_congr (held : d.held = e.held) (tracks : d.tracksRelease = e.tracksRelease)
    (op : Operation) : d.heldAfter op = e.heldAfter op := by
  cases op with
  | handle input args look t =>
    cases input with
    | keyDown k => simp only [heldAfter, isRepeated_congr held, held, tracks]
    | keyUp k => simp only [heldAfter, held]
    | _ => exact held
  | tick t hasFocus =>
    cases hasFocus with
    | true => exact held
    | false => rfl
  | reset => rfl
  | setTable t => rfl
  | _ => exact held

theorem tableAfter_congr (table : d.table = e.table) (op : Operation) :
    d.tableAfter op = e.tableAfter op := by
  cases op <;> first | rfl | exact table

theorem keyboardSide_move (d : Dispatcher) (op : Operation) (now : Nat) :
    (d.move op).keyboardSide now =
      ⟨d.tableAfter op, d.timing, (d.move op).waiting now, d.consumedAfter op, d.heldAfter op,
        d.tracksRelease⟩ := by
  rw [keyboardSide, move_eq]

theorem keyboardSide_move_congr
    (alike : d.keyboardSide (op.clock now) = e.keyboardSide (op.clock now)) :
    (d.move op).keyboardSide (op.clock now) = (e.move op).keyboardSide (op.clock now) := by
  have table : d.table = e.table := congrArg KeyboardSide.table alike
  have timing : d.timing = e.timing := congrArg KeyboardSide.timing alike
  have held : d.held = e.held := congrArg KeyboardSide.held alike
  have tracks : d.tracksRelease = e.tracksRelease := congrArg KeyboardSide.tracksRelease alike
  rw [keyboardSide_move, keyboardSide_move, tableAfter_congr table, timing,
    waiting_move_congr alike, consumedAfter_congr alike, heldAfter_congr held tracks, tracks]

/-- The mouse and the checks on a chord pass the keyboard by; the chord is another matter. -/
theorem frame_of_spared (spared : op.isMouse || op.isLivenessCheck) :
    d.Silent op ∧ op.dropsChord = false ∧ d.tableAfter op = d.table ∧
      d.consumedAfter op = d.consumed ∧ d.heldAfter op = d.held := by
  cases op with
  | handle input args look t =>
    cases input with
    | keyDown k => cases spared
    | keyUp k => cases spared
    | click c => exact ⟨fun _ _ _ => nofun, rfl, rfl, rfl, rfl⟩
    | drag phase g => exact ⟨fun _ _ _ => nofun, rfl, rfl, rfl, rfl⟩
  | handlePattern p args look t =>
    cases p with
    | single b =>
      cases b with
      | stroke s => cases spared
      | click c => exact ⟨fun _ _ _ => nofun, rfl, rfl, rfl, rfl⟩
      | drag g => exact ⟨fun _ _ _ => nofun, rfl, rfl, rfl, rfl⟩
    | chord s s' => cases spared
  | tick t hasFocus =>
    cases hasFocus with
    | true => exact ⟨fun _ _ _ => nofun, rfl, rfl, rfl, rfl⟩
    | false => cases spared
  | reset => cases spared
  | setTable t => cases spared
  | takeNotices => cases spared

theorem keyboardSide_move_of_spared (spared : op.isMouse || op.isLivenessCheck) :
    (d.move op).keyboardSide (op.clock now) = d.keyboardSide (op.clock now) := by
  obtain ⟨silent, goesOn, table, consumed, held⟩ := frame_of_spared (d := d) spared
  rw [keyboardSide_move, waiting_move_of_silent silent goesOn, table, consumed, held]
  rfl

theorem plan?_keyboard_congr (keyboard : op.isKeyboard)
    (alike : d.keyboardSide (op.clock now) = e.keyboardSide (op.clock now)) :
    d.plan? op = e.plan? op := by
  have held : d.held = e.held := congrArg KeyboardSide.held alike
  have consumed : d.consumed = e.consumed := congrArg KeyboardSide.consumed alike
  cases offered : d.offer? op with
  | some x =>
    obtain ⟨b, look, t⟩ := x
    have offered' : e.offer? op = some (b, look, t) := (offer?_congr held op).symm.trans offered
    have stroke : ∃ s, b = .stroke s := by
      obtain ⟨k, args, rfl, -, rfl⟩ | ⟨c, args, rfl, rfl⟩ | ⟨args, rfl⟩ := offer?_eq_some.mp offered
      · exact ⟨_, rfl⟩
      · cases keyboard
      · cases b with
        | stroke s => exact ⟨s, rfl⟩
        | click c => cases keyboard
        | drag g => cases keyboard
    obtain ⟨s, rfl⟩ := stroke
    rw [Operation.clock_of_offer now offered] at alike
    rw [plan?_of_offer offered, plan?_of_offer offered', reaction_congr alike]
  | none =>
    cases op with
    | handle input args look t =>
      cases input with
      | keyDown k =>
        have repeated : d.isRepeated k := by simpa [offer?] using offered
        have repeated' : e.isRepeated k := isRepeated_congr held k ▸ repeated
        simp only [plan?, planInput, planPress, repeated, repeated', wasConsumed, consumed, if_true]
      | keyUp k => rfl
      | click c => cases keyboard
      | drag phase g => cases keyboard
    | handlePattern p args look t =>
      cases p with
      | single b => cases offered
      | chord s s' => rfl
    | tick t hasFocus => cases keyboard
    | reset => cases keyboard
    | setTable t => cases keyboard
    | takeNotices => cases keyboard

/-- The keyboard is answered alike without the mouse and without checks on a chord. -/
theorem unwinding_keyboard :
    Unwinding (fun op => op.isMouse || op.isLivenessCheck) Operation.isKeyboard keyboardSide where
  later {now t d e} le alike := by
    obtain ⟨table, timing, waiting, consumed, held, tracks⟩ := KeyboardSide.ext_iff.mp alike
    simp only [keyboardSide] at table timing waiting consumed held tracks
    simp only [keyboardSide, table, timing, consumed, held, tracks, waiting_of_le le, waiting]
  notices now d ns := rfl
  hides now d spared := keyboardSide_move_of_spared spared
  keeps op alike := keyboardSide_move_congr alike
  shows keyboard alike := plan?_keyboard_congr keyboard alike
  answers {op} d keyboard := by
    cases op <;> first | rfl | cases keyboard
  apart {op} spared := by
    cases op with
    | handle input args look t => cases input <;> first | rfl | cases spared
    | handlePattern p args look t =>
      simpa [Operation.isKeyboard, Operation.isMouse, Operation.isLivenessCheck] using spared
    | _ => rfl

/-! ## The mouse's side -/

/-- What the mouse needs of a dispatcher. -/
structure MouseSide where
  table : RuleTable
  gesture : Option PendingGesture

def mouseSide (d : Dispatcher) : MouseSide := ⟨d.table, d.gesture⟩

theorem gestureAfter_congr (alike : d.mouseSide = e.mouseSide) (op : Operation) :
    d.gestureAfter op = e.gestureAfter op := by
  have table : d.table = e.table := congrArg MouseSide.table alike
  have gesture : d.gesture = e.gesture := congrArg MouseSide.gesture alike
  cases op with
  | handle input args look t =>
    cases input with
    | drag phase g =>
      cases phase with
      | start => simp only [gestureAfter, table]
      | finish => rfl
      | cancel => rfl
    | _ => exact gesture
  | reset => rfl
  | setTable t => rfl
  | _ => exact gesture

theorem mouseSide_move (d : Dispatcher) (op : Operation) :
    (d.move op).mouseSide = ⟨d.tableAfter op, d.gestureAfter op⟩ := by
  rw [mouseSide, move_eq]

theorem plan?_mouse_congr (mouse : op.isMouse) (alike : d.mouseSide = e.mouseSide) :
    d.plan? op = e.plan? op := by
  have table : d.table = e.table := congrArg MouseSide.table alike
  have gesture : d.gesture = e.gesture := congrArg MouseSide.gesture alike
  have offers {b : Binding} {look : Lookup} {t : Nat} (other : b.isStroke = false)
      (offered : ∀ d : Dispatcher, d.offer? op = some (b, look, t)) :
      d.plan? op = e.plan? op := by
    rw [plan?_of_offer (offered d), plan?_of_offer (offered e), reaction, reaction, table,
      plan_react_of_not_stroke other]
  cases op with
  | handle input args look t =>
    cases input with
    | keyDown k => cases mouse
    | keyUp k => cases mouse
    | click c => exact offers (b := .click c) rfl fun _ => rfl
    | drag phase g =>
      cases phase with
      | start => rw [plan?_dragStart, plan?_dragStart, table]
      | finish => simp only [plan?, planInput, planDrop_eq, gesture]
      | cancel => rfl
  | handlePattern p args look t =>
    cases p with
    | single b =>
      have other : b.isStroke = false := by simpa [Operation.isMouse, Pattern.first] using mouse
      exact offers other fun _ => rfl
    | chord s s' => rfl
  | tick t hasFocus => cases mouse
  | reset => cases mouse
  | setTable t => cases mouse
  | takeNotices => cases mouse

/-- The mouse is answered alike without the keyboard and without checks on a chord. -/
theorem unwinding_mouse :
    Unwinding (fun op => op.isKeyboard || op.isLivenessCheck) Operation.isMouse
      (fun _ => mouseSide) where
  later _ alike := alike
  notices _ d ns := rfl
  hides {op} now d spared := by
    rw [mouseSide_move]
    cases op with
    | handle input args look t => cases input <;> first | rfl | cases spared
    | handlePattern p args look t => rfl
    | tick t hasFocus => rfl
    | reset => cases spared
    | setTable t => cases spared
    | takeNotices => rfl
  keeps {now d e} op alike := by
    have table : d.table = e.table := congrArg MouseSide.table alike
    rw [mouseSide_move, mouseSide_move, tableAfter_congr table, gestureAfter_congr alike]
  shows mouse alike := plan?_mouse_congr mouse alike
  answers {op} d mouse := by
    cases op <;> first | rfl | cases mouse
  apart {op} spared := by
    cases op with
    | handle input args look t => cases input <;> first | rfl | cases spared
    | handlePattern p args look t =>
      simpa [Operation.isKeyboard, Operation.isMouse, Operation.isLivenessCheck] using spared
    | _ => rfl

/-! ## Both sides -/

/-- Inputs are answered alike without checks on a chord. -/
theorem unwinding_input :
    Unwinding Operation.isLivenessCheck Operation.isInput
      (fun now d => (d.keyboardSide now, d.mouseSide)) := by
  have keyboard : Unwinding Operation.isLivenessCheck Operation.isKeyboard keyboardSide :=
    unwinding_keyboard.weaken fun op check => by rw [check, Bool.or_true]
  have mouse : Unwinding Operation.isLivenessCheck Operation.isMouse (fun _ => mouseSide) :=
    unwinding_mouse.weaken fun op check => by rw [check, Bool.or_true]
  exact keyboard.both mouse

/-! ## Runs -/

/-- Whichever operations of one device are left out of a run, nothing changes for the other: neither
its answers nor the calls that it makes. -/
theorem keyboard_and_mouse_apart {σ : Type} {exec : Executor σ} (steady : exec.IsSteady)
    {ops keys mouse : List Operation} (forward : NeverGoesBack ops)
    (withoutMouse : Omits Operation.isMouse ops keys)
    (withoutKeyboard : Omits Operation.isKeyboard ops mouse) (s : σ) (d : Dispatcher) :
    responses Operation.isKeyboard exec s d keys = responses Operation.isKeyboard exec s d ops ∧
      responses Operation.isMouse exec s d mouse = responses Operation.isMouse exec s d ops := by
  have keyboard : Unwinding Operation.isMouse Operation.isKeyboard keyboardSide :=
    unwinding_keyboard.weaken fun op mouse => by rw [mouse, Bool.true_or]
  have pointer : Unwinding Operation.isKeyboard Operation.isMouse (fun _ => mouseSide) :=
    unwinding_mouse.weaken fun op keyboard => by rw [keyboard, Bool.true_or]
  exact ⟨keyboard.responses_eq_of_omits steady withoutMouse forward s d,
    pointer.responses_eq_of_omits steady withoutKeyboard forward s d⟩

/-- A click that drops a chord which has waited too long changes nothing for the next key. -/
theorem keyboard_and_mouse_apart_stale :
    let k := Stroke.ofKey (.char 'k') .onlyCtrl
    let press := fun now =>
      Operation.handle (.keyDown (.press (.char 'k') .onlyCtrl)) [] Context.empty.get? now
    let click := Operation.handle (.click (.ofCount .empty .left 1)) [] Context.empty.get? 6000
    let ops := [press 0, click, press 9000]
    let exec : Executor Unit := fun s _ _ => (.ok (), s)
    let d := new (RuleTable.ofRules [.run (.chord k k) "saveAll"]) .standard false
    responses Operation.isKeyboard exec () d (ops.filter fun op => !op.isMouse) =
        responses Operation.isKeyboard exec () d ops ∧
      responses Operation.isMouse exec () d (ops.filter fun op => !op.isKeyboard) =
        responses Operation.isMouse exec () d ops := by
  intro k press click ops exec d
  have steady : exec.IsSteady := fun _ _ _ => rfl
  have forward : NeverGoesBack ops := by
    have times : ops.filterMap Operation.now? = [0, 6000, 9000] := rfl
    rw [NeverGoesBack, times]
    decide
  exact keyboard_and_mouse_apart steady forward (Operation.omits_filter Operation.isMouse ops)
    (Operation.omits_filter Operation.isKeyboard ops) () d

end Dispatcher

end Shortcuts
