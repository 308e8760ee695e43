import Shortcuts.Proofs.Dispatcher.ChordNotices
/-!
# A host that checks on a chord when it is asked to

Nothing but a check or an input ends a chord that has waited too long, and a check that comes early
only asks for another one.  A host that makes each check at the time for which it was asked is asked
once in every tick after the first key, until the first of these times that is past the timeout
(`polling_ends_chord`).  That is not at once, even if the timeout is over: the chord ends up to one
tick late.  The host's clock is taken to hold all these times.

The checks of such a host are determined by how many there were (`polls_chordAt`): `chordAt k` is the
state after the first `k` of them, and `pollAt k` is the next one.
-/

namespace Shortcuts

/-- A check on the chord in progress: when it was made, how it ended the chord, if it did, and the
dispatcher after it. -/
structure Poll where
  time : Nat
  exit : Option ChordExit
  after : Dispatcher

/-- How many checks a chord needs to be over, from its first key on. -/
def ChordTiming.checks (timing : ChordTiming) : Nat := timing.timeout / timing.tick + 1

namespace ChordTiming

variable {timing : ChordTiming}

/-- A chord is over at the first check that comes after its timeout. -/
theorem lt_checks_iff (ticks : 0 < timing.tick) (n : Nat) :
    n < timing.checks ↔ n * timing.tick ≤ timing.timeout := by
  rw [checks, Nat.lt_succ_iff, Nat.le_div_iff_mul_le ticks]

theorem timeout_lt (ticks : 0 < timing.tick) : timing.timeout < timing.checks * timing.tick := by
  rw [← Nat.not_le, ← lt_checks_iff ticks]
  exact Nat.lt_irrefl _

theorem checks_mul_le : timing.checks * timing.tick ≤ timing.timeout + timing.tick := by
  rw [checks, Nat.succ_mul]
  exact Nat.add_le_add_right (Nat.div_mul_le_self _ _) _

end ChordTiming

namespace Dispatcher

/-- The check for which a dispatcher asks, at the time for which it asks. -/
def poll? (d : Dispatcher) : Option Poll :=
  d.nextWakeup.map fun now =>
    let (exit, after) := d.tick now true
    ⟨now, exit, after⟩

/-- The checks of a host that does nothing else, or the first `n` of them if there are more. -/
def polls : Nat → Dispatcher → List Poll
  | 0, _ => []
  | n + 1, d =>
    match d.poll? with
    | none => []
    | some p => p :: polls n p.after

/-- A dispatcher some checks after a chord was entered. -/
def chordAt (d : Dispatcher) (c : PendingChord) (k : Nat) : Dispatcher :=
  { d with chord := some { c with nextTick := c.enteredAt + (k + 1) * d.timing.tick } }

/-- A dispatcher whose chord is over. -/
def chordOver (d : Dispatcher) : Dispatcher :=
  { d with chord := none, notices := d.notices ++ [.chordCleared] }

/-- The check that follows some others. -/
def pollAt (d : Dispatcher) (c : PendingChord) (k : Nat) : Poll :=
  let time := c.enteredAt + (k + 1) * d.timing.tick
  if k + 1 < d.timing.checks then ⟨time, none, d.chordAt c (k + 1)⟩
  else ⟨time, some .timedOut, d.chordOver⟩

variable {d : Dispatcher} {c : PendingChord}

/-- A dispatcher that answers a first key has just entered its chord. -/
theorem entered_of_chordPending {σ : Type} {exec : Executor σ} {s : σ} {op : Operation}
    (pending : (step exec s d op).1.reply = .answer .chordPending) :
    ∃ first label t, op.now? = some t ∧ (step exec s d op).1.after.chord =
      some (.enter first label t (step exec s d op).1.after.timing) := by
  obtain ⟨b, look, now, offered, plan⟩ := offer?_of_chordPending pending
  obtain ⟨free, stroke, found⟩ := of_react_chordPending plan
  have alone : d.reaction b look now = .first d.table d.timing none b look now := by
    rw [reaction, free]
    cases b <;> rfl
  refine ⟨b.encode, b.label, now, now?_of_offer offered, ?_⟩
  rw [chord_after, timing_after, chordAfter_of_offer offered, alone, Reaction.first, found]
  dsimp only
  rw [if_pos stroke]

theorem chordAt_zero {first label : String} {t : Nat}
    (entered : d.chord = some (.enter first label t d.timing)) :
    d.chordAt (.enter first label t d.timing) 0 = d := by
  rw [chordAt, PendingChord.enter, Nat.zero_add, Nat.one_mul, ← PendingChord.enter, ← entered]

/-- A check that comes before the timeout is put off by one tick; the first one after it ends the
chord. -/
theorem poll?_chordAt (ticks : 0 < d.timing.tick) (k : Nat) :
    (d.chordAt c k).poll? = some (d.pollAt c k) := by
  rw [pollAt]
  by_cases early : k + 1 < d.timing.checks
  · have within : ¬ d.timing.timeout < (k + 1) * d.timing.tick := by
      rw [Nat.not_lt, ← ChordTiming.lt_checks_iff ticks]
      exact early
    have later : (k + 1) * d.timing.tick + d.timing.tick = (k + 1 + 1) * d.timing.tick :=
      (Nat.succ_mul _ _).symm
    simp [poll?, nextWakeup, chordAt, tick, PendingChord.isExpired, PendingChord.postpone, early,
      within, Nat.add_assoc, later]
  · have past : d.timing.timeout < (k + 1) * d.timing.tick := by
      rw [← Nat.not_le, ← ChordTiming.lt_checks_iff ticks]
      exact early
    simp [poll?, nextWakeup, chordAt, chordOver, tick, PendingChord.isExpired, leaveChord, notify,
      early, past]

theorem polls_chordOver (n : Nat) : d.chordOver.polls n = [] := by
  cases n <;> rfl

/-- The checks that follow some others, while the chord is not over yet. -/
theorem polls_chordAt (ticks : 0 < d.timing.tick) {k : Nat} (early : k < d.timing.checks) (n : Nat) :
    (d.chordAt c k).polls n = (List.range' k (min n (d.timing.checks - k))).map (d.pollAt c) := by
  induction n generalizing k with
  | zero => rw [Nat.zero_min, polls, List.range'_zero, List.map_nil]
  | succ n ih =>
    have more : min (n + 1) (d.timing.checks - k) = min n (d.timing.checks - (k + 1)) + 1 := by
      omega
    rw [polls, poll?_chordAt ticks, more, List.range'_succ, List.map_cons]
    refine congrArg (_ :: ·) ?_
    by_cases last : k + 1 < d.timing.checks
    · rw [pollAt, if_pos last]
      exact ih last
    · -- no check follows the one that ends the chord
      have none : d.timing.checks - (k + 1) = 0 := Nat.sub_eq_zero_of_le (Nat.le_of_not_lt last)
      rw [pollAt, if_neg last, none, Nat.min_zero, List.range'_zero, List.map_nil]
      exact polls_chordOver n

section

variable {first label : String} {t : Nat}
  (entered : d.chord = some (.enter first label t d.timing)) (ticks : 0 < d.timing.tick)

include entered ticks

/-- The checks on a chord from its first key on. -/
theorem polls_entered (n : Nat) :
    d.polls n =
      (List.range (min n d.timing.checks)).map (d.pollAt (.enter first label t d.timing)) := by
  have polls := polls_chordAt (c := .enter first label t d.timing) ticks (Nat.succ_pos _) n
  rwa [chordAt_zero entered, Nat.sub_zero, ← List.range_eq_range'] at polls

theorem eq_pollAt_of_polls {n k : Nat} {p : Poll} (found : (d.polls n)[k]? = some p) :
    p = d.pollAt (.enter first label t d.timing) k := by
  rw [polls_entered entered ticks, List.getElem?_map, Option.map_eq_some_iff] at found
  obtain ⟨i, at_k, rfl⟩ := found
  obtain ⟨within, same⟩ := List.getElem?_eq_some_iff.mp at_k
  rw [← same, List.getElem_range]

end

/-- A host that does nothing but to check on a chord when it is asked to is asked once in every tick,
until it finds the chord over; that is after the timeout, and at most one tick after it. -/
theorem polling_ends_chord {first label : String} {t : Nat}
    (entered : d.chord = some (.enter first label t d.timing)) (ticks : 0 < d.timing.tick) :
    let last := d.timing.timeout / d.timing.tick + 1
    (∀ n, (d.polls n).length = min n last) ∧
      (∀ n k p, (d.polls n)[k]? = some p → p.time = t + (k + 1) * d.timing.tick ∧
        (k + 1 < last → p.exit = none ∧ p.after =
          { d with chord := some ⟨first, label, t, t + (k + 2) * d.timing.tick⟩ }) ∧
        (k + 1 = last → p.exit = some .timedOut ∧ p.after.nextWakeup = none ∧ p.after =
          { d with chord := none, notices := d.notices ++ [.chordCleared] })) ∧
      t + d.timing.timeout < t + last * d.timing.tick ∧
      t + last * d.timing.tick ≤ t + d.timing.timeout + d.timing.tick := by
  intro last
  have checks : d.timing.checks = last := rfl
  refine ⟨?_, ?_, ?_, ?_⟩
  · intro n
    rw [polls_entered entered ticks, List.length_map, List.length_range]
    rfl
  · intro n k p found
    rw [eq_pollAt_of_polls entered ticks found, pollAt, checks]
    by_cases early : k + 1 < last
    · rw [if_pos early]
      exact ⟨rfl, fun _ => ⟨rfl, rfl⟩, fun final => absurd final (Nat.ne_of_lt early)⟩
    · rw [if_neg early]
      exact ⟨rfl, fun before => absurd before early, fun _ => ⟨rfl, rfl, rfl⟩⟩
  · exact Nat.add_lt_add_left (ChordTiming.timeout_lt ticks) t
  · rw [Nat.add_assoc]
    exact Nat.add_le_add_left ChordTiming.checks_mul_le t

/-- The timeout is no multiple of the tick, and the chord ends late. -/
theorem polling_ends_chord_late :
    let k := Stroke.ofKey (.char 'k') .onlyCtrl
    let press := Operation.handle (.keyDown (.press (.char 'k') .onlyCtrl)) [] Context.empty.get? 7
    let exec : Executor Unit := fun s _ _ => (.ok (), s)
    let idle := new (.ofRules [.run (.chord k k) "saveAll"]) ⟨1000, 300⟩ false
    let d := (step exec () idle press).1.after
    d.chord = some (.enter k.encode k.label 7 d.timing) ∧ 0 < d.timing.tick ∧
      (d.polls 9).length = 4 ∧
      ∃ p, (d.polls 9)[3]? = some p ∧ p.time = 1207 ∧ p.exit = some .timedOut := by
  intro k press exec idle d
  have timing : d.timing = ⟨1000, 300⟩ := timing_after _ _ _ _
  have entered : d.chord = some (.enter k.encode k.label 7 d.timing) := by
    have offered : idle.offer? press = some (.stroke k, Context.empty.get?, 7) := rfl
    rw [timing, chord_after, chordAfter_of_offer offered, reaction_chord]
  have ticks : 0 < d.timing.tick := by
    rw [timing]
    decide
  clear_value d
  obtain ⟨length, each, -⟩ := polling_ends_chord entered ticks
  rw [timing] at length each
  have four : (d.polls 9).length = 4 := length 9
  obtain ⟨p, found⟩ : ∃ p, (d.polls 9)[3]? = some p := ⟨_, List.getElem?_eq_getElem (by omega)⟩
  obtain ⟨time, -, final⟩ := each 9 3 p found
  exact ⟨entered, ticks, four, p, found, time, (final rfl).1⟩

end Dispatcher

end Shortcuts
