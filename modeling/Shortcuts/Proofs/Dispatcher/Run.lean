import Shortcuts.Dispatcher.Step
/-!
# Runs of a dispatcher

A host drives a dispatcher by one operation after the other.  `perform` is one step of such a run;
`observe` is the whole run as the host sees it: the replies, the notices that wait for it, the calls
that its executor received, and when it should check on a chord.
-/

namespace Shortcuts

/-- A command as an executor receives it, with its arguments. -/
abbrev Call := String × List Payload

/-- An executor that also writes down the calls it receives. -/
def Executor.recording {σ : Type} (exec : Executor σ) : Executor (σ × List Call) :=
  fun s command args =>
    let (result, after) := exec s.1 command args
    (result, after, s.2 ++ [(command, args)])

/-- One operation of a host. -/
inductive Operation
  | handle (input : Input) (args : List Payload) (look : Lookup) (now : Nat)
  | handlePattern (p : Pattern) (args : List Payload) (look : Lookup) (now : Nat)
  | tick (now : Nat) (hasFocus : Bool)
  | reset
  | setTable (t : RuleTable)
  | takeNotices

inductive Reply
  | answer (a : Answer)
  | exit (e : Option ChordExit)
  | notices (ns : List Notice)
  | done

namespace Reply

def isFiltered : Reply → Bool
  | answer (.filtered _) => true
  | _ => false

/-- Whether the host is to leave an input alone, if the reply is to an input. -/
def preventsDefault? : Reply → Option Bool
  | answer a => some a.preventsDefault
  | exit _ | notices _ | done => none

end Reply

/-- What a host sees of one operation. -/
structure Observation where
  reply : Reply
  /-- The calls that the operation made. -/
  calls : List Call
  /-- The notices that the host has not taken yet. -/
  notices : List Notice
  wakeup : Option Nat

namespace Dispatcher

variable {σ : Type}

def perform (exec : Executor σ) (s : σ) (d : Dispatcher) : Operation → Reply × Dispatcher × σ
  | .handle input args look now =>
    let (a, d, s) := handle exec s d input args look now
    (.answer a, d, s)
  | .handlePattern p args look now =>
    let (a, d, s) := handlePattern exec s d p args look now
    (.answer a, d, s)
  | .tick now hasFocus =>
    let (e, d) := d.tick now hasFocus
    (.exit e, d, s)
  | .reset => (.done, d.reset, s)
  | .setTable t => (.done, d.setTable t, s)
  | .takeNotices =>
    let (ns, d) := d.takeNotices
    (.notices ns, d, s)

def observe (exec : Executor σ) (s : σ) (d : Dispatcher) : List Operation → List Observation
  | [] => []
  | op :: ops =>
    let (reply, d, s, calls) := perform exec.recording (s, []) d op
    ⟨reply, calls, d.notices, d.nextWakeup⟩ :: observe exec s d ops

end Dispatcher

end Shortcuts
