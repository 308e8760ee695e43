/-!
# Requests on the command line

The words of a command line are a request, or there is a reason why they are none. Options stand
before or after the name of the action; a value may be attached to its option or follow it; after
`--` every word is an operand.

A value is checked only once the next argument is known: so of two faults, the one that shows first
from left to right is reported, where a bad value shows at the argument after it. An argument that
has no place at all is reported before a bad value in front of it.
-/

namespace Shortcuts.CommandLine

inductive Action
  /-- List the rules of a keymap file. -/
  | check (path : String)
  /-- Show the bindings of a command. -/
  | which (command : String)
  /-- Play a script. -/
  | replay (path : String)
  deriving DecidableEq

structure Request where
  action : Action
  /-- A keymap to lay over all others. -/
  keymap : Option String
  /-- Leave the built-in keymap out. -/
  noDefaults : Bool
  deriving DecidableEq

/-- Whether a request uses the built-in keymap, if the settings want it. -/
def Request.usesBuiltin (r : Request) (wanted : Bool) : Bool := wanted && !r.noDefaults

inductive Refusal
  /-- Help was asked for. -/
  | help
  /-- The version was asked for. -/
  | version
  /-- There are no arguments at all. -/
  | nothing
  | missingAction
  | unknownAction
  | missingOperand
  | unknownArgument
  /-- An option without its value, or an empty path. -/
  | badValue
  /-- A value for an option that takes none. -/
  | strayValue
  /-- An option that stands twice. -/
  | repeated
  deriving DecidableEq

inductive Verb
  | check
  | which
  | replay
  deriving DecidableEq

def Verb.ofName? (name : String) : Option Verb :=
  [("check", check), ("which", which), ("replay", replay)].lookup name

def Verb.action (v : Verb) (operand : String) : Action :=
  match v with
  | check => .check operand
  | which => .which operand
  | replay => .replay operand

/-- The word that asks for help, in the place of an action. -/
def helpName : String := "help"

def isActionName (w : String) : Bool := (Verb.ofName? w).isSome || w == helpName

/-! ## Arguments -/

/-- What an argument may be for: the action, or something that takes a value. -/
inductive Slot
  | keymap
  /-- What the action is about. -/
  | operand
  deriving DecidableEq

inductive Switch
  | takes (slot : Slot)
  | noDefaults
  | help
  | version

/-- Where an argument stands: before the action, or after it. -/
inductive Level
  | top
  | after (v : Verb)
  deriving DecidableEq

def Level.long? (l : Level) (name : String) : Option Switch :=
  match name with
  | "keymap" => some (.takes .keymap)
  | "no-defaults" => some .noDefaults
  | "help" => some .help
  | "version" => if l = .top then some .version else none
  | "script" => if l = .after .replay then some (.takes .operand) else none
  | _ => none

def Level.short? (l : Level) (c : Char) : Option Switch :=
  match c with
  | 'k' => some (.takes .keymap)
  | 'h' => some .help
  | 'V' => if l = .top then some .version else none
  | 's' => if l = .after .replay then some (.takes .operand) else none
  | _ => none

/-- Whether a slot can hold an empty value: the name of a command may be empty, a path may not. -/
def Level.allowsEmpty (l : Level) (s : Slot) : Bool :=
  s = .operand && l = .after .which

/-- Whether the operand of a level stands on its own, without an option. -/
def Level.hasBareOperand : Level → Bool
  | .after .check | .after .which => true
  | .top | .after .replay => false

inductive Word
  /-- Two dashes alone: only operands follow. -/
  | separator
  | long (name : String) (value : Option String)
  | short (letters : List Char)
  | plain

/-- The text before the first equals sign and the text after it. -/
def splitValue (cs : List Char) : String × Option String :=
  let name := String.ofList (cs.takeWhile (· != '='))
  match cs.dropWhile (· != '=') with
  | _ :: value => (name, some (String.ofList value))
  | [] => (name, none)

def Word.ofString (w : String) : Word :=
  match w.toList with
  | ['-', '-'] => .separator
  | '-' :: '-' :: cs =>
    let (name, value) := splitValue cs
    .long name value
  | '-' :: c :: cs => .short (c :: cs)
  | _ => .plain

/-! ## Reading -/

structure Reading where
  keymap : Option String
  operand : Option String
  noDefaults : Bool
  /-- A slot whose value has not been checked yet, and its value, if it has come. -/
  unsettled : Option (Slot × Option String)

namespace Reading

def start : Reading := ⟨none, none, false, none⟩

def get? (r : Reading) : Slot → Option String
  | .keymap => r.keymap
  | .operand => r.operand

/-- Give a slot its value, unless it has one or the value is bad. -/
def fill (l : Level) (r : Reading) (s : Slot) (value : String) : Except Refusal Reading :=
  if (r.get? s).isSome then .error .repeated
  else if value.isEmpty && !l.allowsEmpty s then .error .badValue
  else
    match s with
    | .keymap => .ok { r with keymap := some value }
    | .operand => .ok { r with operand := some value }

def settle (l : Level) (r : Reading) : Except Refusal Reading :=
  match r.unsettled with
  | none => .ok r
  | some (_, none) => .error .badValue
  | some (s, some value) => fill l { r with unsettled := none } s value

def isAwaiting (r : Reading) : Bool :=
  match r.unsettled with
  | some (_, none) => true
  | _ => false

/-- Take a word as the value that is awaited. -/
def supply (r : Reading) (value : String) : Reading :=
  { r with unsettled := r.unsettled.map fun u => (u.1, some value) }

def switch (l : Level) (r : Reading) (s : Switch) (attached : Option String) :
    Except Refusal Reading := do
  match s, attached with
  | .takes slot, some value => fill l (← r.settle l) slot value
  | .takes slot, none => .ok { (← r.settle l) with unsettled := some (slot, none) }
  | _, some _ => .error .strayValue
  | .help, none =>
    let _ ← r.settle l
    .error .help
  | .version, none =>
    let _ ← r.settle l
    .error .version
  | .noDefaults, none =>
    let r ← r.settle l
    if r.noDefaults then .error .repeated else .ok { r with noDefaults := true }

def long (l : Level) (r : Reading) (name : String) (value : Option String) :
    Except Refusal Reading :=
  match l.long? name with
  | some s => r.switch l s value
  | none => .error .unknownArgument

/-- Take options by their letters. Behind the letter of an option that takes a value stands that
value, with or without an equals sign. -/
def short (l : Level) (r : Reading) : List Char → Except Refusal Reading
  | [] => .ok r
  | c :: cs =>
    match l.short? c, cs with
    | some (.takes slot), [] => r.switch l (.takes slot) none
    | some (.takes slot), '=' :: value => r.switch l (.takes slot) (some (String.ofList value))
    | some (.takes slot), value => r.switch l (.takes slot) (some (String.ofList value))
    | some s, cs => do short l (← r.switch l s none) cs
    | none, _ => .error .unknownArgument

def hasOperand (r : Reading) : Bool :=
  r.operand.isSome || r.unsettled.any fun u => u.1 = .operand

def bare (l : Level) (r : Reading) (isTrailing : Bool) (w : String) : Except Refusal Reading := do
  if l.hasBareOperand && !r.hasOperand then
    .ok { (← r.settle l) with unsettled := some (.operand, some w) }
  else if l = .top && !(isTrailing && isActionName w) then .error .unknownAction
  else .error .unknownArgument

end Reading

/-- What a request for help in words is answered: it may name one action. -/
def helpOn : List String → Refusal
  | [] => .help
  | [w] => if isActionName w then .help else .unknownAction
  | _ => .unknownAction

/-- Read the words of a level, up to the name of an action. -/
def readWords (l : Level) (r : Reading) (isTrailing : Bool) :
    List String → Except Refusal (Reading × Option (Verb × List String))
  | [] => .ok (r, none)
  | w :: ws => do
    if isTrailing then readWords l (← r.bare l true w) true ws
    else
      match Word.ofString w with
      | .separator => readWords l r true ws
      | .long name value => readWords l (← r.long l name value) false ws
      | .short letters => readWords l (← r.short l letters) false ws
      | .plain =>
        if r.isAwaiting then readWords l (r.supply w) false ws
        else if l = .top && w == helpName then .error (helpOn ws)
        else
          match if l = .top then Verb.ofName? w else none with
          | some v => .ok (r, some (v, ws))
          | none => readWords l (← r.bare l false w) false ws

def readAction (v : Verb) (ws : List String) : Except Refusal (Reading × Action) := do
  let (r, _) ← readWords (.after v) .start false ws
  let r ← r.settle (.after v)
  match r.operand with
  | some operand => .ok (r, v.action operand)
  | none => .error .missingOperand

/-- Read a command line. What stands after the action wins over what stands before it. -/
def parse (ws : List String) : Except Refusal Request := do
  match ← readWords .top .start false ws with
  | (outer, some (v, rest)) =>
    let (inner, action) ← readAction v rest
    let outer ← outer.settle .top
    .ok ⟨action, inner.keymap.or outer.keymap, outer.noDefaults || inner.noDefaults⟩
  | (outer, none) =>
    let outer ← outer.settle .top
    .error (if outer.keymap.isNone && !outer.noDefaults then .nothing else .missingAction)

end Shortcuts.CommandLine
