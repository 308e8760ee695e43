import Shortcuts.Yaml.Cursor
/-!
# Scalars

The three ways to write a text in a document: plain, between quotes, and as an indented block.
Plain and quoted texts may go over several lines, which are folded: one line break between two
pieces counts as a space, and of several the first is dropped.

Each step of the loops here goes past a character, so they end within a fuel that exceeds the
length of the text that is left.
-/

namespace Shortcuts.Yaml

inductive Style
  | plain
  | quoted
  /-- A block whose lines are kept as they are. -/
  | literal
  /-- A block whose lines are folded. -/
  | folded
  deriving DecidableEq

structure Gap where
  /-- Spaces and tabs before the first line break. -/
  spaces : List Char
  /-- A line ended here. -/
  isBroken : Bool
  /-- The break of that line, unless it was hidden. -/
  lead : List Char
  /-- The breaks of the empty lines after it. -/
  trail : List Char

/-- No white space. -/
def Gap.none : Gap := ⟨[], false, [], []⟩

/-- White space that begins with a hidden line break. -/
def Gap.hidden : Gap := ⟨[], true, [], []⟩

def Gap.addBreak (g : Gap) (b : Char) : Gap :=
  if g.isBroken then { g with trail := g.trail ++ [b] } else { g with isBroken := true, lead := [b] }

def Gap.folded (g : Gap) : List Char :=
  if !g.isBroken then g.spaces
  else if g.lead == ['\n'] then (if g.trail.isEmpty then [' '] else g.trail)
  else g.lead ++ g.trail

/-- Read white space. Inside a block, tabs may not stand left of `tabLimit`. -/
def readGap (tabLimit : Nat) : (fuel : Nat) → Gap → Cursor → Option (Gap × Cursor)
  | 0, g, c => some (g, c)
  | fuel + 1, g, c =>
    match c.readBreak? with
    | some (b, c) => readGap tabLimit fuel (g.addBreak b) c
    | none =>
      match c.rest with
      | x :: _ =>
        if isGap x then
          if g.isBroken then
            if x == '\t' && c.column < tabLimit then .none
            else readGap tabLimit fuel g (c.skip 1)
          else readGap tabLimit fuel { g with spaces := g.spaces ++ [x] } (c.skip 1)
        else some (g, c)
      | [] => some (g, c)

def isFlowIndicator (c : Char) : Bool :=
  c == ',' || c == '[' || c == ']' || c == '\x7b' || c == '\x7d'

/-- A piece of a plain scalar without white space. A colon ends it when a word ends there, and a
flow indicator does inside a flow collection. -/
def plainPiece? (inFlow : Bool) : List Char → Option (List Char)
  | [] => some []
  | c :: rest =>
    if isGap c || isBreak c then some []
    else if inFlow && c == ':' && rest.head?.any (fun x => isFlowIndicator x || x == '?') then none
    else if (c == ':' && atWordEnd rest) || (inFlow && isFlowIndicator c) then some []
    else (plainPiece? inFlow rest).map (c :: ·)

/-- A plain scalar: its text, whether it ends with a line break, and where it ends. Outside flow
collections its lines are indented by at least `indent`. -/
def readPlain (inFlow : Bool) (indent : Nat) :
    (fuel : Nat) → List Char → Gap → Cursor → Option (List Char × Bool × Cursor)
  | 0, _, _, _ => none
  | fuel + 1, text, gap, c =>
    if c.atMark || c.rest.head? == some '#' then some (text, gap.isBroken, c)
    else
      match plainPiece? inFlow c.rest with
      | none => none
      | some piece =>
        let text := if piece.isEmpty then text else text ++ gap.folded ++ piece
        let gap := if piece.isEmpty then gap else .none
        let c := c.skip piece.length
        if c.rest.isEmpty || !atWordEnd c.rest then some (text, gap.isBroken, c)
        else
          match readGap indent (fuel + 1) gap c with
          | none => none
          | some (gap, c) =>
            if !inFlow && c.column < indent then some (text, gap.isBroken, c)
            else readPlain inFlow indent fuel text gap c

def hexDigit? (c : Char) : Option Nat :=
  if '0' ≤ c && c ≤ '9' then some (c.toNat - '0'.toNat)
  else if 'a' ≤ c && c ≤ 'f' then some (c.toNat - 'a'.toNat + 10)
  else if 'A' ≤ c && c ≤ 'F' then some (c.toNat - 'A'.toNat + 10)
  else none

/-- The character with a code point written in hexadecimal digits. -/
def hexChar? (digits : List Char) : Option Char :=
  match digits.mapM hexDigit? with
  | none => none
  | some ds =>
    let n := ds.foldl (fun n d => 16 * n + d) 0
    if n.isValidChar then some (Char.ofNat n) else none

/-- The character that an escape stands for, and how many characters the escape takes after the
backslash. -/
def escape? : List Char → Option (Char × Nat)
  | [] => none
  | c :: rest =>
    match [('0', '\x00'), ('a', '\x07'), ('b', '\x08'), ('t', '\t'), ('\t', '\t'), ('n', '\n'),
        ('v', '\x0b'), ('f', '\x0c'), ('r', '\r'), ('e', '\x1b'), (' ', ' '), ('"', '"'),
        ('/', '/'), ('\\', '\\'), ('N', '\u0085'), ('_', '\u00a0'), ('L', '\u2028'),
        ('P', '\u2029')].lookup c with
    | some x => some (x, 1)
    | none =>
      match [('x', 2), ('u', 4), ('U', 8)].lookup c with
      | none => none
      | some n =>
        if rest.length < n then none else (hexChar? (rest.take n)).map fun x => (x, n + 1)

/-- A piece of a quoted scalar: its characters, whether a backslash hides the line break after it,
and where it ends: at white space or before the closing quote. -/
def quotedPiece (quote : Char) :
    (fuel : Nat) → Cursor → Option (List Char × Bool × Cursor)
  | 0, _ => none
  | fuel + 1, c =>
    match c.rest with
    | [] => some ([], false, c)
    | x :: rest =>
      if isGap x || isBreak x then some ([], false, c)
      else if x == quote then
        if quote == '\'' && rest.head? == some '\'' then
          (quotedPiece quote fuel (c.skip 2)).map fun (cs, r) => ('\'' :: cs, r)
        else some ([], false, c)
      else if quote == '"' && x == '\\' then
        match (c.skip 1).readBreak? with
        | some (_, c) => some ([], true, c)
        | none =>
          match escape? rest with
          | none => none
          | some (y, n) =>
            (quotedPiece quote fuel (c.skip (n + 1))).map fun (cs, r) => (y :: cs, r)
      else (quotedPiece quote fuel (c.skip 1)).map fun (cs, r) => (x :: cs, r)

/-- A quoted scalar from behind its opening quote to behind its closing one. -/
def readQuoted (quote : Char) :
    (fuel : Nat) → List Char → Cursor → Option (List Char × Cursor)
  | 0, _, _ => none
  | fuel + 1, text, c =>
    if c.atMark || c.rest.isEmpty then none
    else
      match quotedPiece quote (fuel + 1) c with
      | none => none
      | some (piece, hidden, c) =>
        let text := text ++ piece
        if c.rest.head? == some quote then some (text, c.skip 1)
        else
          match readGap 0 (fuel + 1) (if hidden then .hidden else .none) c with
          | none => none
          | some (gap, c) => readQuoted quote fuel (text ++ gap.folded) c

/-- What happens to the line breaks at the end of a block scalar. -/
inductive Chomping
  | strip
  | clip
  | keep
  deriving DecidableEq

def chomping? : Char → Option Chomping
  | '+' => some .keep
  | '-' => some .strip
  | _ => none

/-- The indicators after the mark of a block scalar: chomping and indentation, in either order. -/
def blockHeader (c : Cursor) : Option (Chomping × Option Nat × Cursor) :=
  let digit? (x : Char) : Option Nat :=
    if '1' ≤ x && x ≤ '9' then some (x.toNat - '0'.toNat) else none
  match c.rest with
  | x :: rest =>
    match chomping? x with
    | some chomp =>
      match rest.head? with
      | some '0' => none
      | some y =>
        match digit? y with
        | some n => some (chomp, some n, c.skip 2)
        | none => some (chomp, none, c.skip 1)
      | none => some (chomp, none, c.skip 1)
    | none =>
      if x == '0' then none
      else
        match digit? x with
        | some n =>
          match rest.head?.bind chomping? with
          | some chomp => some (chomp, some n, c.skip 2)
          | none => some (.clip, some n, c.skip 1)
        | none => some (.clip, none, c)
  | [] => some (.clip, none, c)

/-- Go past empty lines and the indentation of the next line that is not empty. Returns the line
breaks and the widest indentation seen. Without a given indentation, all leading spaces belong to
it. -/
def blockBreaks (indent : Option Nat) :
    (fuel : Nat) → List Char → Nat → Cursor → Option (List Char × Nat × Cursor)
  | 0, breaks, widest, c => some (breaks, widest, c)
  | fuel + 1, breaks, widest, c =>
    let spaces := (c.rest.takeWhile (· == ' ')).length
    let c := c.skip (match indent with
      | none => spaces
      | some n => min spaces (n - c.column))
    let widest := max widest c.column
    if indent.all (c.column < ·) && c.rest.head? == some '\t' then none
    else
      match c.readBreak? with
      | some (b, c) => blockBreaks indent fuel (breaks ++ [b]) widest c
      | none => some (breaks, widest, c)

/-- The lines of a block scalar. `lead` is the line break before the current line, `breaks` are
those of the empty lines after it, and `wasBlank` says whether the last line began with white
space; such lines are not folded. -/
def blockLines (isLiteral : Bool) (indent : Nat) :
    (fuel : Nat) → (text lead breaks : List Char) → (wasBlank : Bool) → Cursor →
      Option (List Char × List Char × List Char × Cursor)
  | 0, _, _, _, _, _ => none
  | fuel + 1, text, lead, breaks, wasBlank, c =>
    if c.column == indent && !c.rest.isEmpty then
      let isBlank := c.rest.head?.any isGap
      let joint :=
        if !isLiteral && lead == ['\n'] && !wasBlank && !isBlank then
          if breaks.isEmpty then [' '] else breaks
        else lead ++ breaks
      let line := c.rest.takeWhile fun x => !isBreak x
      let c := c.skipLine
      let (lead, c) := match c.readBreak? with
        | some (b, c) => ([b], c)
        | none => ([], c)
      match blockBreaks (some indent) (fuel + 1) [] 0 c with
      | none => none
      | some (breaks, _, c) =>
        blockLines isLiteral indent fuel (text ++ joint ++ line) lead breaks isBlank c
    else some (text, lead, breaks, c)

/-- A block scalar from behind its mark; `parent` is the indentation of the block around it. -/
def readBlock (isLiteral : Bool) (parent : Int) (fuel : Nat) (c : Cursor) :
    Option (List Char × Cursor) := do
  let (chomp, given, c) ← blockHeader c
  let c := c.skipWhile isGap
  let c := if c.rest.head? == some '#' then c.skipLine else c
  let c ← if c.rest.isEmpty then some c else c.readBreak?.map (·.2)
  let given := given.map fun n => parent.toNat + n
  let (breaks, widest, c) ← blockBreaks given fuel [] 0 c
  let indent := given.getD (max widest (max (parent + 1).toNat 1))
  let (text, lead, breaks, c) ← blockLines isLiteral indent fuel [] [] breaks false c
  let ending := match chomp with
    | .strip => []
    | .clip => lead
    | .keep => lead ++ breaks
  some (text ++ ending, c)

end Shortcuts.Yaml
