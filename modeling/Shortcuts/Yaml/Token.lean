import Shortcuts.Decimal.Natural
import Shortcuts.Yaml.Tag
/-!
# Tokens of a document

The scanner cuts a document into tokens and makes its indentation explicit: a block opens where a
line is indented deeper than the block around it, and closes where a line is indented less. A
mapping key is recognised late, by the colon after it, so the token that announces it is inserted
in front of what was already read.

A byte order mark at the start of a line is skipped, but takes up a column.

Anchors and aliases are not part of the language that is read here.
-/

namespace Shortcuts.Yaml

inductive Token
  /-- The version of the language that a document asks for. -/
  | version (major minor : Nat)
  /-- What a handle stands for in a document. -/
  | handle (name : String) (stem : List UInt8)
  | documentStart
  | documentEnd
  | blockSequenceStart
  | blockMappingStart
  | blockEnd
  | flowSequenceStart
  | flowSequenceEnd
  | flowMappingStart
  | flowMappingEnd
  | blockEntry
  | flowEntry
  | key
  | value
  | tag (t : ShortTag)
  | scalar (text : String) (style : Style)
  deriving DecidableEq

/-- A place where a mapping key may have begun: it becomes one if a colon follows on its line. -/
structure KeyStart where
  /-- Nothing but a key may stand at this place. -/
  isRequired : Bool
  /-- How many tokens come before it. -/
  tokensBefore : Nat
  place : Place

structure Scanner where
  cursor : Cursor
  /-- The tokens so far, the newest first. -/
  tokens : List Token
  count : Nat
  /-- The indentation of the innermost block; -1 outside all blocks. -/
  indent : Int
  /-- The indentations of the blocks around it. -/
  outer : List Int
  /-- The last possible key of each flow collection that is open, the innermost first, and of the
  block around them. -/
  keys : List (Option KeyStart)
  /-- A key may begin here. -/
  keyAllowed : Bool

namespace Scanner

def start (cs : List Char) : Scanner := ⟨.start cs, [], 0, -1, [], [none], true⟩

/-- Whether a flow collection is open. -/
def inFlow (s : Scanner) : Bool := 1 < s.keys.length

def push (s : Scanner) (t : Token) : Scanner :=
  { s with tokens := t :: s.tokens, count := s.count + 1 }

def insert (s : Scanner) (before : Nat) (t : Token) : Scanner :=
  { s with tokens := s.tokens.insertIdx (s.count - before) t, count := s.count + 1 }

def key? (s : Scanner) : Option KeyStart := s.keys.head?.join

/-- Replace the last possible key of the innermost collection. -/
def setKey (s : Scanner) (k : Option KeyStart) : Scanner := { s with keys := k :: s.keys.tail }

/-- Give up the last possible key; an error where a key had to stand. -/
def dropKey (s : Scanner) : Option Scanner :=
  if s.key?.any (·.isRequired) then none else some (s.setKey none)

def saveKey (s : Scanner) : Option Scanner :=
  if s.keyAllowed then
    let isRequired := !s.inFlow && s.indent == (s.cursor.column : Int)
    s.dropKey.map (·.setKey (some ⟨isRequired, s.count, s.cursor.place⟩))
  else some s

def skip (s : Scanner) (n : Nat) : Scanner := { s with cursor := s.cursor.skip n }

/-- Open a block at a column deeper than the block around it, with its token at the end or behind
the first `before` tokens. Flow collections have no blocks inside. -/
def openBlock (s : Scanner) (column : Nat) (before : Option Nat) (t : Token) : Scanner :=
  if !s.inFlow && s.indent < (column : Int) then
    let s := { s with outer := s.indent :: s.outer, indent := column }
    match before with
    | none => s.push t
    | some n => s.insert n t
  else s

/-- Close the blocks that are indented deeper than a column; `outer` are the indentations around
the current one. -/
def closeBlocks (column : Int) (s : Scanner) : List Int → Scanner
  | [] => s
  | i :: is =>
    if column < s.indent then closeBlocks column { s.push .blockEnd with indent := i, outer := is } is
    else s

def unindent (s : Scanner) (column : Int) : Scanner :=
  if s.inFlow then s else closeBlocks column s s.outer

/-- Go past a byte order mark at the start of a line. -/
def skipOrderMark (c : Cursor) : Cursor :=
  if c.column == 0 && c.rest.head? == some '\ufeff' then c.skip 1 else c

/-- Go past spaces, comments and line breaks to the next token. Tabs separate tokens only where no
key may begin. -/
def toNext : (fuel : Nat) → Scanner → Scanner
  | 0, s => s
  | fuel + 1, s =>
    let tabs := s.inFlow || !s.keyAllowed
    let c := (skipOrderMark s.cursor).skipWhile fun x => x == ' ' || (tabs && x == '\t')
    let c := if c.rest.head? == some '#' then c.skipLine else c
    match c.readBreak? with
    | some (_, c) => toNext fuel { s with cursor := c, keyAllowed := s.keyAllowed || !s.inFlow }
    | none => { s with cursor := c }

/-- A token that structures flow collections: `before` changes the stack of keys. -/
def flowMark (s : Scanner) (t : Token) (opensKey : Bool) : Scanner :=
  ({ s with keyAllowed := opensKey }.push t).skip 1

/-- The start of a flow collection, which may itself be a key. -/
def openFlow (s : Scanner) (t : Token) : Option Scanner := do
  let s ← s.saveKey
  some ({ s with keys := none :: s.keys }.flowMark t true)

def closeFlow (s : Scanner) (t : Token) : Option Scanner := do
  let s ← s.dropKey
  let s := if s.inFlow then { s with keys := s.keys.tail } else s
  some (s.flowMark t false)

def blockEntry (s : Scanner) : Option Scanner := do
  if !s.inFlow && !s.keyAllowed then none
  else
    let s ← (s.openBlock s.cursor.column none .blockSequenceStart).dropKey
    some (s.flowMark .blockEntry true)

def explicitKey (s : Scanner) : Option Scanner := do
  if !s.inFlow && !s.keyAllowed then none
  else
    let s ← (s.openBlock s.cursor.column none .blockMappingStart).dropKey
    some (s.flowMark .key !s.inFlow)

/-- The last possible key, if it is still one here: on the same line and not too far back. -/
def validKey? (s : Scanner) : Option KeyStart :=
  s.key?.filter fun k =>
    k.place.line == s.cursor.place.line && s.cursor.place.index ≤ k.place.index + 1024

/-- The colon of a value. With a possible key before it, the key's token is inserted there, and
that of a mapping too if the key is indented deeper than the block around it. -/
def valueMark (s : Scanner) : Option Scanner :=
  match s.validKey? with
  | some k =>
    let s := (s.insert k.tokensBefore .key).openBlock k.place.column (some k.tokensBefore)
      .blockMappingStart
    some ((s.setKey none).flowMark .value false)
  | none =>
    if s.key?.any (·.isRequired) then none
    else if s.inFlow then some ((s.setKey none).flowMark .value false)
    else if !s.keyAllowed then none
    else
      let s := (s.setKey none).openBlock s.cursor.column none .blockMappingStart
      some (s.flowMark .value true)

/-- A scalar that was read up to a place, and whether a key may begin behind it. -/
def pushScalar (s : Scanner) (text : List Char) (style : Style) (c : Cursor)
    (keyAllowed : Bool) : Scanner :=
  { s with cursor := c, keyAllowed := keyAllowed }.push (.scalar (String.ofList text) style)

def quotedScalar (fuel : Nat) (s : Scanner) (quote : Char) : Option Scanner := do
  let s ← s.saveKey
  let (text, c) ← readQuoted quote fuel [] (s.cursor.skip 1)
  some (s.pushScalar text .quoted c false)

/-- A plain scalar. If it ends with a line break, a key may begin behind it. -/
def plainScalar (fuel : Nat) (s : Scanner) : Option Scanner := do
  let s ← s.saveKey
  let (text, isBroken, c) ← readPlain s.inFlow (s.indent + 1).toNat fuel [] .none s.cursor
  some (s.pushScalar text .plain c isBroken)

def blockScalar (fuel : Nat) (s : Scanner) (isLiteral : Bool) : Option Scanner := do
  let s ← s.dropKey
  let (text, c) ← readBlock isLiteral s.indent fuel (s.cursor.skip 1)
  some (s.pushScalar text (if isLiteral then .literal else .folded) c true)

/-- A document mark of three characters, which closes all blocks. -/
def documentMark (s : Scanner) (t : Token) : Option Scanner := do
  let s ← (s.unindent (-1)).dropKey
  some (({ s with keyAllowed := false }.push t).skip 3)

/-- A tag. White space follows it, or a comma inside a flow collection. -/
def tagMark (s : Scanner) : Option Scanner := do
  let s ← s.saveKey
  let (tag, rest) ← ShortTag.read? (s.cursor.rest.drop 1)
  if atWordEnd rest || (s.inFlow && rest.head? == some ',') then
    some (({ s with keyAllowed := false }.push (.tag tag)).skip
      (s.cursor.rest.length - rest.length))
  else none

/-- One part of a version number, of at most nine digits, and the text behind it. -/
def versionPart? (cs : List Char) : Option (Nat × List Char) :=
  let digits := cs.takeWhile Char.isDigit
  if digits.length ≤ 9 then
    (Decimal.digits? digits).map fun n => (n, cs.dropWhile Char.isDigit)
  else none

/-- The version that a directive asks for, and the text behind it. -/
def versionToken? (cs : List Char) : Option (Token × List Char) := do
  match ← versionPart? cs with
  | (major, '.' :: cs) => (versionPart? cs).map fun (minor, rest) => (.version major minor, rest)
  | _ => none

/-- A handle and what a directive says that it stands for, and the text behind them. -/
def handleToken? : List Char → Option (Token × List Char)
  | '!' :: cs => do
    let (name, rest) := (readHandle? cs).getD ("!", cs)
    if rest.head?.any isGap then
      let (stem, rest) ← readFullName true (rest.dropWhile isGap)
      if atWordEnd rest then some (.handle name stem, rest) else none
    else none
  | _ => none

/-- What a directive says, from behind its percent sign. Nothing but a comment may follow it. -/
def directiveToken? (cs : List Char) : Option Token := do
  let name := cs.takeWhile isHandleChar
  let rest := cs.dropWhile isHandleChar
  let (token, rest) ←
    if !atWordEnd rest then none
    else if name == "YAML".toList then versionToken? (rest.dropWhile isGap)
    else if name == "TAG".toList then handleToken? (rest.dropWhile isGap)
    else none
  match rest.dropWhile isGap with
  | [] => some token
  | x :: _ => if x == '#' || isBreak x then some token else none

def directive (s : Scanner) : Option Scanner := do
  let s ← (s.unindent (-1)).dropKey
  let token ← directiveToken? (s.cursor.rest.drop 1)
  some { ({ s with keyAllowed := false }.push token) with cursor := s.cursor.skipLine }

/-- Read one token; the text is not at its end, and the fuel exceeds its length. -/
def next (fuel : Nat) (s : Scanner) : Option Scanner :=
  let rest := s.cursor.rest
  match rest with
  | [] => none
  | x :: after =>
    if s.cursor.column == 0 && x == '%' then s.directive
    else if s.cursor.atMark then s.documentMark (if x == '-' then .documentStart else .documentEnd)
    else if x == '[' then s.openFlow .flowSequenceStart
    else if x == '\x7b' then s.openFlow .flowMappingStart
    else if x == ']' then s.closeFlow .flowSequenceEnd
    else if x == '\x7d' then s.closeFlow .flowMappingEnd
    else if x == ',' then s.dropKey.map (·.flowMark .flowEntry true)
    else if x == '-' && atWordEnd after then s.blockEntry
    else if x == '?' && (s.inFlow || atWordEnd after) then s.explicitKey
    else if x == ':' && (s.inFlow || atWordEnd after) then s.valueMark
    else if x == '!' then s.tagMark
    else if x == '|' && !s.inFlow then blockScalar fuel s true
    else if x == '>' && !s.inFlow then blockScalar fuel s false
    else if x == '\'' || x == '"' then quotedScalar fuel s x
    else if isGap x || isFlowIndicator x || x == '#' || x == '&' || x == '*' || x == '|' ||
        x == '>' || x == '%' || x == '@' || x == '\x60' then none
    else plainScalar fuel s

/-- All further tokens, and the ends of the blocks that are still open. Each token takes at least
one character, so a fuel that exceeds the length of the text lasts to its end. -/
def run : (fuel : Nat) → Scanner → Option Scanner
  | 0, _ => none
  | fuel + 1, s =>
    let s := toNext (fuel + 1) s
    if s.cursor.rest.isEmpty then (s.unindent (-1)).dropKey
    else
      match next (fuel + 1) (s.unindent s.cursor.column) with
      | some s => run fuel s
      | none => none

end Scanner

def Token.scan? (cs : List Char) : Option (List Token) :=
  if cs.all isAllowed then
    (Scanner.run (cs.length + 1) (.start cs)).map fun s => s.tokens.reverse
  else none

end Shortcuts.Yaml
