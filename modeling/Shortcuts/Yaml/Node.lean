import Shortcuts.Yaml.Token
/-!
# The tree of a document

A document is a tree of scalars, sequences and mappings. The functions here read the tree off the
tokens; each takes the tokens that are left and returns a node with the tokens behind it.
-/

namespace Shortcuts.Yaml

/-- A node of a document, with the tag in front of it. -/
inductive Node
  | scalar (tag : Option Tag) (text : String) (style : Style)
  | sequence (tag : Option Tag) (items : List Node)
  | mapping (tag : Option Tag) (entries : List (Node × Node))

namespace Node

/-- What stands where nothing is written. -/
def empty : Node := scalar none "" .plain

/-- Whether the next token ends an entry of a block sequence that has no content. -/
def endsItem : List Token → Bool
  | .blockEntry :: _ | .blockEnd :: _ => true
  | _ => false

/-- Whether the next token ends a key or a value of a block mapping that has no content. -/
def endsBlockPart : List Token → Bool
  | .key :: _ | .value :: _ | .blockEnd :: _ => true
  | _ => false

/-- Whether the next token ends an item of a sequence that is written at the indentation of the
mapping around it and that has no content. -/
def endsFlatItem (ts : List Token) : Bool := endsItem ts || endsBlockPart ts

/-- Whether the next token ends a part of a flow collection that closes with `close`. -/
def endsFlowPart (close : Token) : List Token → Bool
  | t :: _ => t == .flowEntry || t == close
  | [] => false

/-- Whether the next token ends a key of a flow collection that closes with `close`. -/
def endsFlowKey (close : Token) : List Token → Bool
  | .value :: _ => true
  | ts => endsFlowPart close ts

/-- The tokens of the next item of a flow collection, or what follows the collection if it ends
here; all items but the first come after a comma. -/
def nextInFlow (close : Token) (isFirst : Bool) : List Token → Option (List Token ⊕ List Token)
  | [] => none
  | t :: rest =>
    if t == close then some (.inr rest)
    else if isFirst then some (.inl (t :: rest))
    else if t == .flowEntry then
      match rest with
      | u :: after => if u == close then some (.inr after) else some (.inl rest)
      | [] => some (.inl rest)
    else none

mutual
/-- A node, whose tag is in full. Block collections may stand only where `inBlock` says, and a
sequence without indentation of its own only where `isFlat` does. -/
def read : (fuel : Nat) → (inBlock isFlat : Bool) → List Token → Option (Node × List Token)
  | 0, _, _, _ => none
  | fuel + 1, inBlock, isFlat, ts =>
    let (tag, ts) := match ts with
      | .tag t :: rest => (t.expand? [], rest)
      | _ => (none, ts)
    match ts with
    | .scalar text style :: rest => some (scalar tag text style, rest)
    | .flowSequenceStart :: rest =>
      (readFlowItems fuel true rest).map fun (items, rest) => (sequence tag items, rest)
    | .flowMappingStart :: rest =>
      (readFlowEntries fuel true rest).map fun (entries, rest) => (mapping tag entries, rest)
    | .blockEntry :: rest =>
      if isFlat then
        (readFlatItems fuel (.blockEntry :: rest)).map fun (items, rest) =>
          (sequence tag items, rest)
      else if tag.isSome then some (scalar tag "" .plain, .blockEntry :: rest)
      else none
    | .blockSequenceStart :: rest =>
      if inBlock then
        (readBlockItems fuel rest).map fun (items, rest) => (sequence tag items, rest)
      else if tag.isSome then some (scalar tag "" .plain, ts)
      else none
    | .blockMappingStart :: rest =>
      if inBlock then
        (readBlockEntries fuel rest).map fun (entries, rest) => (mapping tag entries, rest)
      else if tag.isSome then some (scalar tag "" .plain, ts)
      else none
    | _ => if tag.isSome then some (scalar tag "" .plain, ts) else none

def readBlockItems : (fuel : Nat) → List Token → Option (List Node × List Token)
  | 0, _ => none
  | fuel + 1, ts =>
    match ts with
    | .blockEntry :: rest => do
      let (item, rest) ← if endsItem rest then some (empty, rest) else read fuel true false rest
      let (items, rest) ← readBlockItems fuel rest
      some (item :: items, rest)
    | .blockEnd :: rest => some ([], rest)
    | _ => none

def readFlatItems : (fuel : Nat) → List Token → Option (List Node × List Token)
  | 0, _ => none
  | fuel + 1, ts =>
    match ts with
    | .blockEntry :: rest => do
      let (item, rest) ←
        if endsFlatItem rest then some (empty, rest) else read fuel true false rest
      let (items, rest) ← readFlatItems fuel rest
      some (item :: items, rest)
    | ts => some ([], ts)

/-- The entries of a block mapping, and what follows its end. -/
def readBlockEntries : (fuel : Nat) → List Token → Option (List (Node × Node) × List Token)
  | 0, _ => none
  | fuel + 1, ts =>
    match ts with
    | .key :: rest => do
      let (key, rest) ←
        if endsBlockPart rest then some (empty, rest) else read fuel true true rest
      let (value, rest) ← match rest with
        | .value :: rest =>
          if endsBlockPart rest then some (empty, rest) else read fuel true true rest
        | rest => some (empty, rest)
      let (entries, rest) ← readBlockEntries fuel rest
      some ((key, value) :: entries, rest)
    | .blockEnd :: rest => some ([], rest)
    | _ => none

/-- The value of an entry of a flow collection that closes with `close`. -/
def readFlowValue : (fuel : Nat) → (close : Token) → List Token → Option (Node × List Token)
  | 0, _, _ => none
  | fuel + 1, close, ts =>
    match ts with
    | .value :: rest =>
      if endsFlowPart close rest then some (empty, rest) else read fuel false false rest
    | ts => some (empty, ts)

/-- The items of a flow sequence, and what follows its end. An item with a colon is a mapping with
one entry. -/
def readFlowItems : (fuel : Nat) → (isFirst : Bool) → List Token → Option (List Node × List Token)
  | 0, _, _ => none
  | fuel + 1, isFirst, ts => do
    match ← nextInFlow .flowSequenceEnd isFirst ts with
    | .inr rest => some ([], rest)
    | .inl (.key :: rest) =>
      let (key, rest) ←
        if endsFlowKey .flowSequenceEnd rest then some (empty, rest.tail)
        else read fuel false false rest
      let (value, rest) ← readFlowValue fuel .flowSequenceEnd rest
      let (items, rest) ← readFlowItems fuel false rest
      some (mapping none [(key, value)] :: items, rest)
    | .inl ts =>
      let (item, rest) ← read fuel false false ts
      let (items, rest) ← readFlowItems fuel false rest
      some (item :: items, rest)

/-- The entries of a flow mapping, and what follows its end. A key may stand without a value. -/
def readFlowEntries :
    (fuel : Nat) → (isFirst : Bool) → List Token → Option (List (Node × Node) × List Token)
  | 0, _, _ => none
  | fuel + 1, isFirst, ts => do
    match ← nextInFlow .flowMappingEnd isFirst ts with
    | .inr rest => some ([], rest)
    | .inl (.key :: rest) =>
      let (key, rest) ←
        if endsFlowKey .flowMappingEnd rest then some (empty, rest) else read fuel false false rest
      let (value, rest) ← readFlowValue fuel .flowMappingEnd rest
      let (entries, rest) ← readFlowEntries fuel false rest
      some ((key, value) :: entries, rest)
    | .inl ts =>
      let (key, rest) ← read fuel false false ts
      let (entries, rest) ← readFlowEntries fuel false rest
      some ((key, empty) :: entries, rest)
end

structure Directives where
  /-- One of them is about the version. -/
  hasVersion : Bool
  handles : Handles

/-- Whether the directives say anything. -/
def Directives.isAny (d : Directives) : Bool := d.hasVersion || !d.handles.isEmpty

/-- Read the directives at the start of a document. The version must be a known one; there is at
most one, and each handle is explained once at most. -/
def readDirectives : Directives → List Token → Option (Directives × List Token)
  | d, .version major minor :: rest =>
    if !d.hasVersion && major == 1 && (minor == 1 || minor == 2) then
      readDirectives { d with hasVersion := true } rest
    else none
  | d, .handle name stem :: rest =>
    if (d.handles.lookup name).isNone then
      readDirectives { d with handles := (name, stem) :: d.handles } rest
    else none
  | d, ts => some (d, ts)

/-- A token with its tag in full. -/
def expandTag? (handles : Handles) : Token → Option Token
  | .tag t => (t.expand? handles).map fun full => .tag ⟨"", full.bytes⟩
  | t => some t

/-- The tree of the only document of a list of tokens. A text without any document counts as an
empty one. -/
def ofTokens? (ts : List Token) : Option Node := do
  let fuel := 3 * ts.length + 3
  let (directives, ts) ← readDirectives ⟨false, []⟩ ts
  let ts ← ts.mapM (expandTag? (directives.handles ++ .standard))
  let (root, rest) ← match ts with
    | [] => if directives.isAny then none else some (empty, [])
    | .documentStart :: rest =>
      match rest with
      | [] | .version _ _ :: _ | .handle _ _ :: _ | .documentStart :: _ | .documentEnd :: _ =>
        some (empty, rest)
      | _ => read fuel true false rest
    | _ => if directives.isAny then none else read fuel true false ts
  if (rest.dropWhile (· == .documentEnd)).isEmpty then some root else none

/-- The tree of a document; `none` if the text is not a single well-formed document. -/
def ofText? (text : String) : Option Node := (Token.scan? text.toList).bind ofTokens?

end Node

end Shortcuts.Yaml
