/-!
# Reading positions in a document

A cursor is the text that is left, with the place where it starts. YAML knows more line breaks
than one; all of them end a line, and most are read as a line feed.
-/

namespace Shortcuts.Yaml

def isBreak (c : Char) : Bool :=
  c == '\n' || c == '\r' || c == '\u0085' || c == '\u2028' || c == '\u2029'

def isGap (c : Char) : Bool := c == ' ' || c == '\t'

def isAllowed (c : Char) : Bool :=
  let n := c.toNat
  n == 0x9 || n == 0xa || n == 0xd || (0x20 ≤ n && n ≤ 0x7e) || n == 0x85 ||
    (0xa0 ≤ n && n ≤ 0xfffd) || 0x10000 ≤ n

/-- Whether the text ends here or goes on with a space, a tab or a line break. -/
def atWordEnd : List Char → Bool
  | [] => true
  | c :: _ => isGap c || isBreak c

/-- Whether the text starts with three dashes or three dots that stand alone. -/
def atDocumentMark : List Char → Bool
  | '-' :: '-' :: '-' :: rest => atWordEnd rest
  | '.' :: '.' :: '.' :: rest => atWordEnd rest
  | _ => false

def byteLength (cs : List Char) : Nat := cs.foldl (fun n c => n + c.utf8Size) 0

/-- A place in a document, counted from zero. -/
structure Place where
  /-- How many bytes come before it. -/
  index : Nat
  line : Nat
  column : Nat

def Place.nextLine (p : Place) (length : Nat) : Place := ⟨p.index + length, p.line + 1, 0⟩

structure Cursor where
  rest : List Char
  place : Place

namespace Cursor

def start (cs : List Char) : Cursor := ⟨cs, ⟨0, 0, 0⟩⟩

def column (c : Cursor) : Nat := c.place.column

def skip (c : Cursor) (n : Nat) : Cursor :=
  ⟨c.rest.drop n,
    { c.place with
      index := c.place.index + byteLength (c.rest.take n)
      column := c.place.column + n }⟩

/-- Go past all characters of a class that stand here; none of them may end a line. -/
def skipWhile (c : Cursor) (p : Char → Bool) : Cursor := c.skip (c.rest.takeWhile p).length

def skipLine (c : Cursor) : Cursor := c.skipWhile fun x => !isBreak x

def readBreak? (c : Cursor) : Option (Char × Cursor) :=
  match c.rest with
  | '\r' :: '\n' :: rest => some ('\n', ⟨rest, c.place.nextLine 2⟩)
  | x :: rest =>
    if isBreak x then
      let kept := if x == '\u2028' || x == '\u2029' then x else '\n'
      some (kept, ⟨rest, c.place.nextLine x.utf8Size⟩)
    else none
  | [] => none

/-- Whether a document mark stands here, at the start of a line. -/
def atMark (c : Cursor) : Bool := c.column == 0 && atDocumentMark c.rest

end Cursor

end Shortcuts.Yaml
