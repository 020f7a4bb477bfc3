-- A place in a text: what is left of it, and the line and column it stands at.

namespace StagedFiles.Yaml

/-! ## Characters -/

/-- The characters that a document may hold. -/
def isAllowed (c : Char) : Bool :=
  let n := c.toNat
  n == 0x09 || n == 0x0A || n == 0x0D || (0x20 ≤ n && n ≤ 0x7E) || n == 0x85 ||
    (0xA0 ≤ n && n ≤ 0xD7FF) || (0xE000 ≤ n && n ≤ 0xFFFD) || 0x10000 ≤ n

def isBlank (c : Char) : Bool := c == ' ' || c == '\t'

def isBreak (c : Char) : Bool :=
  c == '\n' || c == '\r' || c == '\u0085' || c == '\u2028' || c == '\u2029'

/-- The characters of names: anchors, tag handles and directives. -/
def isNameChar (c : Char) : Bool :=
  c.isAlphanum || c == '_' || c == '-'

/-- The characters that stand for collections inside brackets. -/
def isFlowMark (c : Char) : Bool :=
  c == ',' || c == '[' || c == ']' || c == '{' || c == '}'

/-! ## The place -/

structure Cursor where
  rest : List Char
  line : Nat := 0
  column : Nat := 0
  /-- How many bytes lie behind. -/
  index : Nat := 0

namespace Cursor

/-- The character `n` places ahead. -/
def peek (c : Cursor) (n : Nat) : Option Char := c.rest[n]?

/-- The character `n` places ahead is this one. -/
def sees (c : Cursor) (x : Char) (n : Nat) : Bool := c.peek n == some x

/-- A test of the character `n` places ahead, which fails at the end. -/
def meets (c : Cursor) (p : Char → Bool) (n : Nat) : Bool := (c.peek n).any p

def atEnd (c : Cursor) : Bool := c.rest.isEmpty

/-- A break or the end stands `n` places ahead. -/
def breaksAt (c : Cursor) (n : Nat) : Bool := (c.peek n).all isBreak

/-- A blank, a break or the end stands `n` places ahead. -/
def spaceAt (c : Cursor) (n : Nat) : Bool := (c.peek n).all fun x => isBlank x || isBreak x

def skip (c : Cursor) : Cursor :=
  match c.rest with
  | [] => c
  | x :: rest => { c with rest, column := c.column + 1, index := c.index + x.utf8Size }

def skipN (c : Cursor) : Nat → Cursor
  | 0 => c
  | n + 1 => c.skip.skipN n

/-- Behind a line break; a return and a newline together are one break. -/
def skipBreak (c : Cursor) : Cursor :=
  match c.rest with
  | '\r' :: '\n' :: rest => { rest, line := c.line + 1, index := c.index + 2 }
  | x :: rest => { rest, line := c.line + 1, index := c.index + x.utf8Size }
  | [] => c

/-- What a line break stands for in a text: a newline, except for the two
separators that stand for themselves. -/
def breakText (c : Cursor) : List Char :=
  match c.rest with
  | '\u2028' :: _ => ['\u2028']
  | '\u2029' :: _ => ['\u2029']
  | _ => ['\n']

/-- The characters from here on that pass a test, none of them a break. -/
def takeWhile (c : Cursor) (p : Char → Bool) : List Char × Cursor :=
  let taken := c.rest.takeWhile p
  (taken,
    { c with
      rest := c.rest.drop taken.length
      column := c.column + taken.length
      index := taken.foldl (fun n x => n + x.utf8Size) c.index })

def skipWhile (c : Cursor) (p : Char → Bool) : Cursor := (c.takeWhile p).2

/-- Behind the blanks from here on. -/
def skipBlanks (c : Cursor) : Cursor := c.skipWhile isBlank

/-- Up to the end of the line. -/
def skipLineRest (c : Cursor) : Cursor := c.skipWhile (!isBreak ·)

/-- Behind a mark of byte order, if a line starts with one. It takes a column
like any other character, so what follows it stands further in. -/
def skipOrderMark (c : Cursor) : Cursor :=
  if c.column == 0 && c.sees '\uFEFF' 0 then c.skip else c

/-- Behind a comment, if one starts here. -/
def skipComment (c : Cursor) : Cursor := if c.sees '#' 0 then c.skipLineRest else c

/-- Three dashes or three dots alone at the start of a line. -/
def atDocumentMark (c : Cursor) : Bool :=
  c.column == 0 && c.spaceAt 3 &&
    ((c.sees '-' 0 && c.sees '-' 1 && c.sees '-' 2) ||
      (c.sees '.' 0 && c.sees '.' 1 && c.sees '.' 2))

end Cursor

end StagedFiles.Yaml
