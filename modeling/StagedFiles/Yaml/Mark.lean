-- Marks of nodes (anchors, aliases and tags) and directives of documents.
import StagedFiles.Yaml.Cursor
import StagedFiles.Yaml.Token

namespace StagedFiles.Yaml

/-! ## Anchors and aliases -/

/-- A character that may stand right behind the name of an anchor. -/
def endsAnchor (x : Char) : Bool :=
  isBlank x || isBreak x || "?:,]\x7d%@`".toList.contains x

/-- The name of an anchor or an alias, at its mark. -/
def anchorName (c : Cursor) : Option (String × Cursor) :=
  let (name, c) := c.skip.takeWhile isNameChar
  if !name.isEmpty && (c.atEnd || c.meets endsAnchor 0) then some (String.ofList name, c) else none

/-! ## Tags -/

/-- A character of a tag's text; brackets and commas only between angles. -/
def isTagChar (verbatim : Bool) (x : Char) : Bool :=
  isNameChar x || ";/?:@&=+$.!~*'()".toList.contains x ||
    (verbatim && (x == ',' || x == '[' || x == ']'))

/-- The byte of an escape in a tag. -/
def tagByte (c : Cursor) : Option (UInt8 × Cursor) := do
  if !c.sees '%' 0 then none
  let n ← (do
    let a ← c.peek 1
    let b ← c.peek 2
    let hex (x : Char) : Option Nat :=
      if x.isDigit then some (x.toNat - '0'.toNat)
      else if 'a' ≤ x ∧ x ≤ 'f' then some (x.toNat - 'a'.toNat + 10)
      else if 'A' ≤ x ∧ x ≤ 'F' then some (x.toNat - 'A'.toNat + 10)
      else none
    pure ((← hex a) * 16 + (← hex b)))
  pure (n.toUInt8, c.skipN 3)

/-- How many bytes a character has that starts with this byte. -/
def byteWidth (b : UInt8) : Option Nat :=
  if b < 0x80 then some 1
  else if b &&& 0xE0 = 0xC0 then some 2
  else if b &&& 0xF0 = 0xE0 then some 3
  else if b &&& 0xF8 = 0xF0 then some 4
  else none

def tagBytes (c : Cursor) : Nat → Option (List UInt8 × Cursor)
  | 0 => some ([], c)
  | n + 1 => do
    let (b, c) ← tagByte c
    let (bs, c) ← tagBytes c n
    pure (b :: bs, c)

/-- The bytes of a character that a tag spells in escapes. The first one tells
how many there are, and the others go on from it; whether they are the bytes of
a character indeed is not asked. -/
def tagEscape (c : Cursor) : Option (Tag × Cursor) := do
  let (first, _) ← tagByte c
  let (bytes, c) ← tagBytes c (← byteWidth first)
  if (bytes.drop 1).all fun b => b &&& 0xC0 = 0x80 then pure (bytes, c) else none

/-- The text of a tag from here on. -/
def tagText (verbatim : Bool) (c : Cursor) (text : Tag) : Nat → Option (Tag × Cursor)
  | 0 => none
  | fuel + 1 =>
    match c.peek 0 with
    | none => some (text, c)
    | some x =>
      if x == '%' then
        match tagEscape c with
        | some (bytes, c) => tagText verbatim c (text ++ bytes) fuel
        | none => none
      else if isTagChar verbatim x then tagText verbatim c.skip (text ++ [x.toNat.toUInt8]) fuel
      else some (text, c)

/-- A tag ends before an escaped zero. -/
def untilZero (text : Tag) : Tag := text.takeWhile (· ≠ 0)

/-- A handle as it stands: the mark, a name, and a second mark if there is one. -/
def tagHandle (c : Cursor) : List Char × Cursor :=
  let (name, c) := c.skip.takeWhile isNameChar
  if c.sees '!' 0 then ('!' :: name ++ ['!'], c.skip) else ('!' :: name, c)

/-- A tag in angles. -/
def verbatimTag (c : Cursor) (fuel : Nat) : Option (Token × Cursor) := do
  let (text, c) ← tagText true (c.skipN 2) [] fuel
  if text.isEmpty || !c.sees '>' 0 then none
  pure (.tag "" (untilZero text), c.skip)

/-- The bytes of a tag that is one mark alone. -/
def loneMark : Tag := "!".toUTF8.toList

/-- A tag with a handle. A mark alone is a tag of its own. -/
def handledTag (c : Cursor) (fuel : Nat) : Option (Token × Cursor) :=
  let (handle, rest) := tagHandle c
  if 1 < handle.length && handle.getLast? == some '!' then do
    let (text, c) ← tagText false rest [] fuel
    if text.isEmpty then none
    pure (.tag (String.ofList handle) (untilZero text), c)
  else do
    let name := (String.ofList (handle.drop 1)).toUTF8.toList
    let (text, c) ← tagText false rest name fuel
    let text := untilZero text
    pure (if text.isEmpty then .tag "" loneMark else .tag "!" text, c)

/-- A tag, at its mark, in a text with fewer characters left than `fuel`. -/
def tagToken (inFlow : Bool) (c : Cursor) (fuel : Nat) : Option (Token × Cursor) := do
  let (t, c) ← if c.sees '<' 1 then verbatimTag c fuel else handledTag c fuel
  if c.spaceAt 0 || (inFlow && c.sees ',' 0) then pure (t, c) else none

/-! ## Directives -/

/-- A number of at most nine digits. -/
def versionNumber (c : Cursor) : Option (Nat × Cursor) :=
  let (digits, c) := c.takeWhile Char.isDigit
  if digits.isEmpty || 9 < digits.length then none
  else some (digits.foldl (fun n d => n * 10 + (d.toNat - '0'.toNat)) 0, c)

def versionDirective (c : Cursor) : Option (Token × Cursor) := do
  let (major, c) ← versionNumber c.skipBlanks
  if !c.sees '.' 0 then none
  let (minor, c) ← versionNumber c.skip
  pure (.version major minor, c)

def tagDirective (c : Cursor) (fuel : Nat) : Option (Token × Cursor) := do
  let c := c.skipBlanks
  if !c.sees '!' 0 then none
  let (handle, c) := tagHandle c
  if handle ≠ ['!'] ∧ (handle.length = 1 ∨ handle.getLast? ≠ some '!') then none
  if !c.meets isBlank 0 then none
  let c := c.skipBlanks
  let (text, c) ← tagText true c [] fuel
  if text.isEmpty || !c.spaceAt 0 then none
  pure (.tagHandle (String.ofList handle) (untilZero text), c)

/-- A directive, at its mark, to the end of its line, in a text with fewer
characters left than `fuel`. -/
def directive (c : Cursor) (fuel : Nat) : Option (Token × Cursor) := do
  let (name, c) := c.skip.takeWhile isNameChar
  if !c.spaceAt 0 then none
  let (t, c) ←
    if name = "YAML".toList then versionDirective c
    else if name = "TAG".toList then tagDirective c fuel
    else none
  let c := c.skipBlanks.skipComment
  if c.breaksAt 0 then pure (t, c.skipBreak) else none

end StagedFiles.Yaml
