-- The tokens of a text. A key shows itself only by the colon behind it, so the
-- place of each token that may turn out to be a key is kept, one for each open
-- bracket, and the key token goes in there when the colon comes. A key without
-- a question mark stands on one line and is not longer than 1024 bytes.
import StagedFiles.Yaml.Mark
import StagedFiles.Yaml.ScalarText

namespace StagedFiles.Yaml

/-- A place where a key may turn out to start. -/
structure KeySpot where
  /-- How many tokens stand before it. -/
  place : Nat
  line : Nat
  column : Nat
  index : Nat
  /-- Nothing but a key can stand here. -/
  required : Bool

structure Scan where
  cursor : Cursor
  /-- The tokens so far, last one first. -/
  tokens : List Token := []
  /-- How many tokens there are. -/
  count : Nat := 0
  /-- The columns of the open blocks, innermost first. -/
  blocks : List Nat := []
  /-- The key spot of each open bracket, innermost first, and of the block
  around them. -/
  spots : List (Option KeySpot) := [none]
  /-- A key may start here. -/
  keyAllowed : Bool := true

namespace Scan

def inFlow (s : Scan) : Bool := !(s.spots.drop 1).isEmpty

def emit (s : Scan) (t : Token) : Scan :=
  { s with tokens := t :: s.tokens, count := s.count + 1 }

/-- A token behind the first `place` ones. -/
def emitAt (s : Scan) (place : Nat) (t : Token) : Scan :=
  let after := s.count - place
  { s with
    tokens := s.tokens.take after ++ t :: s.tokens.drop after
    count := s.count + 1 }

def skipN (s : Scan) (n : Nat) : Scan := { s with cursor := s.cursor.skipN n }

/-! ## Blocks -/

/-- The column is further in than every open block. -/
def deeper (s : Scan) (column : Nat) : Bool :=
  match s.blocks with
  | [] => true
  | b :: _ => b < column

/-- Starts a block at a column that is further in; the token goes to `place`. -/
def startBlock (s : Scan) (column place : Nat) (t : Token) : Scan :=
  if !s.inFlow && s.deeper column then
    { s.emitAt place t with blocks := column :: s.blocks }
  else s

/-- Ends the blocks that are further in than a column. -/
def endBlocksFrom (s : Scan) (column : Nat) : List Nat → Scan
  | [] => { s with blocks := [] }
  | b :: rest => if column < b then endBlocksFrom (s.emit .blockEnd) column rest
    else { s with blocks := b :: rest }

def endBlocks (s : Scan) (column : Nat) : Scan :=
  if s.inFlow then s else s.endBlocksFrom column s.blocks

/-- Ends all blocks. -/
def endAllBlocks (s : Scan) : Scan :=
  if s.inFlow then s
  else { s.blocks.foldl (fun s _ => s.emit .blockEnd) s with blocks := [] }

/-! ## Keys -/

/-- The spot is behind the line it started on, or too far back. -/
def isStale (s : Scan) (k : KeySpot) : Bool :=
  k.line < s.cursor.line || k.index + 1024 < s.cursor.index

/-- Without the stale spots; one that was required is an error. -/
def dropStale (s : Scan) : Option Scan := do
  let spots ← s.spots.mapM fun spot =>
    match spot with
    | some k => if s.isStale k then (if k.required then none else some none) else some (some k)
    | none => some none
  pure { s with spots }

/-- Without the innermost spot; one that was required is an error. -/
def dropSpot (s : Scan) : Option Scan :=
  match s.spots with
  | some k :: rest => if k.required then none else some { s with spots := none :: rest }
  | _ => some s

/-- Keeps the place of a token that may be a key. -/
def keepSpot (s : Scan) : Option Scan :=
  if s.keyAllowed then do
    let c := s.cursor
    let required := !s.inFlow && s.blocks.head? == some c.column
    let s ← s.dropSpot
    let spot : KeySpot := ⟨s.count, c.line, c.column, c.index, required⟩
    pure { s with spots := some spot :: s.spots.drop 1 }
  else some s

/-! ## Between tokens -/

/-- Behind blanks, comments, breaks and marks of byte order. A new line outside
brackets may start a key, and before a key no tab counts as a blank. -/
def toNext (s : Scan) : Nat → Scan
  | 0 => s
  | fuel + 1 =>
    let tabs := s.inFlow || !s.keyAllowed
    let c := s.cursor.skipOrderMark.skipWhile fun x => x == ' ' || (tabs && x == '\t')
    let c := c.skipComment
    if c.meets isBreak 0 then
      toNext { s with cursor := c.skipBreak, keyAllowed := s.keyAllowed || !s.inFlow } fuel
    else { s with cursor := c }

/-! ## One token -/

def directiveToken (s : Scan) (fuel : Nat) : Option Scan := do
  let s ← s.endAllBlocks.dropSpot
  let (t, cursor) ← directive s.cursor fuel
  pure ({ s with cursor, keyAllowed := false }.emit t)

def documentMark (s : Scan) : Option Scan := do
  let s ← s.endAllBlocks.dropSpot
  let t := if s.cursor.sees '-' 0 then .documentStart else .documentEnd
  pure (({ s with keyAllowed := false }.emit t).skipN 3)

def openBracket (s : Scan) (t : Token) : Option Scan := do
  let s ← s.keepSpot
  pure (({ s with spots := none :: s.spots, keyAllowed := true }.emit t).skipN 1)

def closeBracket (s : Scan) (t : Token) : Option Scan := do
  let s ← s.dropSpot
  let spots := if s.inFlow then s.spots.drop 1 else s.spots
  pure (({ s with spots, keyAllowed := false }.emit t).skipN 1)

def commaToken (s : Scan) : Option Scan := do
  let s ← s.dropSpot
  pure (({ s with keyAllowed := true }.emit .comma).skipN 1)

/-- A dash. Outside brackets it may start a sequence where a key may start. -/
def entryToken (s : Scan) : Option Scan := do
  if !s.inFlow && !s.keyAllowed then none
  let s := s.startBlock s.cursor.column s.count .blockSequence
  let s ← s.dropSpot
  pure (({ s with keyAllowed := true }.emit .entry).skipN 1)

/-- A question mark. -/
def keyToken (s : Scan) : Option Scan := do
  if !s.inFlow && !s.keyAllowed then none
  let s := s.startBlock s.cursor.column s.count .blockMapping
  let s ← s.dropSpot
  pure (({ s with keyAllowed := !s.inFlow }.emit .key).skipN 1)

/-- A colon. With a key spot before it, the key starts there. -/
def valueToken (s : Scan) : Option Scan :=
  match s.spots with
  | some k :: rest =>
    let s := (s.emitAt k.place .key).startBlock k.column k.place .blockMapping
    some (({ s with spots := none :: rest, keyAllowed := false }.emit .value).skipN 1)
  | _ => do
    if !s.inFlow && !s.keyAllowed then none
    let s := s.startBlock s.cursor.column s.count .blockMapping
    pure (({ s with keyAllowed := !s.inFlow }.emit .value).skipN 1)

def anchorToken (s : Scan) (make : String → Token) : Option Scan := do
  let s ← s.keepSpot
  let (name, cursor) ← anchorName s.cursor
  pure ({ s with cursor, keyAllowed := false }.emit (make name))

def tagMark (s : Scan) (fuel : Nat) : Option Scan := do
  let s ← s.keepSpot
  let (t, cursor) ← tagToken s.inFlow s.cursor fuel
  pure ({ s with cursor, keyAllowed := false }.emit t)

def blockScalar (s : Scan) (literal : Bool) (fuel : Nat) : Option Scan := do
  let s ← s.dropSpot
  let (text, cursor) ← block literal s.blocks.head? s.cursor fuel
  let style := if literal then .literal else .folded
  pure ({ s with cursor, keyAllowed := true }.emit (.scalar (String.ofList text) style))

def quotedScalar (s : Scan) (quote : Char) (fuel : Nat) : Option Scan := do
  let s ← s.keepSpot
  let (text, cursor) ← quoted quote s.cursor fuel
  pure ({ s with cursor, keyAllowed := false }.emit (.scalar (String.ofList text) .quoted))

/-- A plain scalar. Behind a break a key may start again. -/
def plainScalar (s : Scan) (fuel : Nat) : Option Scan := do
  let s ← s.keepSpot
  let indent := match s.blocks with
    | [] => 0
    | b :: _ => b + 1
  let p ← plain s.inFlow indent s.cursor fuel
  pure ({ s with cursor := p.cursor, keyAllowed := p.broken }.emit
    (.scalar (String.ofList p.text) .plain))

/-- A plain scalar can start with the character here. -/
def startsPlain (s : Scan) (x : Char) : Bool :=
  let c := s.cursor
  if x == '-' then !c.meets isBlank 1
  else if x == '?' || x == ':' then !s.inFlow && !c.spaceAt 1
  else !(isBlank x || isBreak x || ",[]\x7b\x7d#&*!|>'\"%@`".toList.contains x)

/-- The next token, at its first character, in a text with fewer characters
left than `fuel`. -/
def token (s : Scan) (x : Char) (fuel : Nat) : Option Scan :=
  let c := s.cursor
  let marks := s.inFlow || c.spaceAt 1
  if c.column == 0 && x == '%' then s.directiveToken fuel
  else if c.atDocumentMark then s.documentMark
  else if x == '[' then s.openBracket .flowSequence
  else if x == '{' then s.openBracket .flowMapping
  else if x == ']' then s.closeBracket .flowSequenceEnd
  else if x == '}' then s.closeBracket .flowMappingEnd
  else if x == ',' then s.commaToken
  else if x == '-' && c.spaceAt 1 then s.entryToken
  else if x == '?' && marks then s.keyToken
  else if x == ':' && marks then s.valueToken
  else if x == '*' then s.anchorToken .alias
  else if x == '&' then s.anchorToken .anchor
  else if x == '!' then s.tagMark fuel
  else if x == '|' && !s.inFlow then s.blockScalar true fuel
  else if x == '>' && !s.inFlow then s.blockScalar false fuel
  else if x == '\x27' || x == '\x22' then s.quotedScalar x fuel
  else if s.startsPlain x then s.plainScalar fuel
  else none

/-! ## All tokens -/

/-- Ends the text. -/
def finish (s : Scan) : Option Scan := s.endAllBlocks.dropSpot

/-- The tokens from here on. Each takes a character, so more characters than
are left are never needed. -/
def run (s : Scan) : Nat → Option Scan
  | 0 => none
  | fuel + 1 => do
    let s := s.toNext (fuel + 1)
    let s ← s.dropStale
    let s := s.endBlocks s.cursor.column
    match s.cursor.peek 0 with
    | none => s.finish
    | some x => run (← s.token x (fuel + 1)) fuel

end Scan

/-- The tokens of a text. -/
def tokens? (text : String) : Option (List Token) :=
  let cs := text.toList
  if cs.all isAllowed then
    ((Scan.run { cursor := { rest := cs } } (cs.length + 1)).map fun s => s.tokens.reverse)
  else none

end StagedFiles.Yaml
