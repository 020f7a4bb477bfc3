-- The text of a scalar in each of its written forms. Lines of plain and quoted
-- scalars are folded: one break is a space, more are one break fewer.
import StagedFiles.Yaml.Cursor

namespace StagedFiles.Yaml

/-! ## Gaps between words -/

/-- The blanks and breaks between two words. -/
structure Gap where
  /-- Blanks before any break. -/
  blanks : List Char := []
  /-- The first break, if any. -/
  first : List Char := []
  /-- The breaks behind it. -/
  more : List Char := []

namespace Gap

def broken (g : Gap) : Bool := !g.first.isEmpty

/-- A break behind those the gap has. -/
def addBreak (g : Gap) (text : List Char) : Gap :=
  if g.broken then { g with more := g.more ++ text } else { g with blanks := [], first := text }

/-- What a gap stands for. -/
def text (g : Gap) : List Char :=
  if g.broken then
    if g.first = ['\n'] then (if g.more.isEmpty then [' '] else g.more) else g.first ++ g.more
  else g.blanks

/-- The gap from here on. In a line behind a break, a tab may not stand before
the column `tabsFrom`. -/
def scan (tabsFrom : Nat) (c : Cursor) (g : Gap) : Nat → Option (Gap × Cursor)
  | 0 => none
  | fuel + 1 =>
    match c.peek 0 with
    | none => some (g, c)
    | some x =>
      if isBlank x then
        if g.broken && decide (c.column < tabsFrom) && x == '\t' then none
        else scan tabsFrom c.skip (if g.broken then g else { g with blanks := g.blanks ++ [x] }) fuel
      else if isBreak x then scan tabsFrom c.skipBreak (g.addBreak c.breakText) fuel
      else some (g, c)

end Gap

/-! ## Plain scalars -/

/-- A plain scalar ends before this place, inside brackets or not. -/
def plainStops (inFlow : Bool) (c : Cursor) : Bool :=
  c.spaceAt 0 || (c.sees ':' 0 && c.spaceAt 1) || (inFlow && c.meets isFlowMark 0)

/-- A colon that belongs neither to a word nor to a pair. -/
def strayColon (inFlow : Bool) (c : Cursor) : Bool :=
  inFlow && c.sees ':' 0 && c.meets (fun x => x == '?' || isFlowMark x) 1

/-- One word of a plain scalar. -/
def plainWord (inFlow : Bool) (c : Cursor) (word : List Char) : Nat → Option (List Char × Cursor)
  | 0 => none
  | fuel + 1 =>
    if plainStops inFlow c then some (word.reverse, c)
    else if strayColon inFlow c then none
    else
      match c.peek 0 with
      | some x => plainWord inFlow c.skip (x :: word) fuel
      | none => some (word.reverse, c)

/-- What a scan of a plain scalar found. -/
structure Plain where
  text : List Char
  /-- Behind the scalar and the gap after it. -/
  cursor : Cursor
  /-- The gap after it holds a break. -/
  broken : Bool

/-- What a scan found with these pieces, the last one first, and the gap behind them. -/
def Plain.ofPieces (pieces : List (List Char)) (gap : Gap) (c : Cursor) : Plain :=
  { text := pieces.reverse.flatten, cursor := c, broken := gap.broken }

/-- A plain scalar behind the pieces read so far, the last one first, and the
gap after them. Its lines stand at `indent` or further in. -/
def plainFrom (inFlow : Bool) (indent : Nat) (c : Cursor) (pieces : List (List Char))
    (gap : Gap) : Nat → Option Plain
  | 0 => none
  | fuel + 1 =>
    if c.atDocumentMark || c.sees '#' 0 then some (.ofPieces pieces gap c)
    else
      match plainWord inFlow c [] (fuel + 1) with
      | none => none
      | some (word, c) =>
        let pieces := if word.isEmpty then pieces else word :: gap.text :: pieces
        let gap := if word.isEmpty then gap else {}
        if c.meets (fun x => isBlank x || isBreak x) 0 then
          match Gap.scan indent c gap (fuel + 1) with
          | none => none
          | some (gap, c) =>
            if !inFlow && decide (c.column < indent) then some (.ofPieces pieces gap c)
            else plainFrom inFlow indent c pieces gap fuel
        else some (.ofPieces pieces gap c)

/-- A plain scalar from here on, in a text with fewer characters left than `fuel`. -/
def plain (inFlow : Bool) (indent : Nat) (c : Cursor) (fuel : Nat) : Option Plain :=
  plainFrom inFlow indent c [] {} fuel

/-! ## Quoted scalars -/

def hexValue (c : Char) : Option Nat :=
  if c.isDigit then some (c.toNat - '0'.toNat)
  else if 'a' ≤ c ∧ c ≤ 'f' then some (c.toNat - 'a'.toNat + 10)
  else if 'A' ≤ c ∧ c ≤ 'F' then some (c.toNat - 'A'.toNat + 10)
  else none

/-- The number that hexadecimal digits stand for. -/
def hexNumber (cs : List Char) : Option Nat :=
  cs.foldlM (fun n c => (hexValue c).map (n * 16 + ·)) 0

/-- A character by its number; none for a number that has no character. -/
def charOf? (n : Nat) : Option Char := if n.isValidChar then some (Char.ofNat n) else none

/-- The characters that a letter behind a backslash stands for. -/
def namedEscapes : List (Char × Char) :=
  [ ('0', '\x00'), ('a', '\x07'), ('b', '\x08'), ('t', '\t'), ('\t', '\t'), ('n', '\n'),
    ('v', '\x0b'), ('f', '\x0c'), ('r', '\r'), ('e', '\x1b'), (' ', ' '), ('\x22', '\x22'),
    ('/', '/'), ('\x5c', '\x5c'), ('N', '\u0085'), ('_', '\u00a0'), ('L', '\u2028'),
    ('P', '\u2029') ]

/-- How many digits follow a letter that names a character by number. -/
def escapeDigits (x : Char) : Option Nat :=
  if x = 'x' then some 2 else if x = 'u' then some 4 else if x = 'U' then some 8 else none

/-- The character of an escape, at the letter behind its backslash. -/
def escaped (c : Cursor) : Option (Char × Cursor) := do
  let x ← c.peek 0
  match escapeDigits x with
  | some n =>
    let digits := c.skip.rest.take n
    if digits.length = n then
      let y ← charOf? (← hexNumber digits)
      pure (y, c.skip.skipN n)
    else none
  | none =>
    let e ← namedEscapes.find? (·.1 = x)
    pure (e.2, c.skip)

/-- Where a word of a quoted scalar stopped. -/
inductive WordEnd where
  | quote
  | gap
  /-- A break that a backslash takes away. -/
  | joined
  deriving DecidableEq

/-- One word of a quoted scalar. -/
def quotedWord (quote : Char) (c : Cursor) (word : List Char) :
    Nat → Option (List Char × WordEnd × Cursor)
  | 0 => none
  | fuel + 1 =>
    let double := quote == '\x22'
    match c.peek 0 with
    | none => none
    | some x =>
      if isBlank x || isBreak x then some (word.reverse, .gap, c)
      else if x == quote then
        if !double && c.sees quote 1 then quotedWord quote (c.skipN 2) (quote :: word) fuel
        else some (word.reverse, .quote, c.skip)
      else if double && x == '\x5c' then
        if c.meets isBreak 1 then some (word.reverse, .joined, c.skip.skipBreak)
        else
          match escaped c.skip with
          | some (y, c) => quotedWord quote c (y :: word) fuel
          | none => none
      else quotedWord quote c.skip (x :: word) fuel

/-- A gap that follows a break taken away: its blanks and later breaks count,
and the break itself does not. -/
def joinedGap (g : Gap) : List Char :=
  if g.broken then g.first ++ g.more else []

/-- A quoted scalar behind the pieces read so far, the last one first. -/
def quotedFrom (quote : Char) (c : Cursor) (pieces : List (List Char)) :
    Nat → Option (List Char × Cursor)
  | 0 => none
  | fuel + 1 =>
    if c.atDocumentMark then none
    else
      match quotedWord quote c [] (fuel + 1) with
      | none => none
      | some (word, .quote, c) => some ((word :: pieces).reverse.flatten, c)
      | some (word, .gap, c) =>
        match Gap.scan 0 c {} (fuel + 1) with
        | some (gap, c) => quotedFrom quote c (gap.text :: word :: pieces) fuel
        | none => none
      | some (word, .joined, c) =>
        match Gap.scan 0 c {} (fuel + 1) with
        | some (gap, c) => quotedFrom quote c (joinedGap gap :: word :: pieces) fuel
        | none => none

/-- A quoted scalar, at its first quote, in a text with fewer characters left
than `fuel`. -/
def quoted (quote : Char) (c : Cursor) (fuel : Nat) : Option (List Char × Cursor) :=
  quotedFrom quote c.skip [] fuel

/-! ## Block scalars -/

/-- What becomes of the breaks at the end of a block scalar. -/
inductive Chomping where
  | strip
  | clip
  | keep
  deriving DecidableEq, Repr

/-- The marks behind a bar or an angle, in either order. -/
structure BlockHeader where
  chomping : Chomping := .clip
  /-- How much further in than its parent the scalar stands. -/
  step : Option Nat := none

def chompingOf (x : Char) : Option Chomping :=
  if x = '+' then some .keep else if x = '-' then some .strip else none

/-- A step of indentation, from 1 to 9. -/
def stepOf (x : Char) : Option Nat :=
  if '1' ≤ x ∧ x ≤ '9' then some (x.toNat - '0'.toNat) else none

def blockHeader (c : Cursor) : Option (BlockHeader × Cursor) :=
  match c.peek 0 with
  | none => some ({}, c)
  | some x =>
    match chompingOf x with
    | some chomping =>
      let c := c.skip
      match c.peek 0 with
      | none => some ({ chomping }, c)
      | some y =>
        if y = '0' then none
        else
          match stepOf y with
          | some n => some ({ chomping, step := some n }, c.skip)
          | none => some ({ chomping }, c)
    | none =>
      if x = '0' then none
      else
        match stepOf x with
        | some n =>
          let c := c.skip
          match (c.peek 0).bind chompingOf with
          | some chomping => some ({ chomping, step := some n }, c.skip)
          | none => some ({ step := some n }, c)
        | none => some ({}, c)

/-- The empty lines from here on: their breaks behind those before, the last
one first, the widest column seen, and the place behind them. Up to `indent`
only spaces count as indentation. -/
def emptyLines (indent : Option Nat) (c : Cursor) (widest : Nat) (breaks : List Char) :
    Nat → Option (List Char × Nat × Cursor)
  | 0 => none
  | fuel + 1 =>
    let spaces := (c.rest.takeWhile (· == ' ')).length
    let c := c.skipN (match indent with
      | some n => min spaces (n - c.column)
      | none => spaces)
    let widest := max widest c.column
    let inside := match indent with
      | some n => decide (c.column < n)
      | none => true
    if inside && c.sees '\t' 0 then none
    else if c.meets isBreak 0 then
      emptyLines indent c.skipBreak widest (c.breakText ++ breaks) fuel
    else some (breaks.reverse, widest, c)

/-- The lines of a block scalar behind the pieces read so far, the last one first. -/
def blockLines (literal : Bool) (indent : Nat) (c : Cursor) (pieces : List (List Char))
    (first more : List Char) (blankBefore : Bool) :
    Nat → Option (List Char × List Char × List Char × Cursor)
  | 0 => none
  | fuel + 1 =>
    if c.column == indent && !c.atEnd then
      let blankHere := c.meets isBlank 0
      let folds := !literal && first == ['\n'] && !blankBefore && !blankHere
      let joined := if folds then (if more.isEmpty then [' '] else []) else first
      let (line, c) := c.takeWhile (!isBreak ·)
      let first := if c.atEnd then [] else c.breakText
      match emptyLines (some indent) c.skipBreak 0 [] (fuel + 1) with
      | none => none
      | some (breaks, _, c) =>
        blockLines literal indent c (line :: more :: joined :: pieces) first breaks blankHere fuel
    else some (pieces.reverse.flatten, first, more, c)

/-- A block scalar, at its bar or angle, in a block at indentation `parent`
(none outside all blocks) and in a text with fewer characters left than `fuel`. -/
def block (literal : Bool) (parent : Option Nat) (c : Cursor) (fuel : Nat) :
    Option (List Char × Cursor) :=
  match blockHeader c.skip with
  | none => none
  | some (header, c) =>
    let c := c.skipBlanks.skipComment
    if !c.breaksAt 0 then none
    else
      let c := c.skipBreak
      let given : Option Nat := header.step.map fun n =>
        match parent with
        | some p => p + n
        | none => n
      match emptyLines given c 0 [] fuel with
      | none => none
      | some (breaks, widest, c) =>
        let least := match parent with
          | some p => p + 1
          | none => 0
        let indent := given.getD (max (max widest least) 1)
        match blockLines literal indent c [] [] breaks false fuel with
        | none => none
        | some (text, first, more, c) =>
          let tail := match header.chomping with
            | .strip => []
            | .clip => first
            | .keep => first ++ more
          some (text ++ tail, c)

end StagedFiles.Yaml
