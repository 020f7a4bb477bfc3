-- The nodes of a document. An anchor gives its node a number, the count of
-- the names given before it, and a name stands for the number it was given
-- last. A name given again adds none to the count, so two names may share a
-- number. An alias keeps the number of its name and stands for the node that
-- is marked with it last in the whole document.
import StagedFiles.Yaml.Tokens
import StagedFiles.Table

namespace StagedFiles.Yaml

inductive Node where
  | scalar (tag : Option Tag) (text : String) (style : Style)
  | sequence (tag : Option Tag) (items : List Node)
  | mapping (tag : Option Tag) (entries : List (Node × Node))
  | alias (mark : Nat)

namespace Node

/-- What stands where nothing was written. -/
def empty : Node := .scalar none "" .plain

/-! ## Handles and anchors -/

/-- The expansions of tag handles, those of the document first. -/
abbrev Handles := List (String × Tag)

/-- What the tags of the core kinds start with. -/
def coreTags : String := "tag:yaml.org,2002:"

def defaultHandles : Handles := [("!", loneMark), ("!!", coreTags.toUTF8.toList)]

/-- A tag in full; none when its handle is not known. -/
def fullTag (handles : Handles) (handle : String) (suffix : Tag) : Option Tag :=
  if handle = "" then some suffix
  else (handles.find? (·.1 = handle)).map fun e => e.2 ++ suffix

/-- The anchors passed so far. -/
structure Anchors where
  /-- The number that each name was given last. -/
  numbers : Table String Nat := {}
  /-- The complete nodes with an anchor by their numbers, the one that started
  last first. -/
  marks : List (Nat × Node) := []

namespace Anchors

/-- Gives a name the count of the names so far. -/
def mark (a : Anchors) (name : Option String) : Anchors :=
  match name with
  | none => a
  | some n => { a with numbers := a.numbers.insert n a.numbers.size }

/-- A node that was marked when `before` was passed is complete. It started
before the nodes that were marked since. -/
def complete (a before : Anchors) (name : Option String) (n : Node) : Anchors :=
  match name with
  | none => a
  | some _ =>
    let inside := a.marks.take (a.marks.length - before.marks.length)
    { a with marks := inside ++ (before.numbers.size, n) :: before.marks }

/-- An alias of a name; none when the name was not given. -/
def alias? (a : Anchors) (name : String) : Option Node := (a.numbers.find? name).map .alias

end Anchors

/-! ## Properties -/

/-- The anchor and the tag in front of a node. -/
structure Properties where
  anchor : Option String := none
  tag : Option Tag := none

/-- Properties in either order, each at most once. -/
def properties (handles : Handles) (ts : List Token) : Option (Properties × List Token) :=
  match ts with
  | .anchor a :: .tag h s :: rest => do
    let t ← fullTag handles h s
    pure (⟨some a, some t⟩, rest)
  | .tag h s :: .anchor a :: rest => do
    let t ← fullTag handles h s
    pure (⟨some a, some t⟩, rest)
  | .anchor a :: rest => some (⟨some a, none⟩, rest)
  | .tag h s :: rest => do
    let t ← fullTag handles h s
    pure (⟨none, some t⟩, rest)
  | ts => some ({}, ts)

/-! ## Nodes from tokens -/

/-- Where a node stands. -/
structure Place where
  /-- Blocks are allowed. -/
  block : Bool
  /-- A sequence may start at the column of its parent. -/
  level : Bool

def Place.flow : Place := ⟨false, false⟩

def Place.inBlock : Place := ⟨true, false⟩

/-- The next token, if any, is one of these. -/
def nextIs (ts : List Token) (those : List Token) : Bool :=
  match ts with
  | [] => false
  | t :: _ => those.contains t

/-- What is left after a node, and the anchors then. -/
abbrev Left := List Token × Anchors

mutual

/-- One node. -/
def node (handles : Handles) (place : Place) (ts : List Token) (a : Anchors) :
    Nat → Option (Node × Left)
  | 0 => none
  | fuel + 1 =>
    match ts with
    | .alias name :: rest => do
      let n ← a.alias? name
      pure (n, rest, a)
    | ts => do
      let (p, rest) ← properties handles ts
      let (n, rest, after) ← content handles place p rest (a.mark p.anchor) fuel
      pure (n, rest, after.complete a p.anchor n)

/-- A node behind its properties. -/
def content (handles : Handles) (place : Place) (p : Properties) (ts : List Token) (a : Anchors) :
    Nat → Option (Node × Left)
  | 0 => none
  | fuel + 1 =>
    match ts with
    | .scalar text style :: rest => some (.scalar p.tag text style, rest, a)
    | .flowSequence :: rest => do
      let (items, left) ← flowItems handles true rest a fuel
      pure (.sequence p.tag items, left)
    | .flowMapping :: rest => do
      let (entries, left) ← flowEntries handles true rest a fuel
      pure (.mapping p.tag entries, left)
    | .entry :: rest =>
      if place.level then do
        let (items, left) ← levelItems handles (.entry :: rest) a fuel
        pure (.sequence p.tag items, left)
      else bare p (.entry :: rest) a
    | .blockSequence :: rest =>
      if place.block then do
        let (items, left) ← blockItems handles rest a fuel
        pure (.sequence p.tag items, left)
      else bare p (.blockSequence :: rest) a
    | .blockMapping :: rest =>
      if place.block then do
        let (entries, left) ← blockEntries handles rest a fuel
        pure (.mapping p.tag entries, left)
      else bare p (.blockMapping :: rest) a
    | ts => bare p ts a

/-- Properties with nothing behind them mark an empty scalar. -/
def bare (p : Properties) (ts : List Token) (a : Anchors) : Option (Node × Left) :=
  if p.anchor.isSome || p.tag.isSome then
    some (.scalar p.tag "" .plain, ts, a)
  else none

/-- A node, or an empty one before any of these tokens. -/
def nodeUnless (handles : Handles) (place : Place) (stops : List Token) (ts : List Token)
    (a : Anchors) : Nat → Option (Node × Left)
  | 0 => none
  | fuel + 1 => if nextIs ts stops then some (empty, ts, a) else node handles place ts a fuel

/-- The items of a block sequence. -/
def blockItems (handles : Handles) (ts : List Token) (a : Anchors) :
    Nat → Option (List Node × Left)
  | 0 => none
  | fuel + 1 =>
    match ts with
    | .entry :: rest => do
      let (n, rest, a) ← nodeUnless handles .inBlock [.entry, .blockEnd] rest a fuel
      let (ns, left) ← blockItems handles rest a fuel
      pure (n :: ns, left)
    | .blockEnd :: rest => some ([], rest, a)
    | _ => none

/-- The items of a sequence at the column of its parent. -/
def levelItems (handles : Handles) (ts : List Token) (a : Anchors) :
    Nat → Option (List Node × Left)
  | 0 => none
  | fuel + 1 =>
    match ts with
    | .entry :: rest => do
      let (n, rest, a) ← nodeUnless handles .inBlock [.entry, .key, .value, .blockEnd] rest a fuel
      let (ns, left) ← levelItems handles rest a fuel
      pure (n :: ns, left)
    | ts => some ([], ts, a)

/-- The entries of a block mapping. -/
def blockEntries (handles : Handles) (ts : List Token) (a : Anchors) :
    Nat → Option (List (Node × Node) × Left)
  | 0 => none
  | fuel + 1 =>
    match ts with
    | .key :: rest => do
      let stops : List Token := [.key, .value, .blockEnd]
      let (k, rest, a) ← nodeUnless handles ⟨true, true⟩ stops rest a fuel
      let (v, rest, a) ←
        match rest with
        | .value :: rest => nodeUnless handles ⟨true, true⟩ stops rest a fuel
        | rest => some (empty, rest, a)
      let (es, left) ← blockEntries handles rest a fuel
      pure ((k, v) :: es, left)
    | .blockEnd :: rest => some ([], rest, a)
    | _ => none

/-- The items of a sequence in brackets. A pair among them is a mapping of its own. -/
def flowItems (handles : Handles) (first : Bool) (ts : List Token) (a : Anchors) :
    Nat → Option (List Node × Left)
  | 0 => none
  | fuel + 1 => do
    if nextIs ts [.flowSequenceEnd] then some ([], ts.drop 1, a)
    else
      let ts ← if first then some ts
        else if nextIs ts [.comma] then some (ts.drop 1) else none
      match ts with
      | .flowSequenceEnd :: rest => some ([], rest, a)
      | .key :: rest => do
        let (k, v, rest, a) ← flowPair handles rest a fuel
        let (ns, left) ← flowItems handles false rest a fuel
        pure (.mapping none [(k, v)] :: ns, left)
      | ts => do
        let (n, rest, a) ← node handles .flow ts a fuel
        let (ns, left) ← flowItems handles false rest a fuel
        pure (n :: ns, left)

/-- A pair in a sequence, behind its key token. Where the key is empty, the
token that shows it is taken with it. -/
def flowPair (handles : Handles) (ts : List Token) (a : Anchors) :
    Nat → Option (Node × Node × Left)
  | 0 => none
  | fuel + 1 => do
    let (k, rest, a) ←
      if nextIs ts [.value, .comma, .flowSequenceEnd] then some (empty, ts.drop 1, a)
      else node handles .flow ts a fuel
    match rest with
    | .value :: rest => do
      let (v, left) ← nodeUnless handles .flow [.comma, .flowSequenceEnd] rest a fuel
      pure (k, v, left)
    | rest => some (k, empty, rest, a)

/-- The entries of a mapping in braces. -/
def flowEntries (handles : Handles) (first : Bool) (ts : List Token) (a : Anchors) :
    Nat → Option (List (Node × Node) × Left)
  | 0 => none
  | fuel + 1 => do
    if nextIs ts [.flowMappingEnd] then some ([], ts.drop 1, a)
    else
      let ts ← if first then some ts
        else if nextIs ts [.comma] then some (ts.drop 1) else none
      match ts with
      | .flowMappingEnd :: rest => some ([], rest, a)
      | .key :: rest => do
        let stops : List Token := [.value, .comma, .flowMappingEnd]
        let (k, rest, a) ← nodeUnless handles .flow stops rest a fuel
        let (v, rest, a) ←
          match rest with
          | .value :: rest => nodeUnless handles .flow [.comma, .flowMappingEnd] rest a fuel
          | rest => some (empty, rest, a)
        let (es, left) ← flowEntries handles false rest a fuel
        pure ((k, v) :: es, left)
      | ts => do
        let (k, rest, a) ← node handles .flow ts a fuel
        let (es, left) ← flowEntries handles false rest a fuel
        pure ((k, empty) :: es, left)

end

/-! ## Documents -/

/-- The handles of a document, from the directives in front of it. A version
is given at most once and is 1.1 or 1.2, and a handle is given at most once. -/
def directives (handles : Handles) (versioned : Bool) : List Token → Option (Handles × List Token)
  | .version major minor :: rest =>
    if versioned ∨ major ≠ 1 ∨ (minor ≠ 1 ∧ minor ≠ 2) then none
    else directives handles true rest
  | .tagHandle handle expansion :: rest =>
    if handles.any (·.1 = handle) then none
    else directives (handles ++ [(handle, expansion)]) versioned rest
  | ts => some (handles, ts)

/-- Tokens that end a document whose content has not started. -/
def endsBare (ts : List Token) : Bool :=
  match ts with
  | [] | .documentStart :: _ | .documentEnd :: _ | .version _ _ :: _ | .tagHandle _ _ :: _ => true
  | _ => false

/-- A node and the anchors of a document, behind its start. -/
def documentContent (handles : Handles) (ts : List Token) : Option (Node × Left) :=
  if endsBare ts then some (empty, ts, {})
  else node handles .inBlock ts {} (4 * ts.length + 4)

end Node

/-- A text as one document. -/
structure Document where
  /-- None when the text holds no document at all. -/
  root : Option Node
  /-- The nodes with an anchor by their numbers, last one first. -/
  marks : List (Nat × Node) := []

namespace Document

open Node

/-- The document that a text is; none when the text is not well formed or holds
a second one. -/
def ofText? (text : String) : Option Document := do
  let ts ← tokens? text
  if ts.isEmpty then pure { root := none }
  else
    let (own, rest) ← directives [] false ts
    let handles := own ++ defaultHandles
    let (n, rest, a) ←
      match rest with
      | .documentStart :: rest => documentContent handles rest
      | rest =>
        if rest.length = ts.length then node handles .inBlock rest {} (4 * rest.length + 4)
        else none
    if (rest.dropWhile (· = .documentEnd)).isEmpty then pure { root := some n, marks := a.marks }
    else none

end Document

end StagedFiles.Yaml
