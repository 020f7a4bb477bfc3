-- Settings from a document. Every field may be left out and then has its
-- default; a field that is not known is passed over, and one that is given
-- twice is refused. An empty document is all defaults.
import StagedFiles.Bytes
import StagedFiles.Settings
import StagedFiles.Yaml.Content

namespace StagedFiles.Settings.Document

open Yaml

/-! ## Wanted kinds -/

/-- The text of a scalar in any form. -/
def readText (d : Yaml.Document) (n : Node) : Reading String := do
  match ← d.follow n with
  | .scalar _ w _ => pure w
  | _ => failure

def readBool (d : Yaml.Document) (n : Node) : Reading Bool := do
  match ← d.follow n with
  | .scalar tag w style => Reading.found (if isWord tag style "bool" then Word.bool? w else none)
  | _ => failure

def readCount (d : Yaml.Document) (n : Node) : Reading Nat := do
  match ← d.follow n with
  | .scalar tag w style => Reading.found (if isWord tag style "int" then Word.count? w else none)
  | _ => failure

/-- The kind whose word this is, exactly. -/
def adapterNamed (w : String) : Option AdapterKind :=
  [AdapterKind.sync, AdapterKind.async].find? fun k => k.word = w

/-- The kind of a scalar: its word, or its own tag with nothing behind it. -/
def adapterOf (tag : Option Tag) (w : String) (style : Style) : Option AdapterKind :=
  match ownTag? tag with
  | some name => if style = .plain ∧ (w = "" ∨ Word.isNull w) then adapterNamed name else none
  | none => adapterNamed w

def readAdapter (d : Yaml.Document) (n : Node) : Reading AdapterKind := do
  match ← d.follow n with
  | .scalar tag w style => Reading.found (adapterOf tag w style)
  | _ => failure

/-! ## Grouping -/

/-- The fields of one policy, by place. -/
structure Fields where
  given : List (Nat × Content) := []

/-- The value of the field at a place. -/
def Fields.value? (f : Fields) (i : Nat) : Option Content := (f.given.find? (·.1 = i)).map (·.2)

/-- A field that must not be given yet. -/
def Fields.add (f : Fields) (i : Nat) (c : Content) : Option Fields :=
  if (f.value? i).isSome then none else some ⟨f.given ++ [(i, c)]⟩

/-- A policy and the names of its fields in order. -/
inductive Policy where
  | fixedCount
  | density
  deriving DecidableEq, Repr

def Policy.fields : Policy → List String
  | .fixedCount => ["max_extents"]
  | .density => ["min_span", "max_span", "min_density"]

def policyNamed (w : String) : Option Policy :=
  if w = "fixed_count" then some .fixedCount else if w = "density" then some .density else none

/-- The value of a field, or its default when it is left out. -/
def fieldOr {α : Type} (f : Fields) (i : Nat) (read : Content → Option α) (default : α) :
    Option α :=
  match f.value? i with
  | none => some default
  | some c => read c

def Policy.grouping (p : Policy) (f : Fields) : Option Grouping :=
  match p with
  | .fixedCount => (fieldOr f 0 Content.count? Grouping.defaultMaxExtents).map .fixedCount
  | .density => do
    let minSpan ← fieldOr f 0 Content.count? 0
    let maxSpan ← fieldOr f 1 Content.count? Grouping.defaultMaxSpan
    let minDensity ← fieldOr f 2 Content.decimal? Grouping.defaultMinDensity
    pure (.density minSpan maxSpan minDensity)

/-- A field by its name or by its place. -/
def Policy.place? (p : Policy) : Content → Option Nat
  | .text name => some (p.fields.idxOf name)
  | .count n => some n
  | _ => none

/-- The fields that a mapping gives. Keys past the last field are passed over. -/
def Policy.fieldsOf (p : Policy) : List (Content × Content) → Fields → Option Fields
  | [], f => some f
  | (k, v) :: es, f => do
    let i ← p.place? k
    let f ← if i < p.fields.length then f.add i v else some f
    p.fieldsOf es f

/-- The key under which a mapping names its policy. -/
def policyKey : String := "policy"

/-- The deepest that collections of a document go. -/
def maxDepth : Nat := 128

/-- How deep collections go inside the grouping, which stands two deep itself. -/
def groupingDepth : Nat := maxDepth - 2

/-- A value inside the grouping. -/
def readContent (d : Yaml.Document) (n : Node) : Reading Content :=
  Content.ofNode d groupingDepth n

/-- A policy by its word. -/
def readPolicy (d : Yaml.Document) (n : Node) : Reading Policy := do
  Reading.found (policyNamed (← readText d n))

/-- The policy that a mapping names, and its other entries. -/
def splitPolicy (d : Yaml.Document) :
    List (Node × Node) → Reading (Option Policy × List (Content × Content))
  | [] => pure (none, [])
  | (k, v) :: es => do
    let key ← readContent d k
    match key with
    | .text name =>
      if name = policyKey then
        let p ← readPolicy d v
        let (other, rest) ← splitPolicy d es
        if other.isSome then failure
        pure (some p, rest)
      else
        let c ← readContent d v
        let (p, rest) ← splitPolicy d es
        pure (p, (key, c) :: rest)
    | _ =>
      let c ← readContent d v
      let (p, rest) ← splitPolicy d es
      pure (p, (key, c) :: rest)

/-- The grouping of a policy and the entries beside it. -/
def groupingOfEntries (p : Option Policy) (rest : List (Content × Content)) : Option Grouping := do
  let p ← p
  p.grouping (← p.fieldsOf rest {})

/-- The grouping of a policy and its fields in order. -/
def groupingOfItems (p : Policy) (cs : List Content) : Option Grouping :=
  if p.fields.length < cs.length then none
  else p.grouping ⟨(List.range cs.length).zip cs⟩

/-- A grouping as a mapping that names its policy, or as a sequence that starts
with the policy and goes on with its fields in order. -/
def readGrouping (d : Yaml.Document) (n : Node) : Reading Grouping := do
  match ← d.follow n with
  | .mapping tag entries =>
    if (ownTag? tag).isSome then failure
    let (p, rest) ← splitPolicy d entries
    Reading.found (groupingOfEntries p rest)
  | .sequence tag (first :: items) =>
    if (ownTag? tag).isSome then failure
    let p ← readPolicy d first
    Reading.found (groupingOfItems p (← items.mapM (readContent d)))
  | _ => failure

/-! ## The settings -/

/-- The fields of settings. -/
inductive Field where
  | enabled | bufferSize | adapter | grouping | waitWarnMs | closeWaitMs
  deriving DecidableEq, Repr

def Field.name : Field → String
  | .enabled => "enabled"
  | .bufferSize => "buffer_size"
  | .adapter => "adapter"
  | .grouping => "readv"
  | .waitWarnMs => "aio_wait_warn_ms"
  | .closeWaitMs => "close_wait_ms"

def Field.all : List Field :=
  [.enabled, .bufferSize, .adapter, .grouping, .waitWarnMs, .closeWaitMs]

/-- The settings with one field read from a node. -/
def Field.read (d : Yaml.Document) (field : Field) (n : Node) (s : Settings) :
    Reading Settings :=
  match field with
  | .enabled => return { s with enabled := ← readBool d n }
  | .bufferSize => return { s with bufferSize := ← readCount d n }
  | .adapter => return { s with adapter := ← readAdapter d n }
  | .grouping => return { s with grouping := ← readGrouping d n }
  | .waitWarnMs => return { s with waitWarnMs := ← readCount d n }
  | .closeWaitMs => return { s with closeWaitMs := ← readCount d n }

/-- The settings with the fields of a mapping, after those in `seen`. What
stands under an unknown name is not read. -/
def readEntries (d : Yaml.Document) (seen : List Field) (s : Settings) :
    List (Node × Node) → Reading Settings
  | [] => pure s
  | (k, v) :: es => do
    let name ← readText d k
    match Field.all.find? (·.name = name) with
    | none => readEntries d seen s es
    | some field =>
      if field ∈ seen then failure
      readEntries d (field :: seen) (← field.read d v s) es

/-- The settings of a document; one that holds nothing is all defaults. -/
def readSettings (d : Yaml.Document) : Reading Settings :=
  match d.root with
  | none => pure {}
  | some (.mapping _ entries) => readEntries d [] {} entries
  | some (.scalar _ "" .plain) => pure {}
  | some _ => failure

end StagedFiles.Settings.Document

namespace StagedFiles.Settings

/-- The settings of a text, unchecked. -/
def ofText (text : String) : Except Failure Settings :=
  match (Yaml.Document.ofText? text).bind fun d => d.read? (Document.readSettings d) with
  | some s => .ok s
  | none => .error (.settings .malformed)

/-- The settings of a text that break no rule. -/
def ofTextChecked (text : String) : Except Failure Settings :=
  match ofText text with
  | .error f => .error f
  | .ok s =>
    match s.check with
    | .error f => .error f
    | .ok () => .ok s

/-- Why a file of settings cannot be read as text. -/
def notText : String := "stream did not contain valid UTF-8"

/-- The settings of a file: its bytes, or why they could not be had. -/
def ofFile (path : String) (bytes : Except SystemFault Bytes) : Except Failure Settings :=
  match bytes with
  | .error e => .error (.settings (.unreadable path e.text))
  | .ok bytes =>
    match String.fromUTF8? ⟨bytes.toArray⟩ with
    | none => .error (.settings (.unreadable path notText))
    | some text => ofTextChecked text

end StagedFiles.Settings
