-- The value of a node by its own looks, where nothing is known of what is
-- wanted. A plain scalar is what its word stands for; a quoted one is a text.
-- A node with a tag of the document's own has no value here.
import StagedFiles.Yaml.Reading
import StagedFiles.Yaml.Word

namespace StagedFiles.Yaml

inductive Content where
  | null
  | bool (b : Bool)
  | count (n : Nat)
  /-- A whole number with a minus sign. -/
  | negative (n : Int)
  | decimal (x : Float)
  | text (s : String)
  | sequence (items : List Content)
  | mapping (entries : List (Content × Content))

/-! ## Tags -/

/-- The name of a tag of the document's own, which starts with its mark. A mark
alone is its own name, and bytes that are no text name nothing. -/
def ownTag? (tag : Option Tag) : Option String :=
  match tag with
  | none => none
  | some t =>
    if t = loneMark then some "!"
    else if t.take 1 = loneMark then String.fromUTF8? ⟨(t.drop 1).toArray⟩
    else none

/-- The full tag of a kind of scalar. -/
def coreTag (kind : String) : Tag := (Node.coreTags ++ kind).toUTF8.toList

/-- The scalar counts as a word when a kind is wanted: it is plain, or it is
literal and carries the tag of that kind. -/
def isWord (tag : Option Tag) (style : Style) (kind : String) : Bool :=
  style == .plain || (style == .literal && tag == some (coreTag kind))

/-- The tag leaves the kind of a scalar open: it is missing, or it has the mark
of the document's own tags. -/
def leavesOpen (tag : Option Tag) : Bool :=
  match tag with
  | none => true
  | some t => t.take 1 == loneMark

namespace Content

/-! ## Scalars -/

/-- The least whole number with a minus sign, one past 63 bits. -/
def least : Int := -0x8000000000000000

/-- The whole number of a word; none when it is one that no content holds. -/
def ofInt (w : String) (n : Int) : Option Content :=
  if w.toList.head? = some '-' then (if least ≤ n then some (.negative n) else none)
  else if n ≤ Word.maxCount then some (.count n.toNat)
  else none

/-- A whole number this far from zero, past 128 bits, is read as a decimal one. -/
def isVast (n : Int) : Bool :=
  0x100000000000000000000000000000000 ≤ n || n < -0x80000000000000000000000000000000

/-- The whole number of a word, if it is one. -/
def int? (w : String) : Option Int := (Word.int? w).filter fun n => !isVast n

/-- What a plain word stands for. -/
def ofWord (w : String) : Option Content :=
  if w = "" ∨ Word.isNull w then some .null
  else
    match Word.bool? w, int? w with
    | some b, _ => some (.bool b)
    | none, some n => ofInt w n
    | none, none =>
      let digits := match w.toList with
        | '-' :: rest | '+' :: rest => rest
        | cs => cs
      if Word.isPadded digits then some (.text w)
      else some (((Word.float? w).map .decimal).getD (.text w))

/-- The value of a scalar under its tag, if it has one. -/
def ofScalar (tag : Option Tag) (w : String) (style : Style) : Option Content :=
  if (ownTag? tag).isSome then none
  else if tag = some (coreTag "bool") then (Word.bool? w).map .bool
  else if tag = some (coreTag "int") then (int? w).bind (ofInt w)
  else if tag = some (coreTag "float") then (Word.float? w).map .decimal
  else if tag = some (coreTag "null") then (if Word.isNull w then some .null else none)
  else if leavesOpen tag && style == .plain then ofWord w
  else some (.text w)

/-! ## Nodes -/

/-- The key and the value of an entry, both read by `read`. -/
def ofEntry (read : Node → Reading Content) (e : Node × Node) : Reading (Content × Content) := do
  let k ← read e.1
  let v ← read e.2
  pure (k, v)

/-- The value of a node whose collections are at most `depth` deep. -/
def ofNode (d : Document) (depth : Nat) (n : Node) : Reading Content := do
  match ← d.follow n, depth with
  | .scalar tag w style, _ => Reading.found (ofScalar tag w style)
  | .sequence tag items, depth + 1 =>
    if (ownTag? tag).isSome then failure
    else pure (.sequence (← items.mapM (ofNode d depth)))
  | .mapping tag entries, depth + 1 =>
    if (ownTag? tag).isSome then failure
    else pure (.mapping (← entries.mapM (ofEntry (ofNode d depth))))
  | _, _ => failure

/-! ## Wanted kinds -/

/-- A counter. -/
def count? : Content → Option Nat
  | .count n => some n
  | .negative 0 => some 0
  | _ => none

/-- A decimal number; a whole one counts too. -/
def decimal? : Content → Option Float
  | .decimal x => some x
  | .count n => some (Float.ofNat n)
  | .negative n => some (if n = 0 then 0.0 else -Float.ofNat n.natAbs)
  | _ => none

end Content

end StagedFiles.Yaml
