-- Reading a document. Aliases may repeat a node over and over, so the number
-- that a reader follows is bounded: by a hundred for every part of the document.
import StagedFiles.Yaml.Node

namespace StagedFiles.Yaml

/-! ## The parts of a document -/

mutual

/-- The parts of a node: each scalar and alias in it, and the two ends of each
collection. -/
def Node.parts : Node → Nat
  | .scalar _ _ _ | .alias _ => 1
  | .sequence _ items => itemParts items + 2
  | .mapping _ entries => entryParts entries + 2

def itemParts : List Node → Nat
  | [] => 0
  | n :: ns => n.parts + itemParts ns

def entryParts : List (Node × Node) → Nat
  | [] => 0
  | (k, v) :: es => k.parts + v.parts + entryParts es

end

/-- How many aliases may be followed for each part of a document. -/
def aliasesPerPart : Nat := 100

/-- How many aliases a reader of the document may follow. -/
def Document.aliasLimit (d : Document) : Nat :=
  aliasesPerPart * (d.root.map Node.parts).getD 1

/-! ## Readers -/

/-- A reader knows how many aliases it may still follow, and may fail. -/
abbrev Reading := StateT Nat Option

/-- What was found, if anything. -/
def Reading.found {α : Type} (x : Option α) : Reading α := fun left => x.map (·, left)

/-- The node that is marked last with a number. -/
def Document.marked? (d : Document) (mark : Nat) : Option Node :=
  (d.marks.find? (·.1 = mark)).map (·.2)

/-- The node itself, or the one that an alias stands for. -/
def Document.follow (d : Document) (n : Node) : Reading Node := fun left =>
  match n with
  | .alias mark =>
    match left with
    | 0 => none
    | left + 1 => (d.marked? mark).map (·, left)
  | n => some (n, left)

/-- What a reader finds in a document. -/
def Document.read? {α : Type} (d : Document) (r : Reading α) : Option α :=
  (r d.aliasLimit).map (·.1)

end StagedFiles.Yaml
