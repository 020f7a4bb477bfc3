-- How a vectored read is cut into groups. Each group is then read with one
-- call over its span. A policy only ever closes the open group and starts
-- the next one, so the groups in a row are the extents that came in.
import StagedFiles.Extent

namespace StagedFiles

/-- When a group of extents may grow. -/
inductive Grouping where
  /-- At most this many extents a group; 0 counts as 1. -/
  | fixedCount (maxExtents : Nat)
  /-- A short group grows freely, a longer one while it stays below the
  greatest span and dense enough. -/
  | density (minSpan maxSpan : Nat) (minDensity : Float)

namespace Grouping

/-- The greatest span read in one call, and the default bound of a dense group. -/
def defaultMaxSpan : Nat := 16 * 1024 * 1024

def defaultMinDensity : Float := 0.6

def defaultMaxExtents : Nat := 10

def default : Grouping := .fixedCount defaultMaxExtents

/-- A density within 0 and 1, both included. -/
def isFraction (x : Float) : Bool := 0.0 ≤ x && x ≤ 1.0

/-- The first rule that the thresholds break, if any. -/
def check : Grouping → Except Failure Unit
  | .fixedCount _ => .ok ()
  | .density minSpan maxSpan minDensity =>
    if maxSpan = 0 then .error (.settings .zeroMaxSpan)
    else if maxSpan < minSpan then .error (.settings (.spansCrossed minSpan maxSpan))
    else if !isFraction minDensity then .error (.settings (.densityOutside minDensity.toBits))
    else .ok ()

/-! ## Groups of a fixed count -/

/-- The list in runs of `n + 1`, the last one as long as what is left. -/
def chunks (n : Nat) (es : List Extent) : List (List Extent) :=
  match es with
  | [] => []
  | e :: rest => (e :: rest.take n) :: chunks n (rest.drop n)
termination_by es.length
decreasing_by
  simp only [List.length_drop, List.length_cons]
  omega

/-! ## Dense groups -/

/-- The group may grow by the next extent. -/
def accepts (minSpan maxSpan : Nat) (minDensity : Float) (group : List Extent) (next : Extent) :
    Bool :=
  let span := max (Extent.highest group) next.stop - min (Extent.lowest group) next.start
  if span < minSpan then true
  else if maxSpan ≤ span then false
  else if span = 0 then true
  else
    let held := Float.ofNat (Extent.bytes group + next.len)
    minDensity < held / Float.ofNat span

/-- The groups of the rest, with the open group in front. A group is open
from its first extent on. -/
def grow (accept : List Extent → Extent → Bool) (group : List Extent) :
    List Extent → List (List Extent)
  | [] => [group]
  | e :: rest =>
    if accept group e then grow accept (group ++ [e]) rest
    else group :: grow accept [e] rest

/-! ## The groups of a policy -/

def groups (policy : Grouping) (es : List Extent) : List (List Extent) :=
  match policy with
  | .fixedCount n => chunks (max n 1 - 1) es
  | .density minSpan maxSpan minDensity =>
    match es with
    | [] => []
    | e :: rest => grow (accepts minSpan maxSpan minDensity) [e] rest

end Grouping

end StagedFiles
