-- Extents: the ranges that one vectored read asks for. A list of extents has
-- a span, from its lowest start to its highest stop, whatever their order.
import StagedFiles.Offset

namespace StagedFiles

/-- `len` bytes of a file from `start` on. -/
structure Extent where
  start : Nat
  len : Nat
  deriving DecidableEq, Repr

namespace Extent

/-- One past the last byte, held at the last offset. -/
def stop (e : Extent) : Nat := Offset.clampedEnd e.start e.len

/-! ## The shape of a list of extents -/

/-- The lowest start, 0 for no extents. -/
def lowest : List Extent → Nat
  | [] => 0
  | e :: es => es.foldl (fun m x => min m x.start) e.start

/-- The highest stop, 0 for no extents. -/
def highest (es : List Extent) : Nat := es.foldl (fun m x => max m x.stop) 0

/-- The distance from the lowest start to the highest stop. -/
def span (es : List Extent) : Nat := highest es - lowest es

/-- The sum of the lengths; a byte in two extents counts twice. -/
def bytes : List Extent → Nat
  | [] => 0
  | e :: es => e.len + bytes es

@[simp] theorem bytes_nil : bytes [] = 0 := rfl

@[simp] theorem bytes_cons (e : Extent) (es : List Extent) : bytes (e :: es) = e.len + bytes es := rfl

@[simp] theorem bytes_append (a b : List Extent) : bytes (a ++ b) = bytes a + bytes b := by
  induction a with
  | nil => exact (Nat.zero_add _).symm
  | cons e es ih =>
    rw [List.cons_append, bytes_cons, bytes_cons, ih, Nat.add_assoc]

/-- One more extent at the end can only lower the lowest start. -/
theorem lowest_append_singleton (e : Extent) (es : List Extent) (x : Extent) :
    lowest (e :: es ++ [x]) = min (lowest (e :: es)) x.start := by
  simp [lowest, List.foldl_append]

/-- One more extent at the end can only raise the highest stop. -/
theorem highest_append_singleton (es : List Extent) (x : Extent) :
    highest (es ++ [x]) = max (highest es) x.stop := by
  simp [highest, List.foldl_append]

end Extent

end StagedFiles
