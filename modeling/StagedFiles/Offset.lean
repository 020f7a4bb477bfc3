-- Offsets into a file are 64-bit words. A range ends at a word or is refused
-- before anything moves.
import StagedFiles.Failure

namespace StagedFiles.Offset

/-- The last offset. -/
def last : Nat := 0xFFFFFFFFFFFFFFFF

/-- The end of a range, held at the last offset. -/
def clampedEnd (start len : Nat) : Nat := min (start + len) last

/-- The end of a range, or a refusal when it lies past the last offset. -/
def rangeEnd (start len : Nat) : Except Failure Nat :=
  if start + len ≤ last then .ok (start + len)
  else .error (.invalidArgument (.pastLastOffset len start))

theorem rangeEnd_eq_ok_iff {start len e : Nat} :
    rangeEnd start len = .ok e ↔ start + len ≤ last ∧ e = start + len := by
  unfold rangeEnd
  by_cases h : start + len ≤ last
  · simp [h, eq_comm]
  · simp [h]

theorem rangeEnd_eq_error_iff {start len : Nat} {f : Failure} :
    rangeEnd start len = .error f ↔
      last < start + len ∧ f = .invalidArgument (.pastLastOffset len start) := by
  unfold rangeEnd
  split
  · simp; omega
  · rename_i h; simp [eq_comm]; omega

theorem clampedEnd_of_le {start len : Nat} (h : start + len ≤ last) :
    clampedEnd start len = start + len := by
  simp [clampedEnd, Nat.min_eq_left h]

end StagedFiles.Offset
