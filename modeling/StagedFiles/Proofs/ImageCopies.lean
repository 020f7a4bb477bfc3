-- Copies out of the image of a staging buffer, whatever was done to the buffer before. A
-- copy stays inside the bytes held, it fills the front of its target and nothing behind it,
-- and it fills the whole target exactly when the image covers the range.
import StagedFiles.Proofs.GuardedSteps

namespace StagedFiles

/-! ## Changes of a buffer -/

/-- What is done to a buffer through its setters and through its region. -/
inductive BufferChange where
  | setLength (n : Nat)
  | setStart (offset : Nat)
  | setValid (v : Bool)
  | invalidate
  /-- Data laid over the region from a position on. -/
  | lay (i : Nat) (d : Bytes)
  deriving DecidableEq, Repr

namespace StagingBuffer

/-- The buffer after a change. A length past the region is refused, and no data comes to lie
past it: neither changes anything. -/
def change (b : StagingBuffer) : BufferChange → StagingBuffer
  | .setLength n => match b.setLength n with
    | .ok b' => b'
    | .error _ => b
  | .setStart offset => { b with start := offset }
  | .setValid v => { b with valid := v }
  | .invalidate => b.invalidate
  | .lay i d => if i + d.length ≤ b.capacity then b.poke i d else b

def changes (b : StagingBuffer) (cs : List BufferChange) : StagingBuffer := cs.foldl change b

/-- No change moves the end of the region. -/
theorem capacity_change (b : StagingBuffer) (c : BufferChange) :
    (b.change c).capacity = b.capacity := by
  cases c with
  | setLength n =>
    simp only [change, setLength]
    by_cases h : n ≤ b.capacity
    · simp [h]
    · simp [h]
  | lay i d =>
    simp only [change]
    split
    · simp [poke]
    · simp
  | setStart offset => simp [change]
  | setValid v => simp [change]
  | invalidate => simp [change, invalidate]

theorem capacity_changes (b : StagingBuffer) (cs : List BufferChange) :
    (b.changes cs).capacity = b.capacity := by
  induction cs generalizing b with
  | nil => simp [changes]
  | cons c cs ih =>
    have hrest := ih (b.change c)
    rw [capacity_change] at hrest
    simpa [changes] using hrest

/-! ## What the image holds -/

/-- The image is valid and has the byte at an offset. Its end is not held at the last offset
here. -/
def Holds (b : StagingBuffer) (offset : Nat) : Prop :=
  b.valid = true ∧ b.start ≤ offset ∧ offset < b.start + b.len

/-- Below the last offset the end that is held there leaves out no byte. -/
theorem holds_iff {b : StagingBuffer} {offset : Nat} (h : offset < Offset.last) :
    b.Holds offset ↔ b.valid = true ∧ b.start ≤ offset ∧ offset < b.stop := by
  unfold Holds stop Offset.clampedEnd
  constructor
  · rintro ⟨hvalid, hle, hlt⟩
    exact ⟨hvalid, hle, by omega⟩
  · rintro ⟨hvalid, hle, hlt⟩
    exact ⟨hvalid, hle, by omega⟩

/-- A range is covered when its first byte is held, and the bytes held from there on are
no fewer than its own. -/
theorem covers_iff {b : StagingBuffer} {offset len : Nat} (hlen : 1 ≤ len)
    (hlast : offset + len ≤ Offset.last) :
    b.covers offset len = true ↔ b.Holds offset ∧ len ≤ b.len - (offset - b.start) := by
  unfold covers Holds stop Offset.clampedEnd
  rw [Bool.and_eq_true, decide_eq_true_eq]
  constructor
  · rintro ⟨hvalid, hle, _, hstop⟩
    exact ⟨⟨hvalid, hle, by omega⟩, by omega⟩
  · rintro ⟨⟨hvalid, hle, hlt⟩, hroom⟩
    exact ⟨hvalid, hle, hlast, by omega⟩

end StagingBuffer

/-! ## A copy -/

namespace Guarded

/-- Copies the image to the front of a target and counts the bytes. What it takes is to lie
inside the bytes held, not only inside the region. -/
def copyInto (b : StagingBuffer) (offset : Nat) (target : Bytes) : Guarded (Nat × Bytes) :=
  if b.valid ∧ b.start ≤ offset ∧ offset < b.stop then do
    let start ← minus offset b.start
    let rest ← minus b.len start
    let n := min target.length rest
    let stop ← plus start n
    copy ⟨0, n, target.length⟩ ⟨start, stop, b.len⟩
    return (n, Bytes.overlay target 0 (Bytes.slice b.raw start n))
  else return (0, target)

variable {b : StagingBuffer} {offset : Nat} {target : Bytes}

theorem copyInto_of_not_holds (hlast : offset < Offset.last) (h : ¬ b.Holds offset) :
    copyInto b offset target = .ok (0, target) := by
  rw [StagingBuffer.holds_iff hlast] at h
  unfold copyInto
  rw [if_neg h]
  rfl

/-- No guard stops a copy. -/
theorem copyInto_of_holds (hlast : offset + target.length ≤ Offset.last) (h : b.Holds offset)
    (hne : target ≠ []) :
    let n := min target.length (b.len - (offset - b.start))
    copyInto b offset target =
      .ok (n, Bytes.overlay target 0 (Bytes.slice b.raw (offset - b.start) n)) := by
  intro n
  have hpos := List.length_pos_iff.mpr hne
  have hin := (StagingBuffer.holds_iff (by omega)).mp h
  obtain ⟨_, hle, hlt⟩ := h
  have hstart : offset - b.start ≤ b.len := by omega
  have htarget : n ≤ target.length := Nat.min_le_left ..
  have hrest : n ≤ b.len - (offset - b.start) := Nat.min_le_right ..
  unfold copyInto
  rw [if_pos hin, minus_of_le hle, ok_bind, minus_of_le hstart, ok_bind]
  dsimp only
  rw [plus_of_le (by omega), ok_bind, copy_of_slices, ok_bind]
  · simp [n, pure, Except.pure]
  · exact slice_of_le (Nat.zero_le _) htarget
  · apply slice_of_le
    · simp
    · simp only
      omega
  · simp only
    omega

end Guarded

/-! ## Copies and the range covered -/

/-- Data laid at the front of a run has the rest of the run behind it. -/
theorem Bytes.overlay_front (b d : Bytes) : overlay b 0 d = d ++ b.drop d.length := by
  simp [overlay, resize]

/-- A piece of a front. -/
theorem Bytes.slice_take (b : Bytes) (m i n : Nat) :
    slice (b.take m) i n = slice b i (min n (m - i)) := by
  simp only [slice, List.drop_take, List.take_take]

namespace StagingBuffer

/-- What a copy out of an image comes to: the bytes counted, and the target after it. -/
structure Copied (b : StagingBuffer) (offset : Nat) (target : Bytes) (n : Nat) (after : Bytes) :
    Prop where
  /-- The whole target is filled exactly when the image covers the range. -/
  filled : b.covers offset target.length = true ↔ n = target.length
  nothing : n = 0 ↔ ¬ b.Holds offset
  /-- No byte behind the ones held is looked at. -/
  inside : n ≠ 0 → b.start ≤ offset ∧ offset - b.start + n ≤ b.len
  bytes : after.take n = Bytes.slice b.raw (offset - b.start) n
  rest : after.drop n = target.drop n
  length : after.length = target.length
  /-- Without guards it is the same bytes. -/
  unguarded : b.copyOut offset target.length = after.take n

variable {b : StagingBuffer} {offset : Nat} {target : Bytes}

theorem copied_of_not_holds (hne : target ≠ []) (hlast : offset + target.length ≤ Offset.last)
    (h : ¬ b.Holds offset) : Copied b offset target 0 target := by
  have hpos := List.length_pos_iff.mpr hne
  have hbelow : offset < Offset.last := by omega
  refine ⟨?_, by simp [h], by simp, by simp [Bytes.slice], by simp, by simp, ?_⟩
  · rw [covers_iff hpos hlast]
    constructor
    · intro hcovers
      exact absurd hcovers.1 h
    · intro hnone
      omega
  · rw [holds_iff hbelow] at h
    rw [copyOut_eq, if_neg h]
    simp

theorem copied_of_holds (hne : target ≠ []) (hlast : offset + target.length ≤ Offset.last)
    (h : b.Holds offset) :
    let n := min target.length (b.len - (offset - b.start))
    Copied b offset target n
      (Bytes.overlay target 0 (Bytes.slice b.raw (offset - b.start) n)) := by
  intro n
  have hpos := List.length_pos_iff.mpr hne
  have hheld := (holds_iff (by omega)).mp h
  have hcap := b.len_le
  have hcovers := covers_iff hpos hlast (b := b)
  have hlt := h.2.2
  have hle := h.2.1
  have hroom : n ≤ b.len - (offset - b.start) := Nat.min_le_right ..
  have hpiece : (Bytes.slice b.raw (offset - b.start) n).length = n := by
    rw [Bytes.length_slice, length_raw]
    omega
  have hfront := Bytes.overlay_front target (Bytes.slice b.raw (offset - b.start) n)
  have htake : (Bytes.overlay target 0 (Bytes.slice b.raw (offset - b.start) n)).take n =
      Bytes.slice b.raw (offset - b.start) n := by
    rw [hfront, List.take_append_of_le_length (by omega), List.take_of_length_le (by omega)]
  refine ⟨?_, ?_, ?_, htake, ?_, ?_, ?_⟩
  · rw [hcovers]
    constructor
    · intro hall
      exact Nat.min_eq_left hall.2
    · intro hall
      exact ⟨h, by omega⟩
  · constructor
    · intro hnone
      omega
    · intro hnot
      exact absurd h hnot
  · intro _
    exact ⟨hle, by omega⟩
  · rw [hfront, hpiece, List.drop_append_of_le_length (by omega),
      List.drop_of_length_le (by omega), List.nil_append]
  · rw [Bytes.length_overlay, hpiece]
    omega
  · rw [copyOut_eq, if_pos hheld, image_eq_take, Bytes.slice_take, htake]

/-- Whatever is done to a buffer, its region stays, and a copy out of it is not stopped. The
copy fills its target exactly when the image covers the range, and it is empty exactly when
the image does not hold the first byte. -/
theorem a_copy_stays_inside_the_image (b : StagingBuffer) (cs : List BufferChange) (offset : Nat)
    (target : Bytes) (hne : target ≠ []) (hlast : offset + target.length ≤ Offset.last) :
    (b.changes cs).raw.length = b.capacity ∧ (b.changes cs).len ≤ b.capacity ∧
      ∃ n after, Guarded.copyInto (b.changes cs) offset target = .ok (n, after) ∧
        Copied (b.changes cs) offset target n after := by
  have hregion := capacity_changes b cs
  have hlen := (b.changes cs).len_le
  refine ⟨by rw [length_raw, hregion], by omega, ?_⟩
  by_cases h : (b.changes cs).Holds offset
  · exact ⟨_, _, Guarded.copyInto_of_holds hlast h hne, copied_of_holds hne hlast h⟩
  · have hpos := List.length_pos_iff.mpr hne
    exact ⟨_, _, Guarded.copyInto_of_not_holds (by omega) h, copied_of_not_holds hne hlast h⟩

/-- An image of four bytes whose last two have no offset. -/
def lastImage : StagingBuffer :=
  ({ capacity := 6, capacity_pos := by decide } : StagingBuffer).changes
    [.lay 0 [1, 2, 3, 4, 5], .setLength 4, .setLength 7, .setStart (Offset.last - 2),
      .setValid true]

theorem the_last_two_bytes_are_copied :
    ∃ n after, Guarded.copyInto lastImage (Offset.last - 2) [9, 9] = .ok (n, after) ∧
      Copied lastImage (Offset.last - 2) [9, 9] n after ∧ n = 2 ∧ after = [1, 2] := by
  obtain ⟨_, _, n, after, hrun, hcopied⟩ :=
    a_copy_stays_inside_the_image { capacity := 6, capacity_pos := by decide }
      [.lay 0 [1, 2, 3, 4, 5], .setLength 4, .setLength 7, .setStart (Offset.last - 2),
        .setValid true] (Offset.last - 2) [9, 9] (by decide) (by decide)
  have hn : n = 2 := hcopied.filled.mp (by decide)
  have hbytes := hcopied.bytes
  have hlen := hcopied.length
  subst hn
  refine ⟨2, after, hrun, hcopied, by simp, ?_⟩
  rw [List.take_of_length_le (by simp [hlen])] at hbytes
  rw [hbytes]
  decide

end StagingBuffer

end StagedFiles
