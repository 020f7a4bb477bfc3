-- The staging buffer: a region of fixed capacity, and the file range whose
-- image its first `len` bytes are. The image counts only while it is valid.
-- The region is zero past the cells that were written.
import StagedFiles.Offset
import StagedFiles.SparseBytes

namespace StagedFiles

structure StagingBuffer where
  capacity : Nat
  /-- The written front of the region. -/
  cells : SparseBytes := {}
  len : Nat := 0
  /-- The file offset of the first byte. -/
  start : Nat := 0
  valid : Bool := false
  capacity_pos : 0 < capacity
  len_le : len ≤ capacity := by omega

namespace StagingBuffer

/-- An empty buffer whose region is zero. -/
def ofCapacity (capacity : Nat) : Except Failure StagingBuffer :=
  if h : 0 < capacity then .ok { capacity, capacity_pos := h }
  else .error (.invalidArgument .zeroCapacity)

/-! ## The region -/

/-- The whole region. -/
def raw (b : StagingBuffer) : Bytes := Bytes.resize b.cells.toBytes b.capacity

/-- The `n` bytes of the region from position `i` on. -/
def peek (b : StagingBuffer) (i n : Nat) : Bytes :=
  Bytes.resize (b.cells.slice i n) (min n (b.capacity - i))

/-- The region with data laid over it from position `i` on. -/
def poke (b : StagingBuffer) (i : Nat) (d : Bytes) : StagingBuffer :=
  { b with cells := b.cells.overlay i d }

/-! ## The image -/

/-- One past the last byte held, at most the last offset. -/
def stop (b : StagingBuffer) : Nat := Offset.clampedEnd b.start b.len

/-- The bytes that the image holds while it is valid. -/
def image (b : StagingBuffer) : Bytes := b.peek 0 b.len

/-- Sets the number of bytes held. -/
def setLength (b : StagingBuffer) (len : Nat) : Except Failure StagingBuffer :=
  if h : len ≤ b.capacity then .ok { b with len, len_le := h }
  else .error (.invalidArgument (.lengthBeyond len b.capacity))

/-- Forgets the image; its offset stays. -/
def invalidate (b : StagingBuffer) : StagingBuffer :=
  { b with valid := false, len := 0, len_le := Nat.zero_le _ }

/-- The data fits behind the bytes held. Only as much of it is looked at as there is room. -/
def hasRoom (b : StagingBuffer) (d : Bytes) : Bool := (d.drop (b.capacity - b.len)).isEmpty

theorem hasRoom_iff (b : StagingBuffer) (d : Bytes) :
    b.hasRoom d = true ↔ b.len + d.length ≤ b.capacity := by
  have := b.len_le
  simp only [hasRoom, List.isEmpty_iff, List.drop_eq_nil_iff]
  omega

/-- The buffer with data behind the bytes it holds. -/
def append (b : StagingBuffer) (d : Bytes) (h : b.len + d.length ≤ b.capacity) : StagingBuffer :=
  { b.poke b.len d with len := b.len + d.length, valid := true, len_le := h }

/-- The buffer as the image of data at an offset, whatever it held before. -/
def restart (b : StagingBuffer) (offset : Nat) (d : Bytes) (h : d.length ≤ b.capacity) :
    StagingBuffer :=
  { b.poke 0 d with start := offset, len := d.length, valid := true, len_le := h }

/-- The image holds the whole range. -/
def covers (b : StagingBuffer) (offset len : Nat) : Bool :=
  b.valid && decide (b.start ≤ offset ∧ offset + len ≤ Offset.last ∧ offset + len ≤ b.stop)

/-- The bytes of the image from `offset` on, at most `n`; none when the
image does not hold `offset`. -/
def copyOut (b : StagingBuffer) (offset n : Nat) : Bytes :=
  if b.valid ∧ b.start ≤ offset ∧ offset < b.stop then
    let i := offset - b.start
    b.peek i (min n (b.len - i))
  else []

/-! ## Lengths and bytes -/

@[simp] theorem length_raw (b : StagingBuffer) : b.raw.length = b.capacity := by simp [raw]

@[simp] theorem length_peek (b : StagingBuffer) (i n : Nat) :
    (b.peek i n).length = min n (b.capacity - i) := by simp [peek]

theorem byteAt_raw (b : StagingBuffer) (i : Nat) :
    Bytes.byteAt b.raw i = if i < b.capacity then Bytes.byteAt b.cells.toBytes i else 0 := by
  simp [raw, Bytes.byteAt_resize]

/-- Peeking shows bytes of the region. -/
theorem byteAt_peek (b : StagingBuffer) (i n j : Nat) :
    Bytes.byteAt (b.peek i n) j = if j < n then Bytes.byteAt b.raw (i + j) else 0 := by
  simp only [peek, SparseBytes.slice_eq, Bytes.byteAt_resize, Bytes.byteAt_slice, byteAt_raw]
  by_cases h1 : j < n <;> by_cases h2 : i + j < b.capacity
  · simp [h1, h2]; omega
  · simp [h1, h2]; omega
  · simp [h1]
  · simp [h1]

/-- After a poke inside the region the covered positions hold the data. -/
theorem byteAt_raw_poke (b : StagingBuffer) (i : Nat) (d : Bytes) (j : Nat)
    (h : i + d.length ≤ b.capacity) :
    Bytes.byteAt (b.poke i d).raw j =
      if i ≤ j ∧ j < i + d.length then Bytes.byteAt d (j - i) else Bytes.byteAt b.raw j := by
  simp only [byteAt_raw, poke, SparseBytes.toBytes_overlay, Bytes.byteAt_overlay]
  by_cases hj : j < b.capacity
  · simp [hj]
  · have : ¬ (i ≤ j ∧ j < i + d.length) := by omega
    simp [hj, this]

@[simp] theorem length_image (b : StagingBuffer) : b.image.length = b.len := by
  have := b.len_le
  simp [image]; omega

/-- A copy is as long as the image reaches, and no longer than asked. -/
theorem length_copyOut (b : StagingBuffer) (offset n : Nat) :
    (b.copyOut offset n).length =
      if b.valid ∧ b.start ≤ offset ∧ offset < b.stop then min n (b.len - (offset - b.start))
      else 0 := by
  have := b.len_le
  unfold copyOut
  split
  · simp; omega
  · rfl

theorem length_copyOut_le (b : StagingBuffer) (offset n : Nat) :
    (b.copyOut offset n).length ≤ n := by
  rw [length_copyOut]
  split <;> omega

end StagingBuffer

end StagedFiles
