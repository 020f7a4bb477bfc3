-- Runs of bytes and the one way they change: data laid over a run at an
-- offset. A run is zero past its end, so laying data beyond the end fills
-- the gap with zeros. `byteAt_overlay` says where each byte comes from.

namespace StagedFiles

/-- A run of bytes, first byte first. -/
abbrev Bytes := List UInt8

namespace Bytes

/-- The byte at a position, zero past the end. -/
def byteAt (b : Bytes) (i : Nat) : UInt8 := b.getD i 0

/-- The run cut or extended with zeros to `n` bytes. -/
def resize (b : Bytes) (n : Nat) : Bytes :=
  let kept := b.take n
  kept ++ List.replicate (n - kept.length) 0

/-- At most `n` bytes from position `i` on. -/
def slice (b : Bytes) (i n : Nat) : Bytes := (b.drop i).take n

/-- The run with `d` laid over it from position `i` on. -/
def overlay (b : Bytes) (i : Nat) (d : Bytes) : Bytes :=
  resize b i ++ (d ++ b.drop (i + d.length))

/-! ## Lengths -/

@[simp] theorem length_resize (b : Bytes) (n : Nat) : (resize b n).length = n := by
  simp only [resize, List.length_append, List.length_take, List.length_replicate]
  omega

@[simp] theorem length_slice (b : Bytes) (i n : Nat) :
    (slice b i n).length = min n (b.length - i) := by
  simp [slice]

@[simp] theorem length_overlay (b : Bytes) (i : Nat) (d : Bytes) :
    (overlay b i d).length = max b.length (i + d.length) := by
  simp [overlay]; omega

/-! ## Bytes -/

@[simp] theorem byteAt_nil (i : Nat) : byteAt [] i = 0 := by simp [byteAt]

theorem byteAt_of_length_le {b : Bytes} {i : Nat} (h : b.length ≤ i) : byteAt b i = 0 := by
  simp [byteAt, List.getElem?_eq_none h]

theorem byteAt_append (a b : Bytes) (i : Nat) :
    byteAt (a ++ b) i = if i < a.length then byteAt a i else byteAt b (i - a.length) := by
  simp only [byteAt, List.getD_eq_getElem?_getD, List.getElem?_append]
  split <;> rfl

@[simp] theorem byteAt_replicate (n i : Nat) : byteAt (List.replicate n 0) i = 0 := by
  simp only [byteAt, List.getD_eq_getElem?_getD, List.getElem?_replicate]
  split <;> rfl

theorem byteAt_take (b : Bytes) (n i : Nat) :
    byteAt (b.take n) i = if i < n then byteAt b i else 0 := by
  simp only [byteAt, List.getD_eq_getElem?_getD, List.getElem?_take]
  split <;> rfl

theorem byteAt_drop (b : Bytes) (n i : Nat) : byteAt (b.drop n) i = byteAt b (n + i) := by
  simp only [byteAt, List.getD_eq_getElem?_getD, List.getElem?_drop]

/-- Cutting and extending keeps the bytes below the new length. -/
theorem byteAt_resize (b : Bytes) (n i : Nat) :
    byteAt (resize b n) i = if i < n then byteAt b i else 0 := by
  simp only [resize, byteAt_append, byteAt_take, byteAt_replicate, List.length_take]
  by_cases h : i < n
  · by_cases hb : i < b.length
    · have : i < min n b.length := by omega
      simp only [h, this, if_true]
    · simp [h, byteAt_of_length_le (Nat.not_lt.mp hb)]
  · simp [h]

theorem byteAt_slice (b : Bytes) (i n j : Nat) :
    byteAt (slice b i n) j = if j < n then byteAt b (i + j) else 0 := by
  simp only [slice, byteAt_take, byteAt_drop]

/-- After an overlay the covered positions hold the data and all others
hold what they held. -/
theorem byteAt_overlay (b : Bytes) (i : Nat) (d : Bytes) (j : Nat) :
    byteAt (overlay b i d) j =
      if i ≤ j ∧ j < i + d.length then byteAt d (j - i) else byteAt b j := by
  simp only [overlay, byteAt_append, byteAt_resize, byteAt_drop, length_resize]
  by_cases h : j < i
  · have : ¬ (i ≤ j ∧ j < i + d.length) := by omega
    simp [h, this]
  · by_cases hd : j - i < d.length
    · have : i ≤ j ∧ j < i + d.length := by omega
      simp [h, hd, this]
    · have h1 : ¬ (i ≤ j ∧ j < i + d.length) := by omega
      have h2 : i + d.length + (j - i - d.length) = j := by omega
      simp [h, hd, h1, h2]

/-- Two runs of one length with the same bytes are the same run. -/
theorem ext_byteAt {a b : Bytes} (hl : a.length = b.length)
    (h : ∀ i < a.length, byteAt a i = byteAt b i) : a = b := by
  apply List.ext_getElem hl
  intro i h1 h2
  have := h i h1
  simpa [byteAt, List.getD_eq_getElem?_getD, List.getElem?_eq_getElem h1,
    List.getElem?_eq_getElem h2] using this

end Bytes

end StagedFiles
