-- What a refused write puts back. The head it saved and the rest of the region,
-- which it did not go over, are together the region as it was, however the lengths
-- of the image and of the data lie to one another.
import StagedFiles.Proofs.AdapterPairs
import StagedFiles.Stage.Async

namespace StagedFiles

/-- Buffers that cannot be told apart hold the same image. -/
theorem StagingBuffer.Alike.sameImage {b b' : StagingBuffer} (h : b.Alike b') :
    b.SameImage b' := sameImage_of_raw h.len h.start h.valid h.raw

namespace SavedImage

variable {b b' : StagingBuffer} {image : SavedImage}

theorem capacity_restore (image : SavedImage) (b : StagingBuffer) :
    (image.restore b).capacity = b.capacity := by
  unfold restore
  dsimp only
  unfold StagingBuffer.setLength
  split
  · rename_i hset
    split at hset
    · cases hset
      rfl
    · cases hset
  · rfl

/-- There is room for a length that fits. -/
theorem restore_of_le (h : image.len ≤ b.capacity) :
    image.restore b =
      { b.poke 0 image.head with
        start := image.start, len := image.len, valid := true, len_le := h } := by
  have hset : StagingBuffer.setLength { b.poke 0 image.head with start := image.start } image.len =
      .ok { b.poke 0 image.head with start := image.start, len := image.len, len_le := h } :=
    dif_pos h
  unfold restore
  dsimp only
  rw [hset]

theorem of_valid (hv : b.valid = true) (n : Nat) : of b n = some ⟨b.start, b.len, b.peek 0 n⟩ := by
  unfold of
  rw [if_pos hv]

theorem of_invalid (hv : b.valid = false) (n : Nat) : of b n = none := by
  unfold of
  rw [hv]
  rfl

/-! ## What comes back -/

/-- Data at the front go over the head that was saved and over nothing else. -/
theorem raw_poke_head (b : StagingBuffer) {data : Bytes} (hdata : data.length ≤ b.capacity) :
    ((b.poke 0 data).poke 0 (b.peek 0 data.length)).raw = b.raw := by
  have hhead : (b.peek 0 data.length).length = data.length := by
    rw [StagingBuffer.length_peek]
    omega
  apply Bytes.ext_byteAt
  · rw [StagingBuffer.length_raw, StagingBuffer.length_raw]
    rfl
  · intro j _
    have hroom : 0 + (b.peek 0 data.length).length ≤ (b.poke 0 data).capacity := by
      rw [hhead, Nat.zero_add]
      exact hdata
    rw [StagingBuffer.byteAt_raw_poke _ 0 _ j hroom, hhead,
      StagingBuffer.byteAt_raw_poke b 0 data j (by omega), StagingBuffer.byteAt_peek]
    by_cases hj : j < data.length
    · simp only [Nat.zero_le, Nat.zero_add, Nat.sub_zero, hj, and_self, if_true]
    · simp only [Nat.zero_add, hj, and_false, if_false]

/-- The image that data went over comes back, with all of the region. -/
theorem restore_alike {data : Bytes} (hv : b.valid = true) (hdata : data.length ≤ b.capacity)
    (hcap : b'.capacity = b.capacity) (hraw : b'.raw = (b.poke 0 data).raw) :
    b.Alike (SavedImage.restore ⟨b.start, b.len, b.peek 0 data.length⟩ b') := by
  have hlen : b.len ≤ b'.capacity := by
    rw [hcap]
    exact b.len_le
  rw [restore_of_le hlen]
  refine ⟨hcap, ?_, rfl, rfl, hv.symm⟩
  calc (b'.poke 0 (b.peek 0 data.length)).raw
      = ((b.poke 0 data).poke 0 (b.peek 0 data.length)).raw := by
        rw [StagingBuffer.raw_poke, hraw, hcap, StagingBuffer.raw_poke (b.poke 0 data)]
        rfl
    _ = b.raw := raw_poke_head b hdata

/-! ## Buffers that look the same -/

theorem of_alike (h : b.Alike b') (n : Nat) : of b' n = of b n := by
  unfold of
  rw [h.valid, h.start, h.len, h.peek]

theorem restore_of_alike (h : b.Alike b') (image : SavedImage) :
    (image.restore b).Alike (image.restore b') := by
  have hlaid := h.poke 0 image.head
  have hplaced : StagingBuffer.Alike { b.poke 0 image.head with start := image.start }
      { b'.poke 0 image.head with start := image.start } :=
    ⟨hlaid.capacity, hlaid.raw, hlaid.len, rfl, hlaid.valid⟩
  unfold restore
  dsimp only
  obtain ⟨f, hset, hset'⟩ | ⟨c, c', hset, hset', hc⟩ := hplaced.setLength image.len
  · rw [hset, hset']
    exact hplaced
  · rw [hset, hset']
    exact ⟨hc.capacity, hc.raw, hc.len, hc.start, rfl⟩

end SavedImage

end StagedFiles
