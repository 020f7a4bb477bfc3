-- The image of a staging buffer as a run of bytes. What is laid at its front
-- becomes the image, what is laid behind it joins it, and a copy is a piece of it.
import StagedFiles.Proofs.Overlay
import StagedFiles.StagingBuffer

namespace StagedFiles.StagingBuffer

/-! ## Peeking at what was laid down -/

theorem poke_len (b : StagingBuffer) (i : Nat) (d : Bytes) : (b.poke i d).len = b.len := rfl

theorem poke_start (b : StagingBuffer) (i : Nat) (d : Bytes) : (b.poke i d).start = b.start := rfl

/-- Bytes laid inside the region stand there. -/
theorem peek_poke (b : StagingBuffer) (i : Nat) (d : Bytes) (h : i + d.length ≤ b.capacity) :
    (b.poke i d).peek i d.length = d := by
  apply Bytes.ext_byteAt
  · rw [length_peek]
    show min d.length (b.capacity - i) = d.length
    omega
  · intro j hj
    rw [length_peek] at hj
    have hjd : j < d.length := by omega
    have hin : i ≤ i + j ∧ i + j < i + d.length := by omega
    have hsub : i + j - i = j := by omega
    simp only [byteAt_peek, byteAt_raw_poke b i d _ h, hjd, hin, hsub, and_self, if_true]

/-- Bytes below what was laid down stay. -/
theorem peek_poke_below (b : StagingBuffer) (i : Nat) (d : Bytes) (h : i + d.length ≤ b.capacity) :
    (b.poke i d).peek 0 i = b.peek 0 i := by
  apply Bytes.ext_byteAt
  · rw [length_peek, length_peek]
    rfl
  · intro j _
    simp only [byteAt_peek, byteAt_raw_poke b i d _ h]
    by_cases hj : j < i
    · have hout : ¬ (i ≤ 0 + j ∧ 0 + j < i + d.length) := by omega
      simp only [hj, hout, if_true, if_false]
    · simp only [hj, if_false]

/-- Laying nothing changes nothing. -/
theorem peek_poke_nil (b : StagingBuffer) (i n : Nat) : (b.poke 0 []).peek i n = b.peek i n := by
  apply Bytes.ext_byteAt
  · rw [length_peek, length_peek]
    rfl
  · intro j _
    have h : 0 + ([] : Bytes).length ≤ b.capacity := Nat.zero_le _
    have hout : ¬ (0 ≤ i + j ∧ i + j < 0 + ([] : Bytes).length) := by simp
    simp only [byteAt_peek, byteAt_raw_poke b 0 [] _ h, hout, if_false]

/-- Two neighbouring pieces of the region are one piece. -/
theorem peek_append (b : StagingBuffer) (i n : Nat) (h : i + n ≤ b.capacity) :
    b.peek 0 (i + n) = b.peek 0 i ++ b.peek i n := by
  apply Bytes.ext_byteAt
  · simp only [length_peek, List.length_append]
    omega
  · intro j _
    rw [Bytes.byteAt_append, length_peek]
    have hmin : min i (b.capacity - 0) = i := by omega
    simp only [byteAt_peek, hmin]
    by_cases hj : j < i
    · have hin : j < i + n := by omega
      simp only [hj, hin, if_true]
    · have hadd : i + (j - i) = 0 + j := by omega
      have hiff : j - i < n ↔ j < i + n := by omega
      simp only [hj, if_false, hadd, hiff]

/-- A piece of the image is a piece of the region. -/
theorem slice_image (b : StagingBuffer) (i n : Nat) :
    Bytes.slice b.image i n = b.peek i (min n (b.len - i)) := by
  have hlen := b.len_le
  apply Bytes.ext_byteAt
  · rw [Bytes.length_slice, length_image, length_peek]
    omega
  · intro j hj
    rw [Bytes.length_slice, length_image] at hj
    have h1 : j < n := by omega
    have h2 : i + j < b.len := by omega
    have h3 : j < min n (b.len - i) := hj
    simp only [Bytes.byteAt_slice, image, byteAt_peek, h1, h2, h3, if_true, Nat.zero_add]

/-- What is laid at the front may reach past the region. -/
theorem byteAt_raw_front (b : StagingBuffer) (d : Bytes) {j : Nat} (h : j < b.capacity) :
    Bytes.byteAt (b.poke 0 d).raw j =
      if j < d.length then Bytes.byteAt d j else Bytes.byteAt b.raw j := by
  have hcap : j < (b.poke 0 d).capacity := h
  have hcells : (b.poke 0 d).cells.toBytes = Bytes.overlay b.cells.toBytes 0 d :=
    SparseBytes.toBytes_overlay ..
  rw [byteAt_raw, byteAt_raw, if_pos h, if_pos hcap, hcells, Bytes.byteAt_overlay]
  simp

/-! ## The image -/

/-- The image is the front of the region. -/
theorem image_eq_take (b : StagingBuffer) : b.image = b.raw.take b.len := by
  have hlen := b.len_le
  apply Bytes.ext_byteAt
  · rw [length_image, List.length_take, length_raw]
    omega
  · intro j _
    simp only [image, byteAt_peek, Bytes.byteAt_take, Nat.zero_add]

/-- What is laid at the front of the region stands at the front of the image. -/
theorem image_poke (b : StagingBuffer) (d : Bytes) :
    (b.poke 0 d).image = (Bytes.overlay b.image 0 d).take b.len := by
  have hlen := b.len_le
  apply Bytes.ext_byteAt
  · rw [length_image, poke_len, List.length_take, Bytes.length_overlay, length_image]
    omega
  · intro j hj
    rw [length_image, poke_len] at hj
    have hcap : j < b.capacity := Nat.lt_of_lt_of_le hj hlen
    have himage : Bytes.byteAt (b.poke 0 d).image j = Bytes.byteAt (b.poke 0 d).raw j := by
      rw [image_eq_take, Bytes.byteAt_take, poke_len, if_pos hj]
    rw [himage, byteAt_raw_front b d hcap, Bytes.byteAt_take, if_pos hj, Bytes.byteAt_overlay,
      image_eq_take, Bytes.byteAt_take, if_pos hj, Nat.zero_add, Nat.sub_zero]
    simp

theorem image_append (b : StagingBuffer) (d : Bytes) (h : b.len + d.length ≤ b.capacity) :
    (b.append d h).image = b.image ++ d := by
  have hcap : b.len + d.length ≤ (b.poke b.len d).capacity := h
  calc (b.poke b.len d).peek 0 (b.len + d.length)
      = (b.poke b.len d).peek 0 b.len ++ (b.poke b.len d).peek b.len d.length :=
        peek_append _ _ _ hcap
    _ = b.image ++ d := by rw [peek_poke _ _ _ h, peek_poke_below _ _ _ h, image]

theorem image_restart (b : StagingBuffer) (offset : Nat) (d : Bytes) (h : d.length ≤ b.capacity) :
    (b.restart offset d h).image = d := by
  show (b.poke 0 d).peek 0 d.length = d
  exact peek_poke b 0 d (by omega)

/-- A copy is a piece of the image, when the image is valid and holds its start. -/
theorem copyOut_eq (b : StagingBuffer) (offset n : Nat) :
    b.copyOut offset n =
      if b.valid ∧ b.start ≤ offset ∧ offset < b.stop then
        Bytes.slice b.image (offset - b.start) n
      else [] := by
  unfold copyOut
  split
  · exact (slice_image b _ n).symm
  · rfl

/-- A copy from behind what is laid at the front of the region stays. -/
theorem copyOut_poke {b : StagingBuffer} {d : Bytes} {offset : Nat} (n : Nat)
    (h : b.start + d.length ≤ offset) : (b.poke 0 d).copyOut offset n = b.copyOut offset n := by
  have hlen := b.len_le
  rw [copyOut_eq, copyOut_eq, image_poke, poke_start]
  apply if_congr Iff.rfl _ rfl
  apply Bytes.ext_byteAt
  · rw [Bytes.length_slice, Bytes.length_slice, List.length_take, Bytes.length_overlay,
      length_image]
    omega
  · intro j _
    have hout : ¬ (0 ≤ offset - b.start + j ∧ offset - b.start + j < 0 + d.length) := by omega
    rw [Bytes.byteAt_slice, Bytes.byteAt_slice, Bytes.byteAt_take, Bytes.byteAt_overlay,
      if_neg hout, image_eq_take, Bytes.byteAt_take]
    by_cases hin : offset - b.start + j < b.len
    · simp only [hin, if_true]
    · simp only [hin, if_false]

/-- What holds the image holds every copy of it. -/
theorem hasAt_copyOut {b : StagingBuffer} {v : Bytes}
    (h : b.valid = true → Bytes.HasAt v b.start b.image) (offset n : Nat) :
    Bytes.HasAt v offset (b.copyOut offset n) := by
  rw [copyOut_eq]
  split
  · rename_i hcond
    obtain ⟨hvalid, hle, _⟩ := hcond
    have hs := (h hvalid).slice (offset - b.start) n
    rwa [Nat.add_sub_cancel' hle] at hs
  · exact Bytes.hasAt_nil v offset

/-- A range that an image covers ends at an offset. -/
theorem last_of_covers {b : StagingBuffer} {offset n : Nat} (h : b.covers offset n = true) :
    offset + n ≤ Offset.last := by
  unfold covers at h
  rw [Bool.and_eq_true, decide_eq_true_eq] at h
  exact h.2.2.1

/-- An image that covers a range has all of it to copy. -/
theorem length_copyOut_of_covers {b : StagingBuffer} {offset n : Nat}
    (h : b.covers offset n = true) : (b.copyOut offset n).length = n := by
  unfold covers at h
  rw [Bool.and_eq_true, decide_eq_true_eq] at h
  obtain ⟨hvalid, hle, _, hstop⟩ := h
  rw [length_copyOut]
  have hend : b.stop ≤ b.start + b.len := Nat.min_le_left ..
  by_cases hn : n = 0
  · subst hn
    split
    · exact Nat.zero_min _
    · rfl
  · have hlt : offset < b.stop := by omega
    simp only [hvalid, hle, hlt, and_self, if_true]
    omega

end StagedFiles.StagingBuffer
