-- The laws of runs and overlays. A run holds data at a position when the data
-- is what stands there, as far as the data reaches. Laying data over a run is
-- the same in one piece or in pieces that follow each other, and a front that
-- was laid before is lost under the whole.
import Mathlib.Data.List.Infix
import StagedFiles.SparseBytes

namespace StagedFiles.Bytes

/-! ## What a run holds at a position -/

/-- The run holds the data from position `i` on. -/
def HasAt (b : Bytes) (i : Nat) (d : Bytes) : Prop := d <+: b.drop i

theorem hasAt_iff {b : Bytes} {i : Nat} {d : Bytes} : HasAt b i d ↔ d = slice b i d.length := by
  unfold HasAt slice
  exact List.prefix_iff_eq_take

@[simp] theorem hasAt_nil (b : Bytes) (i : Nat) : HasAt b i [] := List.nil_prefix

theorem hasAt_slice (b : Bytes) (i n : Nat) : HasAt b i (slice b i n) := List.take_prefix _ _

theorem HasAt.take {b : Bytes} {i : Nat} {d : Bytes} (h : HasAt b i d) (n : Nat) :
    HasAt b i (d.take n) := (List.take_prefix n d).trans h

/-- What a slice of the data holds, the run holds further on. -/
theorem HasAt.slice {b : Bytes} {i : Nat} {d : Bytes} (h : HasAt b i d) (j n : Nat) :
    HasAt b (i + j) (Bytes.slice d j n) := by
  have hd : d.drop j <+: (b.drop i).drop j := List.IsPrefix.drop h j
  rw [List.drop_drop] at hd
  exact (List.take_prefix n _).trans hd

/-- Pieces that follow each other make one piece. -/
theorem HasAt.append {b : Bytes} {i : Nat} {d e : Bytes} (hd : HasAt b i d)
    (he : HasAt b (i + d.length) e) : HasAt b i (d ++ e) := by
  obtain ⟨r, hr⟩ := hd
  obtain ⟨q, hq⟩ := he
  refine ⟨q, ?_⟩
  have hdrop : b.drop (i + d.length) = r := by
    rw [← List.drop_drop, ← hr, List.drop_left]
  rw [List.append_assoc, hq, hdrop, hr]

/-- Data that a run holds ends inside the run. -/
theorem HasAt.length_le {b : Bytes} {i : Nat} {d : Bytes} (h : HasAt b i d) :
    d.length ≤ b.length - i := by
  have := List.IsPrefix.length_le h
  rwa [List.length_drop] at this

/-- A slice is a front that the run holds, and the slice behind it. -/
theorem HasAt.slice_eq_append {b : Bytes} {i n : Nat} {d : Bytes} (h : HasAt b i d)
    (hlen : d.length ≤ n) :
    Bytes.slice b i n = d ++ Bytes.slice b (i + d.length) (n - d.length) := by
  obtain ⟨r, hr⟩ := h
  have hdrop : b.drop (i + d.length) = r := by
    rw [← List.drop_drop, ← hr, List.drop_left]
  unfold Bytes.slice
  rw [hdrop, ← hr, List.take_append, List.take_of_length_le hlen]

/-! ## Overlays -/

/-- A run of the length that is asked for stays as it is. -/
theorem resize_length (b : Bytes) : resize b b.length = b := by
  unfold resize
  dsimp only
  rw [List.take_length, Nat.sub_self, List.replicate_zero, List.append_nil]

theorem hasAt_overlay (b : Bytes) (i : Nat) (d : Bytes) : HasAt (overlay b i d) i d := by
  unfold HasAt overlay
  rw [List.drop_left' (length_resize b i)]
  exact List.prefix_append _ _

/-- A run that is cut or extended still holds what ends below its new length. -/
theorem HasAt.resize {b : Bytes} {i n : Nat} {d : Bytes} (h : HasAt b i d)
    (hend : d ≠ [] → i + d.length ≤ n) : HasAt (Bytes.resize b n) i d := by
  by_cases hd : d = []
  · rw [hd]
    exact hasAt_nil ..
  · have hin := hend hd
    have hlen : d.length = (Bytes.slice (Bytes.resize b n) i d.length).length := by
      rw [length_slice, length_resize]
      omega
    rw [hasAt_iff] at h ⊢
    refine ext_byteAt hlen ?_
    intro j hj
    have hbelow : i + j < n := by omega
    rw [byteAt_slice, if_pos hj, byteAt_resize, if_pos hbelow, h, byteAt_slice, if_pos hj]

/-- Data that end below the new length may be laid before the run is cut or after. -/
theorem overlay_resize (b : Bytes) (i : Nat) (d : Bytes) {n : Nat} (h : i + d.length ≤ n) :
    overlay (resize b n) i d = resize (overlay b i d) n := by
  apply ext_byteAt
  · rw [length_overlay, length_resize, length_resize]
    omega
  · intro j _
    simp only [byteAt_overlay, byteAt_resize]
    by_cases hd : i ≤ j ∧ j < i + d.length
    · have hbelow : j < n := by omega
      rw [if_pos hd, if_pos hbelow, if_pos hd]
    · rw [if_neg hd, if_neg hd]

/-- Laying data in two pieces that follow each other lays all of it. -/
theorem overlay_append (b : Bytes) (i : Nat) (d e : Bytes) :
    overlay b i (d ++ e) = overlay (overlay b i d) (i + d.length) e := by
  apply ext_byteAt
  · simp only [length_overlay, List.length_append]
    omega
  · intro j _
    simp only [byteAt_overlay, byteAt_append, List.length_append]
    by_cases h1 : i ≤ j ∧ j < i + d.length
    · have h2 : i ≤ j ∧ j < i + (d.length + e.length) := by omega
      have h3 : ¬ (i + d.length ≤ j ∧ j < i + d.length + e.length) := by omega
      have h4 : j - i < d.length := by omega
      simp only [h1, h2, h3, h4, and_self, if_true, if_false]
    · by_cases h2 : i + d.length ≤ j ∧ j < i + d.length + e.length
      · have h3 : i ≤ j ∧ j < i + (d.length + e.length) := by omega
        have h4 : ¬ j - i < d.length := by omega
        have h5 : j - i - d.length = j - (i + d.length) := by omega
        simp only [h2, h3, h4, h5, and_self, if_true, if_false]
      · have h3 : ¬ (i ≤ j ∧ j < i + (d.length + e.length)) := by omega
        simp only [h1, h2, h3, if_false]

/-- A front that was laid before is lost under the whole. -/
theorem overlay_overlay_take (b : Bytes) (i : Nat) (d : Bytes) (n : Nat) :
    overlay (overlay b i (d.take n)) i d = overlay b i d := by
  apply ext_byteAt
  · simp only [length_overlay, List.length_take]
    omega
  · intro j _
    simp only [byteAt_overlay, List.length_take]
    by_cases h : i ≤ j ∧ j < i + d.length
    · simp only [h, and_self, if_true]
    · have : ¬ (i ≤ j ∧ j < i + min n d.length) := by omega
      simp only [h, this, if_false]

/-- Of two fronts of the data, laid one over the other, the longer one is seen. -/
theorem overlay_take_overlay_take (b : Bytes) (i : Nat) (d : Bytes) (m n : Nat) :
    overlay (overlay b i (d.take m)) i (d.take n) = overlay b i (d.take (max m n)) := by
  apply ext_byteAt
  · simp only [length_overlay, List.length_take]
    omega
  · intro j _
    simp only [byteAt_overlay, byteAt_take, List.length_take]
    by_cases hn : i ≤ j ∧ j < i + min n d.length
    · have hmax : i ≤ j ∧ j < i + min (max m n) d.length := by omega
      have h1 : j - i < n := by omega
      have h2 : j - i < max m n := by omega
      simp only [hn, hmax, h1, h2, and_self, if_true]
    · by_cases hm : i ≤ j ∧ j < i + min m d.length
      · have hmax : i ≤ j ∧ j < i + min (max m n) d.length := by omega
        have h1 : j - i < m := by omega
        have h2 : j - i < max m n := by omega
        rw [if_neg hn]
        simp only [hm, hmax, h1, h2, and_self, if_true]
      · have hmax : ¬ (i ≤ j ∧ j < i + min (max m n) d.length) := by omega
        simp only [hn, hm, hmax, if_false]

/-! ## Writes -/

/-- The run after a write. A write of nothing does not even extend it. -/
def written (b : Bytes) (i : Nat) (d : Bytes) : Bytes := if d = [] then b else overlay b i d

@[simp] theorem written_nil (b : Bytes) (i : Nat) : written b i [] = b := if_pos rfl

theorem written_of_ne_nil (b : Bytes) (i : Nat) {d : Bytes} (h : d ≠ []) :
    written b i d = overlay b i d := if_neg h

/-- A write that goes on where data was laid lays all of it. -/
theorem written_overlay (b : Bytes) (i : Nat) (d e : Bytes) :
    written (overlay b i d) (i + d.length) e = overlay b i (d ++ e) := by
  by_cases h : e = []
  · rw [h, written_nil, List.append_nil]
  · rw [written_of_ne_nil _ _ h, overlay_append]

/-- Writing data in two pieces that follow each other writes all of it. -/
theorem written_append (b : Bytes) (i : Nat) (d e : Bytes) :
    written b i (d ++ e) = written (written b i d) (i + d.length) e := by
  by_cases h : d = []
  · rw [h, List.nil_append, written_nil, List.length_nil, Nat.add_zero]
  · rw [written_of_ne_nil _ _ h, written_overlay,
      written_of_ne_nil _ _ (List.append_ne_nil_of_left_ne_nil h e)]

/-- Of two fronts of the data, written one after the other, the longer one is seen. -/
theorem written_take_written_take (b : Bytes) (i : Nat) (d : Bytes) (m n : Nat) :
    written (written b i (d.take m)) i (d.take n) = written b i (d.take (max m n)) := by
  by_cases hm : d.take m = []
  · have hmax : d.take (max m n) = d.take n := by
      rcases List.take_eq_nil_iff.mp hm with rfl | rfl
      · rw [Nat.zero_max]
      · rw [List.take_nil, List.take_nil]
    rw [hm, written_nil, hmax]
  · by_cases hn : d.take n = []
    · have hmax : d.take (max m n) = d.take m := by
        rcases List.take_eq_nil_iff.mp hn with rfl | rfl
        · rw [Nat.max_zero]
        · rw [List.take_nil, List.take_nil]
      rw [hn, written_nil, hmax]
    · have hmax : d.take (max m n) ≠ [] := by
        intro h
        rcases List.take_eq_nil_iff.mp h with hzero | rfl
        · have hm0 : m = 0 := by omega
          exact hm (by rw [hm0, List.take_zero])
        · exact hm List.take_nil
      rw [written_of_ne_nil _ _ hm, written_of_ne_nil _ _ hn, written_of_ne_nil _ _ hmax,
        overlay_take_overlay_take]

/-- At most a front of the data was laid over the run. -/
def FrontLaid (b : Bytes) (i : Nat) (d : Bytes) (b' : Bytes) : Prop :=
  b' = b ∨ ∃ n, b' = overlay b i (d.take n)

theorem FrontLaid.refl (b : Bytes) (i : Nat) (d : Bytes) : FrontLaid b i d b := Or.inl rfl

/-- A front that was laid before is lost under the whole. -/
theorem FrontLaid.overlay_eq {b : Bytes} {i : Nat} {d b' : Bytes} (h : FrontLaid b i d b') :
    overlay b' i d = overlay b i d := by
  rcases h with rfl | ⟨n, rfl⟩
  · rfl
  · exact overlay_overlay_take b i d n

/-- A front that was laid over a front makes one front. -/
theorem FrontLaid.trans {b : Bytes} {i : Nat} {d b' b'' : Bytes} (h : FrontLaid b i d b')
    (h' : FrontLaid b' i d b'') : FrontLaid b i d b'' := by
  rcases h with rfl | ⟨m, rfl⟩
  · exact h'
  · rcases h' with rfl | ⟨n, rfl⟩
    · exact Or.inr ⟨m, rfl⟩
    · exact Or.inr ⟨max m n, overlay_take_overlay_take b i d m n⟩

/-- All of the data is a front of it. -/
theorem frontLaid_written (b : Bytes) (i : Nat) (d : Bytes) : FrontLaid b i d (written b i d) := by
  by_cases h : d = []
  · rw [h, written_nil]
    exact Or.inl rfl
  · refine Or.inr ⟨d.length, ?_⟩
    rw [written_of_ne_nil _ _ h, List.take_length]

/-! ## Whole pieces -/

/-- Whole pieces of the data, each of a size, were written over the run, but not all of it. -/
def PiecesLaid (b : Bytes) (i size : Nat) (d b' : Bytes) : Prop :=
  ∃ k, k * size < d.length ∧ b' = written b i (d.take (k * size))

theorem piecesLaid_nothing (b : Bytes) (i size : Nat) {d : Bytes} (h : d ≠ []) :
    PiecesLaid b i size d b := by
  refine ⟨0, ?_, ?_⟩
  · rw [Nat.zero_mul]
    exact List.length_pos_iff.mpr h
  · rw [Nat.zero_mul, List.take_zero, written_nil]

/-- Data of one piece at most is not written at all. -/
theorem PiecesLaid.eq_of_le {b : Bytes} {i size : Nat} {d b' : Bytes}
    (h : PiecesLaid b i size d b') (hle : d.length ≤ size) : b' = b := by
  obtain ⟨k, hk, rfl⟩ := h
  have hzero : k * size = 0 := by
    rcases Nat.eq_zero_or_pos k with rfl | hpos
    · exact Nat.zero_mul size
    · have := Nat.le_mul_of_pos_left size hpos
      omega
  rw [hzero, List.take_zero, written_nil]

theorem PiecesLaid.frontLaid {b : Bytes} {i size : Nat} {d b' : Bytes}
    (h : PiecesLaid b i size d b') : FrontLaid b i d b' := by
  obtain ⟨k, -, rfl⟩ := h
  rcases frontLaid_written b i (d.take (k * size)) with hnone | ⟨n, hn⟩
  · exact Or.inl hnone
  · exact Or.inr ⟨min n (k * size), by rw [hn, List.take_take]⟩

/-- Pieces behind a first piece are pieces of all of it. -/
theorem PiecesLaid.of_overlay {b : Bytes} {i : Nat} {d e b' : Bytes} (hd : d ≠ [])
    (h : PiecesLaid (overlay b i d) (i + d.length) d.length e b') :
    PiecesLaid b i d.length (d ++ e) b' := by
  obtain ⟨k, hk, rfl⟩ := h
  have hsize : (k + 1) * d.length = d.length + k * d.length := by
    rw [Nat.add_mul, Nat.one_mul, Nat.add_comm]
  refine ⟨k + 1, ?_, ?_⟩
  · rw [hsize, List.length_append]
    omega
  · have hne : d ++ e.take (k * d.length) ≠ [] := by simp [hd]
    rw [hsize, List.take_length_add_append, written_overlay, written_of_ne_nil _ _ hne]

/-- Pieces that are written over pieces are pieces. -/
theorem PiecesLaid.trans {b : Bytes} {i size : Nat} {d b' b'' : Bytes}
    (h : PiecesLaid b i size d b') (h' : PiecesLaid b' i size d b'') :
    PiecesLaid b i size d b'' := by
  obtain ⟨k, hk, rfl⟩ := h
  obtain ⟨m, hm, rfl⟩ := h'
  have hmax : max (k * size) (m * size) = max k m * size := Nat.mul_max_mul_right ..
  refine ⟨max k m, ?_, ?_⟩
  · rw [← hmax]
    omega
  · rw [written_take_written_take, hmax]

/-- A write over pieces of its data leaves as much as over the run. -/
theorem PiecesLaid.written_eq {b : Bytes} {i size : Nat} {d b' : Bytes}
    (h : PiecesLaid b i size d b') : written b' i d = written b i d := by
  obtain ⟨k, hk, rfl⟩ := h
  have hall := written_take_written_take b i d (k * size) d.length
  rwa [List.take_length, Nat.max_eq_right (Nat.le_of_lt hk), List.take_length] at hall

end StagedFiles.Bytes
