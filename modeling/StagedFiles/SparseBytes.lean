-- Runs of bytes that keep only the pages that were written. All else is zero,
-- so a run may be far longer than what it keeps. `toBytes` is the run in full;
-- `toBytes_overlay`, `toBytes_resize` and `slice_eq` say that the operations
-- do to it what those of a plain run do.
import StagedFiles.Bytes

namespace StagedFiles

/-! ## Pages -/

/-- Bytes in a tree that halves the range of positions `h` times and keeps a
page where no half is left to take. -/
inductive PageTree : Nat → Type where
  | zeros {h : Nat} : PageTree h
  | page (bytes : Bytes) : PageTree 0
  | halves {h : Nat} (low high : PageTree h) : PageTree (h + 1)

namespace PageTree

/-- How many positions the lower half of a tree of height `h + 1` has. The
upper half has no end, so no position is out of range. -/
def span (h : Nat) : Nat := 256 <<< h

/-- The bytes of a page. -/
def bytes : PageTree 0 → Bytes
  | .zeros => []
  | .page b => b

def low {h : Nat} : PageTree (h + 1) → PageTree h
  | .zeros => .zeros
  | .halves l _ => l

def high {h : Nat} : PageTree (h + 1) → PageTree h
  | .zeros => .zeros
  | .halves _ r => r

@[simp] theorem low_halves {h : Nat} (l r : PageTree h) : (halves l r).low = l := rfl

@[simp] theorem high_halves {h : Nat} (l r : PageTree h) : (halves l r).high = r := rfl

/-- The byte at a position. -/
def byteAt : {h : Nat} → PageTree h → Nat → UInt8
  | 0, t, i => Bytes.byteAt t.bytes i
  | h + 1, t, i =>
    if i < span h then t.low.byteAt i else t.high.byteAt (i - span h)

/-- The `n` bytes from position `i` on. -/
def read : {h : Nat} → PageTree h → Nat → Nat → Bytes
  | _, .zeros, _, n => List.replicate n 0
  | 0, .page b, i, n => Bytes.resize (Bytes.slice b i n) n
  | h + 1, .halves l r, i, n =>
    if i + n ≤ span h then l.read i n
    else if span h ≤ i then r.read (i - span h) n
    else l.read i (span h - i) ++ r.read 0 (n - (span h - i))

/-- The tree with `d` laid over it from position `i` on. -/
def write : {h : Nat} → PageTree h → Nat → Bytes → PageTree h
  | 0, t, i, d => .page (Bytes.overlay t.bytes i d)
  | h + 1, t, i, d =>
    if i + d.length ≤ span h then .halves (t.low.write i d) t.high
    else if span h ≤ i then .halves t.low (t.high.write (i - span h) d)
    else
      .halves (t.low.write i (d.take (span h - i))) (t.high.write 0 (d.drop (span h - i)))

/-- The tree with zeros from position `n` on. -/
def cut : {h : Nat} → PageTree h → Nat → PageTree h
  | _, .zeros, _ => .zeros
  | 0, .page b, n => .page (b.take n)
  | h + 1, .halves l r, n =>
    if n ≤ span h then .halves (l.cut n) .zeros else .halves l (r.cut (n - span h))

/-! ## The bytes of a tree -/

@[simp] theorem byteAt_zeros (h i : Nat) : (zeros : PageTree h).byteAt i = 0 := by
  induction h generalizing i with
  | zero => simp [byteAt, bytes]
  | succ h ih => simp [byteAt, low, high, ih]

@[simp] theorem length_read {h : Nat} (t : PageTree h) (i n : Nat) :
    (t.read i n).length = n := by
  fun_induction read t i n with
  | case1 => simp
  | case2 => simp
  | case3 h l r i n hl ih => exact ih
  | case4 h l r i n hl hr ih => exact ih
  | case5 h l r i n hl hr ihl ihr =>
    rw [List.length_append, ihl, ihr]
    omega

/-- Reading shows the bytes of the tree. -/
theorem byteAt_read {h : Nat} (t : PageTree h) (i n j : Nat) :
    Bytes.byteAt (t.read i n) j = if j < n then t.byteAt (i + j) else 0 := by
  fun_induction read t i n generalizing j with
  | case1 => simp
  | case2 b i n =>
    simp only [Bytes.byteAt_resize, Bytes.byteAt_slice, byteAt, bytes]
    by_cases hj : j < n <;> simp [hj]
  | case3 h l r i n hl ih =>
    rw [ih]
    by_cases hj : j < n
    · have : i + j < span h := by omega
      simp only [hj, if_true, byteAt, this, low_halves]
    · simp only [hj, if_false]
  | case4 h l r i n hl hr ih =>
    rw [ih]
    have h1 : ¬ i + j < span h := by omega
    have h2 : i - span h + j = i + j - span h := by omega
    simp only [h2, byteAt, h1, if_false, high_halves]
  | case5 h l r i n hl hr ihl ihr =>
    rw [Bytes.byteAt_append, length_read, ihl, ihr]
    by_cases hk : j < span h - i
    · have h1 : i + j < span h := by omega
      have h2 : j < n := by omega
      simp only [hk, if_true, byteAt, h1, h2, low_halves]
    · have h1 : ¬ i + j < span h := by omega
      have h2 : j - (span h - i) < n - (span h - i) ↔ j < n := by omega
      have h3 : 0 + (j - (span h - i)) = i + j - span h := by omega
      simp only [hk, if_false, h2, h3, byteAt, h1, high_halves]

/-- After a write the covered positions hold the data and all others hold what
they held. -/
theorem byteAt_write {h : Nat} (t : PageTree h) (i : Nat) (d : Bytes) (j : Nat) :
    (t.write i d).byteAt j =
      if i ≤ j ∧ j < i + d.length then Bytes.byteAt d (j - i) else t.byteAt j := by
  induction h generalizing i d j with
  | zero => simp [write, byteAt, bytes, Bytes.byteAt_overlay]
  | succ h ih =>
    by_cases hl : i + d.length ≤ span h
    · simp only [write, hl, if_true, byteAt, low_halves, high_halves, ih]
      by_cases hj : j < span h
      · simp only [hj, if_true]
      · have : ¬ (i ≤ j ∧ j < i + d.length) := by omega
        simp only [hj, this, if_false]
    · by_cases hr : span h ≤ i
      · simp only [write, hl, hr, if_true, if_false, byteAt, low_halves, high_halves, ih]
        by_cases hj : j < span h
        · have : ¬ (i ≤ j ∧ j < i + d.length) := by omega
          simp only [hj, this, if_true, if_false]
        · have h1 : (i - span h ≤ j - span h ∧ j - span h < i - span h + d.length) ↔
              (i ≤ j ∧ j < i + d.length) := by omega
          have h2 : j - span h - (i - span h) = j - i := by omega
          simp only [hj, if_false, h1, h2]
      · simp only [write, hl, hr, if_false, byteAt, low_halves, high_halves, ih,
          List.length_take, List.length_drop, Bytes.byteAt_take, Bytes.byteAt_drop]
        by_cases hj : j < span h
        · have h1 : (i ≤ j ∧ j < i + min (span h - i) d.length) ↔
              (i ≤ j ∧ j < i + d.length) := by omega
          simp only [hj, if_true, h1]
          by_cases hc : i ≤ j ∧ j < i + d.length
          · have h2 : j - i < span h - i := by omega
            simp only [hc, and_self, h2, if_true]
          · simp only [hc, if_false]
        · have h1 : (0 ≤ j - span h ∧ j - span h < 0 + (d.length - (span h - i))) ↔
              (i ≤ j ∧ j < i + d.length) := by omega
          have h2 : span h - i + (j - span h - 0) = j - i := by omega
          simp only [hj, if_false, h1, h2]

/-- A cut keeps the bytes below it. -/
theorem byteAt_cut {h : Nat} (t : PageTree h) (n j : Nat) :
    (t.cut n).byteAt j = if j < n then t.byteAt j else 0 := by
  fun_induction cut t n generalizing j with
  | case1 => simp
  | case2 b n => simp [byteAt, bytes, Bytes.byteAt_take]
  | case3 h l r n hn ih =>
    simp only [byteAt, low_halves, high_halves, ih, byteAt_zeros]
    by_cases hj : j < span h
    · simp only [hj, if_true]
    · have : ¬ j < n := by omega
      simp only [hj, this, if_false]
  | case4 h l r n hn ih =>
    simp only [byteAt, low_halves, high_halves, ih]
    by_cases hj : j < span h
    · have : j < n := by omega
      simp only [hj, this, if_true]
    · have : j - span h < n - span h ↔ j < n := by omega
      simp only [hj, this, if_false]

end PageTree

/-! ## Runs -/

/-- A run of `size` bytes. What the pages hold past its end does not count. The
height of the tree only says where pages stop being small: the last one takes
all that lies behind the others. -/
structure SparseBytes where
  size : Nat := 0
  pages : PageTree 36 := .zeros

namespace SparseBytes

/-- At most `n` bytes from position `i` on. -/
def slice (s : SparseBytes) (i n : Nat) : Bytes := s.pages.read i (min n (s.size - i))

/-- All bytes of the run. -/
def toBytes (s : SparseBytes) : Bytes := s.slice 0 s.size

/-- The pages with zeros between the end of the run and position `i`. -/
def cleared (s : SparseBytes) (i : Nat) : PageTree 36 :=
  if s.size < i then s.pages.cut s.size else s.pages

/-- The run cut or extended with zeros to `n` bytes. -/
def resize (s : SparseBytes) (n : Nat) : SparseBytes := { size := n, pages := s.cleared n }

/-- The run with `d` laid over it from position `i` on. -/
def overlay (s : SparseBytes) (i : Nat) (d : Bytes) : SparseBytes :=
  { size := max s.size (i + d.length), pages := (s.cleared i).write i d }

/-- The run of these bytes. -/
def ofBytes (b : Bytes) : SparseBytes := ({} : SparseBytes).overlay 0 b

/-! ## The run in full -/

@[simp] theorem length_toBytes (s : SparseBytes) : s.toBytes.length = s.size := by
  simp [toBytes, slice]

theorem byteAt_toBytes (s : SparseBytes) (i : Nat) :
    Bytes.byteAt s.toBytes i = if i < s.size then s.pages.byteAt i else 0 := by
  simp [toBytes, slice, PageTree.byteAt_read]

theorem slice_eq (s : SparseBytes) (i n : Nat) : s.slice i n = Bytes.slice s.toBytes i n := by
  apply Bytes.ext_byteAt
  · simp [slice]
  · intro j hj
    have hl : j < min n (s.size - i) := by simpa [slice] using hj
    have h1 : j < n := by omega
    have h2 : i + j < s.size := by omega
    simp [slice, PageTree.byteAt_read, Bytes.byteAt_slice, byteAt_toBytes, hl, h1, h2]

/-- Up to `i`, and below the end anyway, the cleared pages hold the run. -/
theorem byteAt_cleared (s : SparseBytes) {i j : Nat} (h : j < i ∨ j < s.size) :
    (s.cleared i).byteAt j = Bytes.byteAt s.toBytes j := by
  simp only [cleared, byteAt_toBytes]
  split
  · rw [PageTree.byteAt_cut]
  · have : j < s.size := by omega
    simp only [this, if_true]

@[simp] theorem toBytes_resize (s : SparseBytes) (n : Nat) :
    (s.resize n).toBytes = Bytes.resize s.toBytes n := by
  apply Bytes.ext_byteAt
  · simp [resize]
  · intro j hj
    have hn : j < n := by simpa [resize] using hj
    rw [byteAt_toBytes, Bytes.byteAt_resize]
    simp only [resize, hn, if_true, s.byteAt_cleared (.inl hn)]

@[simp] theorem toBytes_overlay (s : SparseBytes) (i : Nat) (d : Bytes) :
    (s.overlay i d).toBytes = Bytes.overlay s.toBytes i d := by
  apply Bytes.ext_byteAt
  · simp [overlay]
  · intro j hj
    have hn : j < max s.size (i + d.length) := by simpa [overlay] using hj
    rw [byteAt_toBytes, Bytes.byteAt_overlay]
    simp only [overlay, hn, if_true, PageTree.byteAt_write]
    by_cases hd : i ≤ j ∧ j < i + d.length
    · simp only [hd, and_self, if_true]
    · have : j < i ∨ j < s.size := by omega
      simp only [hd, if_false, s.byteAt_cleared this]

@[simp] theorem toBytes_empty : ({} : SparseBytes).toBytes = [] := rfl

@[simp] theorem toBytes_ofBytes (b : Bytes) : (ofBytes b).toBytes = b := by
  simp [ofBytes, Bytes.overlay, Bytes.resize]

end SparseBytes

end StagedFiles
