-- The past of an object: what was done to its bytes, newest first. Its size and each
-- of its bytes are read off the past alone. The byte at a position is what the last
-- change to reach the position left there, and laying data and setting a length do to
-- a run of bytes just what they add to its past.
import StagedFiles.SparseBytes

namespace StagedFiles

/-! ## Changes -/

/-- What can be done to the bytes of an object. -/
inductive Change where
  | laid (offset : Nat) (data : Bytes)
  | sized (len : Nat)
  deriving DecidableEq, Repr

namespace Change

/-- The change decides the byte at a position: it puts data there, or it ends the
object at the position or before it. -/
def reaches (i : Nat) : Change → Bool
  | .laid offset data => offset ≤ i && i < offset + data.length
  | .sized len => len ≤ i

/-- What the change leaves at a position that it reaches. -/
def leaves (i : Nat) : Change → UInt8
  | .laid offset data => Bytes.byteAt data (i - offset)
  | .sized _ => 0

end Change

/-- All that was done to an object, newest first. -/
abbrev Past := List Change

namespace Past

/-! ## What a past says -/

/-- Laying data grows an object to where the data ends; a length that is set is the size. -/
def size : Past → Nat
  | [] => 0
  | .laid offset data :: earlier => max (size earlier) (offset + data.length)
  | .sized len :: _ => len

/-- What the last change to reach a position left there, and zero when none did. -/
def byteAt (past : Past) (i : Nat) : UInt8 :=
  ((past.find? (·.reaches i)).map (·.leaves i)).getD 0

theorem byteAt_cons (change : Change) (past : Past) (i : Nat) :
    Past.byteAt (change :: past) i =
      if change.reaches i = true then change.leaves i else past.byteAt i := by
  unfold byteAt
  rw [List.find?_cons]
  split
  · rename_i h
    rw [if_pos h]
    rfl
  · rename_i h
    rw [if_neg (by simp [h])]

/-- What did not reach a position says nothing of it. -/
theorem byteAt_skip {since : Past} {i : Nat} (earlier : Past)
    (hsince : ∀ change ∈ since, change.reaches i = false) :
    Past.byteAt (since ++ earlier) i = earlier.byteAt i := by
  induction since with
  | nil => rfl
  | cons change since ih =>
    have hskip : change.reaches i = false := hsince change (List.mem_cons_self ..)
    rw [List.cons_append, byteAt_cons, if_neg (by simp [hskip])]
    exact ih fun c hc => hsince c (List.mem_cons_of_mem _ hc)

/-- Data that nothing reached since is what a position holds. -/
theorem byteAt_of_laid {since earlier : Past} {offset i : Nat} {data : Bytes}
    (hsince : ∀ change ∈ since, change.reaches i = false)
    (hi : offset ≤ i ∧ i < offset + data.length) :
    Past.byteAt (since ++ .laid offset data :: earlier) i = Bytes.byteAt data (i - offset) := by
  rw [byteAt_skip _ hsince, byteAt_cons, if_pos (by simpa [Change.reaches] using hi)]
  rfl

/-- A position that came into being, or came back, by extension alone holds zero: no
data was put there since the object last ended before it. -/
theorem byteAt_of_extended {since earlier : Past} {i : Nat}
    (hsince : ∀ change ∈ since, change.reaches i = false)
    (hbefore : earlier = [] ∨ ∃ len older, earlier = .sized len :: older ∧ len ≤ i) :
    Past.byteAt (since ++ earlier) i = 0 := by
  rw [byteAt_skip _ hsince]
  rcases hbefore with rfl | ⟨len, older, rfl, hlen⟩
  · rfl
  · rw [byteAt_cons, if_pos (by simpa [Change.reaches] using hlen)]
    rfl

-- What was cut off does not come back when the object grows again.
example : Past.byteAt [.laid 3 [9], .sized 1, .laid 0 [1, 2, 3]] 1 = 0 := by decide

/-! ## Runs of bytes that have a past -/

/-- The bytes are what the past made of them. -/
structure Shows (past : Past) (bytes : Bytes) : Prop where
  size : bytes.length = past.size
  byte : ∀ i, Bytes.byteAt bytes i = past.byteAt i

theorem shows_nothing : Shows [] [] := ⟨rfl, fun _ => Bytes.byteAt_nil _⟩

/-- Laying data over the bytes is one more change. -/
theorem Shows.overlay {past : Past} {bytes : Bytes} (h : past.Shows bytes) (offset : Nat)
    (data : Bytes) : Shows (.laid offset data :: past) (Bytes.overlay bytes offset data) := by
  refine ⟨?_, ?_⟩
  · rw [Bytes.length_overlay, h.size]
    rfl
  · intro i
    rw [Bytes.byteAt_overlay, byteAt_cons, h.byte i]
    simp only [Change.reaches, Change.leaves, Bool.and_eq_true, decide_eq_true_eq]

/-- So is cutting or extending them. -/
theorem Shows.resize {past : Past} {bytes : Bytes} (h : past.Shows bytes) (len : Nat) :
    Shows (.sized len :: past) (Bytes.resize bytes len) := by
  refine ⟨?_, ?_⟩
  · rw [Bytes.length_resize]
    rfl
  · intro i
    rw [Bytes.byteAt_resize, byteAt_cons, h.byte i]
    by_cases hi : i < len
    · have hreach : ¬ len ≤ i := Nat.not_le_of_lt hi
      simp [Change.reaches, hi, hreach]
    · have hreach : len ≤ i := Nat.not_lt.mp hi
      simp [Change.reaches, Change.leaves, hi, hreach]

/-- Bytes that were there from the start are data at the front. -/
theorem shows_born (data : Bytes) : Shows [.laid 0 data] data := by
  have h := shows_nothing.overlay 0 data
  have hdata : Bytes.overlay [] 0 data = data := by simp [Bytes.overlay, Bytes.resize]
  rwa [hdata] at h

/-- What a read of an object brings, by its past: as much as lies between the offset and
the end, each byte the one that was last put at its place. -/
structure Brings (past : Past) (offset len : Nat) (bytes : Bytes) : Prop where
  length : bytes.length = min len (past.size - offset)
  byte : ∀ i < bytes.length, Bytes.byteAt bytes i = past.byteAt (offset + i)

theorem Shows.slice {past : Past} {bytes : Bytes} (h : past.Shows bytes) (offset len : Nat) :
    past.Brings offset len (Bytes.slice bytes offset len) := by
  have hlength : (Bytes.slice bytes offset len).length = min len (past.size - offset) := by
    rw [Bytes.length_slice, h.size]
  refine ⟨hlength, ?_⟩
  intro i hi
  have hlen : i < len := by omega
  rw [Bytes.byteAt_slice, if_pos hlen, h.byte]

end Past

end StagedFiles
