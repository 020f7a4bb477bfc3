-- What could stop the program in the middle of a step: a sum past the greatest word, a
-- difference below zero, a range that is not inside what it is taken from, a copy between
-- ranges of different lengths, too large an allocation, an error where none is expected.
-- A guarded step looks at each of these where the program meets it. The buffer, the
-- adapters and the flush are guarded here, and come to what they come to without guards.
-- Counters may wrap around: that is how they count.
import StagedFiles.Proofs.LoopTurns

namespace StagedFiles

/-! ## Guarded steps -/

/-- A part of a run of `size` items: from the position `low` up to the position `high`. -/
structure Part where
  low : Nat
  high : Nat
  size : Nat
  deriving DecidableEq, Repr

/-- What stops the program. -/
inductive Mishap where
  | overflow (a b : Nat)
  | underflow (a b : Nat)
  | outside (part : Part)
  /-- A copy from one part to another. -/
  | uneven (target source : Part)
  | oversized (size : Nat)
  | unexpected (f : Failure)
  /-- A loop that is not over after all of its turns. -/
  | endless

/-- A step that is stopped, or comes to a result. -/
abbrev Guarded (α : Type) := Except Mishap α

/-- The most bytes that an allocation has. -/
def maxAllocation : Nat := 0x7FFFFFFFFFFFFFFF

namespace Guarded

/-- The sum of two words. Sizes and offsets are words alike. -/
def plus (a b : Nat) : Guarded Nat :=
  if a + b ≤ Offset.last then .ok (a + b) else .error (.overflow a b)

def minus (a b : Nat) : Guarded Nat :=
  if b ≤ a then .ok (a - b) else .error (.underflow a b)

/-- Looks at a part of a run. -/
def slice (p : Part) : Guarded Unit :=
  if p.low ≤ p.high ∧ p.high ≤ p.size then .ok () else .error (.outside p)

/-- Copies one part to another. -/
def copy (target source : Part) : Guarded Unit := do
  slice target
  slice source
  if target.high - target.low = source.high - source.low then .ok ()
  else .error (.uneven target source)

def allocate (size : Nat) : Guarded Unit :=
  if size ≤ maxAllocation then .ok () else .error (.oversized size)

/-- A call that is not to fail. -/
def sure {α : Type} : Except Failure α → Guarded α
  | .ok a => .ok a
  | .error f => .error (.unexpected f)

section Steps

variable {α β : Type} {a b : Nat}

@[simp] theorem ok_bind (x : α) (f : α → Guarded β) : (Except.ok x >>= f : Guarded β) = f x := rfl

theorem plus_of_le (h : a + b ≤ Offset.last) : plus a b = .ok (a + b) := if_pos h

theorem minus_of_le (h : b ≤ a) : minus a b = .ok (a - b) := if_pos h

theorem slice_of_le {p : Part} (hlow : p.low ≤ p.high) (hhigh : p.high ≤ p.size) :
    slice p = .ok () := if_pos ⟨hlow, hhigh⟩

theorem copy_of_slices {target source : Part} (htarget : slice target = .ok ())
    (hsource : slice source = .ok ())
    (heven : target.high - target.low = source.high - source.low) : copy target source = .ok () := by
  unfold copy
  rw [htarget, ok_bind, hsource, ok_bind, if_pos heven]

/-- A front of one run goes to the front of another. -/
theorem copy_front {n : Nat} (ha : n ≤ a) (hb : n ≤ b) : copy ⟨0, n, a⟩ ⟨0, n, b⟩ = .ok () :=
  copy_of_slices (slice_of_le (Nat.zero_le _) ha) (slice_of_le (Nat.zero_le _) hb) rfl

theorem allocate_of_le (h : a ≤ maxAllocation) : allocate a = .ok () := if_pos h

end Steps

/-! ## The buffer -/

/-- Copies the image to a place with room for `room` bytes. -/
def copyOut (b : StagingBuffer) (offset room : Nat) : Guarded Bytes :=
  if b.valid ∧ b.start ≤ offset ∧ offset < b.stop then do
    let start ← minus offset b.start
    let rest ← minus b.len start
    let n := min room rest
    let stop ← plus start n
    copy ⟨0, n, room⟩ ⟨start, stop, b.capacity⟩
    return b.peek start n
  else return []

theorem copyOut_eq {b : StagingBuffer} (hcap : b.capacity ≤ maxAllocation) (offset room : Nat) :
    copyOut b offset room = .ok (b.copyOut offset room) := by
  have hmax : maxAllocation ≤ Offset.last := by decide
  have hlen := b.len_le
  unfold copyOut StagingBuffer.copyOut
  split
  · rename_i hin
    have hstop : b.stop ≤ b.start + b.len := Nat.min_le_left ..
    have hstart : offset - b.start ≤ b.len := by omega
    have hroom : min room (b.len - (offset - b.start)) ≤ room := Nat.min_le_left ..
    have hrest : min room (b.len - (offset - b.start)) ≤ b.len - (offset - b.start) :=
      Nat.min_le_right ..
    rw [minus_of_le hin.2.1, ok_bind, minus_of_le hstart, ok_bind]
    dsimp only
    rw [plus_of_le (by omega), ok_bind, copy_of_slices, ok_bind]
    · rfl
    · exact slice_of_le (Nat.zero_le _) hroom
    · exact slice_of_le (Nat.le_add_right ..) (by dsimp only; omega)
    · dsimp only
      omega
  · rfl

theorem setLength_eq {b : StagingBuffer} {n : Nat} (h : n ≤ b.capacity) :
    sure (b.setLength n) = .ok { b with len := n, len_le := h } := by
  rw [StagingBuffer.setLength_of_le h]
  rfl

/-! ## The adapters -/

section Adapters

/-- The bytes become the image. They have been counted against the part that they came to. -/
def install (a : Adapter) (offset : Nat) (bytes : Bytes) :
    Guarded (Except Failure Nat × Adapter) := do
  let b ← sure ((a.buffer.poke 0 bytes).setLength bytes.length)
  return (.ok bytes.length,
    { a with
      buffer := { b with start := offset, valid := true }
      traffic := { a.traffic with read := a.traffic.read.record bytes.length 0 } })

/-- The completion of a request that was handed in. -/
def finish (a : Adapter) (offset count : Nat) :
    Completion → Guarded (Except Failure Nat × Adapter)
  | .bytes (.ok bytes) => do
    let n := min bytes.length count
    copy ⟨0, n, a.buffer.capacity⟩ ⟨0, n, bytes.length⟩
    install a offset (bytes.take n)
  | c => return a.finish offset count c

variable {σ : Type} [ObjectStore σ]

/-- A read straight into the region. -/
def readNow (a : Adapter) (offset count : Nat) (st : σ) :
    Guarded (Except Failure Nat × Adapter × σ) := do
  slice ⟨0, count, a.buffer.capacity⟩
  match ObjectStore.readAt a.fd offset count st with
  | (.ok bytes, st) =>
    let (r, a) ← install a offset bytes
    return (r, a, st)
  | (.error torn, st) =>
    return (.error torn.why, { a with buffer := a.buffer.poke 0 torn.landed }, st)

/-- A write straight out of the region. -/
def writeNow (a : Adapter) (offset count : Nat) (st : σ) :
    Guarded (Except Failure Nat × Adapter × σ) := do
  slice ⟨0, count, a.buffer.capacity⟩
  return a.writeNow offset count st

def submitRead (a : Adapter) (offset count : Nat) (st : σ) :
    Guarded (Except Failure (Started (Except Failure Nat)) × Adapter × σ) := do
  sure (a.checkCount count)
  match a.kind with
  | .sync =>
    let (r, a, st) ← readNow a offset count st
    return (.ok (.finished r), a, st)
  | .async =>
    match ObjectStore.submitRead a.fd offset count st with
    | (.ok ticket, st) => return (.ok (.submitted ticket), a, st)
    | (.error f, st) => return (.error f, a, st)

def submitWrite (a : Adapter) (offset count : Nat) (st : σ) :
    Guarded (Except Failure (Started (Except Failure Nat)) × Adapter × σ) := do
  sure (a.checkCount count)
  match a.kind with
  | .sync =>
    let (r, a, st) ← writeNow a offset count st
    return (.ok (.finished r), a, st)
  | .async =>
    slice ⟨0, count, a.buffer.capacity⟩
    match ObjectStore.submitWrite a.fd offset (a.buffer.peek 0 count) st with
    | (.ok ticket, st) => return (.ok (.submitted ticket), a, st)
    | (.error f, st) => return (.error f, a, st)

/-- The end of a request that its caller waits for. -/
def settle (a : Adapter) (direction : Direction) (offset count : Nat)
    (started : Started (Except Failure Nat)) (st : σ) :
    Guarded (Except Failure Nat × Adapter × σ) :=
  match started with
  | .finished r => return (r, a, st)
  | .submitted ticket =>
    match ObjectStore.await ticket st with
    | (some c, st) => do
      let (r, a) ← finish a offset count c
      return (r, a, st)
    | (none, st) => return (.error (.internal (.completionDropped direction a.fd)), a, st)

def fill (a : Adapter) (offset count : Nat) (st : σ) :
    Guarded (Except Failure Nat × Adapter × σ) := do
  match ← submitRead a offset count st with
  | (.error f, a, st) => return (.error f, a, st)
  | (.ok started, a, st) => settle a .read offset count started st

def drain (a : Adapter) (offset count : Nat) (st : σ) :
    Guarded (Except Failure Nat × Adapter × σ) := do
  match ← submitWrite a offset count st with
  | (.error f, a, st) => return (.error f, a, st)
  | (.ok started, a, st) => settle a .write offset count started st

end Adapters

end Guarded

/-! ## Stores that bring no more than they are asked for -/

/-- A store that reads no more bytes than there is room for. One that was handed in may
bring more. -/
structure Modest (σ : Type) [ObjectStore σ] extends Matching σ where
  readAt_le {st st' : σ} {fd : Fd} {offset len : Nat} {bytes : Bytes} :
    Fits st → ObjectStore.readAt fd offset len st = (.ok bytes, st') → bytes.length ≤ len

/-- The store in memory is one. -/
def MemoryStore.modest : Modest MemoryStore where
  toMatching := MemoryStore.matching
  readAt_le {st st' fd offset len bytes} _ h := by
    have h' : MemoryStore.readAt fd offset len st = (.ok bytes, st') := h
    unfold MemoryStore.readAt at h'
    dsimp only at h'
    rcases performRead_cases (st.count fun c => { c with preads := c.preads + 1 }) fd offset len
      with ⟨f, faults, hr⟩ | ⟨handle, _, hr⟩
    · rw [hr] at h'
      cases h'
    · rw [hr] at h'
      cases h'
      rw [SparseBytes.slice_eq, Bytes.length_slice]
      exact Nat.min_le_left ..

namespace Guarded

section Adapters

variable {σ : Type} [ObjectStore σ] {a : Adapter} {offset count : Nat} {st : σ}

theorem install_eq {bytes : Bytes} (h : bytes.length ≤ a.buffer.capacity) :
    install a offset bytes = .ok (a.install offset bytes) := by
  have hfits : bytes.length ≤ (a.buffer.poke 0 bytes).capacity := h
  unfold install Adapter.install
  rw [setLength_eq hfits, ok_bind]
  dsimp only
  rw [StagingBuffer.setLength_of_le hfits]
  rfl

theorem finish_eq (hcount : count ≤ a.buffer.capacity) (c : Completion) :
    finish a offset count c = .ok (a.finish offset count c) := by
  rcases c with (f | bytes) | r
  · rfl
  · have htake : bytes.take (min bytes.length count) = bytes.take count := by
      rw [List.take_eq_take_iff]
      omega
    have hlen : (bytes.take count).length ≤ a.buffer.capacity :=
      Nat.le_trans (List.length_take_le ..) hcount
    have hregion : min bytes.length count ≤ a.buffer.capacity :=
      Nat.le_trans (Nat.min_le_right ..) hcount
    unfold finish Adapter.finish
    dsimp only
    rw [copy_front hregion (Nat.min_le_left ..), ok_bind, htake, install_eq hlen]
  · rfl

theorem checkCount_eq (hcount : count ≤ a.buffer.capacity) : sure (a.checkCount count) = .ok () := by
  rw [Adapter.checkCount_ok hcount]
  rfl

theorem region_eq (hcount : count ≤ a.buffer.capacity) :
    slice ⟨0, count, a.buffer.capacity⟩ = .ok () := slice_of_le (Nat.zero_le _) hcount

theorem readNow_eq (M : Modest σ) (hst : M.Fits st) (hcount : count ≤ a.buffer.capacity) :
    readNow a offset count st = .ok (a.readNow offset count st) := by
  unfold readNow Adapter.readNow
  rw [region_eq hcount, ok_bind]
  rcases hr : ObjectStore.readAt a.fd offset count st with ⟨torn | bytes, st1⟩
  · rfl
  · dsimp only
    rw [install_eq (Nat.le_trans (M.readAt_le hst hr) hcount)]
    rfl

theorem submitRead_eq (M : Modest σ) (hst : M.Fits st) (hcount : count ≤ a.buffer.capacity) :
    submitRead a offset count st = .ok (a.submitRead offset count st) := by
  unfold submitRead Adapter.submitRead
  rw [checkCount_eq hcount, ok_bind, Adapter.checkCount_ok hcount]
  rcases a.kind with _ | _
  · dsimp only
    rw [readNow_eq M hst hcount]
    rfl
  · dsimp only
    rcases ObjectStore.submitRead a.fd offset count st with ⟨f | ticket, st1⟩
    · rfl
    · rfl

theorem submitWrite_eq (hcount : count ≤ a.buffer.capacity) :
    submitWrite a offset count st = .ok (a.submitWrite offset count st) := by
  unfold submitWrite Adapter.submitWrite writeNow
  rw [checkCount_eq hcount, ok_bind, Adapter.checkCount_ok hcount, region_eq hcount]
  rcases a.kind with _ | _
  · rfl
  · dsimp only
    rw [ok_bind]
    rcases ObjectStore.submitWrite a.fd offset (a.buffer.peek 0 count) st with ⟨f | ticket, st1⟩
    · rfl
    · rfl

theorem settle_eq (hcount : count ≤ a.buffer.capacity) (direction : Direction)
    (started : Started (Except Failure Nat)) :
    settle a direction offset count started st =
      .ok (a.settle direction offset count started st) := by
  unfold settle Adapter.settle
  cases started with
  | finished r => rfl
  | submitted ticket =>
    dsimp only
    rcases ObjectStore.await ticket st with ⟨_ | c, st1⟩
    · rfl
    · dsimp only
      rw [finish_eq hcount]
      rfl

theorem fill_eq (M : Modest σ) (hst : M.Fits st) (hcount : count ≤ a.buffer.capacity) :
    fill a offset count st = .ok (a.read offset count st) := by
  unfold fill Adapter.read
  rw [submitRead_eq M hst hcount, ok_bind]
  rcases hs : a.submitRead offset count st with ⟨f | started, a1, st1⟩
  · rfl
  · exact settle_eq ((Adapter.submitRead_same hs).capacity ▸ hcount) .read started

theorem drain_eq (hcount : count ≤ a.buffer.capacity) :
    drain a offset count st = .ok (a.write offset count st) := by
  unfold drain Adapter.write
  rw [submitWrite_eq hcount, ok_bind]
  rcases hs : a.submitWrite offset count st with ⟨f | started, a1, st1⟩
  · rfl
  · exact settle_eq ((Adapter.submitWrite_same hs).capacity ▸ hcount) .write started

end Adapters

end Guarded

end StagedFiles
