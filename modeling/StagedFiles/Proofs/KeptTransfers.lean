-- The transfers of an adapter over a store that keeps its object. A read
-- makes the image a run of the object, or fails and leaves the image as it was
-- described; the bytes stay, too, unless the store moved some before it failed. A
-- write lays a front of its bytes over the object, also when it fails.
import StagedFiles.Adapter
import StagedFiles.Proofs.BufferImage
import StagedFiles.Proofs.Keeper
import StagedFiles.Proofs.StageFrame

namespace StagedFiles

/-! ## Images -/

/-- The same description of an image, whatever the bytes are. -/
structure StagingBuffer.Described (b b' : StagingBuffer) : Prop where
  len : b'.len = b.len
  start : b'.start = b.start
  valid : b'.valid = b.valid

/-- The same image, whatever stands behind it in the region. -/
structure StagingBuffer.SameImage (b b' : StagingBuffer) : Prop where
  len : b'.len = b.len
  start : b'.start = b.start
  valid : b'.valid = b.valid
  image : b'.image = b.image

theorem StagingBuffer.SameImage.refl (b : StagingBuffer) : b.SameImage b := ⟨rfl, rfl, rfl, rfl⟩

theorem StagingBuffer.SameImage.of_eq {b b' : StagingBuffer} (h : b' = b) : b.SameImage b' :=
  h ▸ .refl b

section SameImage

variable {b b' b'' : StagingBuffer}

theorem StagingBuffer.Described.trans (h : b.Described b') (h' : b'.Described b'') :
    b.Described b'' :=
  ⟨h'.len.trans h.len, h'.start.trans h.start, h'.valid.trans h.valid⟩

theorem StagingBuffer.SameImage.described (h : b.SameImage b') : b.Described b' :=
  ⟨h.len, h.start, h.valid⟩

theorem StagingBuffer.SameImage.trans (h : b.SameImage b') (h' : b'.SameImage b'') :
    b.SameImage b'' :=
  ⟨h'.len.trans h.len, h'.start.trans h.start, h'.valid.trans h.valid, h'.image.trans h.image⟩

theorem StagingBuffer.SameImage.stop (h : b.SameImage b') : b'.stop = b.stop := by
  unfold StagingBuffer.stop
  rw [h.start, h.len]

/-- The same image gives the same bytes. -/
theorem StagingBuffer.SameImage.copyOut (h : b.SameImage b') (offset n : Nat) :
    b'.copyOut offset n = b.copyOut offset n := by
  rw [copyOut_eq, copyOut_eq, h.valid, h.start, h.stop, h.image]

theorem StagingBuffer.SameImage.covers (h : b.SameImage b') (offset n : Nat) :
    b'.covers offset n = b.covers offset n := by
  unfold StagingBuffer.covers
  rw [h.valid, h.start, h.stop]

/-- The image is the front of the region. -/
theorem StagingBuffer.sameImage_of_raw (hlen : b'.len = b.len) (hstart : b'.start = b.start)
    (hvalid : b'.valid = b.valid) (hraw : b'.raw = b.raw) : b.SameImage b' := by
  refine ⟨hlen, hstart, hvalid, ?_⟩
  rw [image_eq_take, image_eq_take, hlen, hraw]

end SameImage

/-- The image is the run of the object that is `n` bytes long from `offset` on. -/
structure StagingBuffer.Shows (b : StagingBuffer) (object : Bytes) (offset n : Nat) : Prop where
  valid : b.valid = true
  start : b.start = offset
  len : b.len = n
  held : Bytes.HasAt object offset b.image

/-! ## How transfers come out -/

variable {σ : Type} [ObjectStore σ] {fd : Fd}

/-- No fill that fails tears the image: the transfer is handed in, or the store moves
nothing before it fails. -/
def Adapter.Untorn (K : Keeper σ fd) (a : Adapter) : Prop := a.kind = .async ∨ K.LandsNothing

/-- The image was not torn on the way to an answer, if only because nothing has failed. -/
def Adapter.Unhurt {α : Type} (K : Keeper σ fd) (a : Adapter) (r : Except Failure α) : Prop :=
  a.Untorn K ∨ ∃ x, r = .ok x

theorem Adapter.Same.untorn_eq {K : Keeper σ fd} {a a' : Adapter} (h : a.Same a') :
    a'.Untorn K = a.Untorn K := by
  unfold Adapter.Untorn
  rw [h.kind]

theorem Adapter.Same.untorn {K : Keeper σ fd} {a a' : Adapter} (h : a.Same a')
    (ha : a.Untorn K) : a'.Untorn K := by
  rw [h.untorn_eq]
  exact ha

theorem Adapter.unhurt_error {α : Type} {K : Keeper σ fd} {a : Adapter} {f : Failure} :
    a.Unhurt K (.error f : Except Failure α) ↔ a.Untorn K := by
  unfold Adapter.Unhurt
  simp

/-- The same adapter tears no more. -/
theorem Adapter.Same.unhurt {α : Type} {K : Keeper σ fd} {a a' : Adapter} {r : Except Failure α}
    (h : a.Same a') (ha : a.Unhurt K r) : a'.Unhurt K r := ha.imp_left h.untorn

/-- A read into the buffer came out: it shows the object, or it failed. -/
inductive Adapter.Filled (K : Keeper σ fd) (a : Adapter) (object : Bytes) (offset count : Nat) :
    Except Failure Nat → Adapter → Prop where
  | ok {n : Nat} {a' : Adapter} : n ≤ count → a'.buffer.Shows object offset n →
      Filled K a object offset count (.ok n) a'
  | error {f : Failure} {a' : Adapter} : a.buffer.Described a'.buffer →
      (a.Untorn K → a.buffer.SameImage a'.buffer) → Filled K a object offset count (.error f) a'

/-- A write came out: as much of the data lies over the object as it counts, or it
failed, and a front of the data lies there at most. -/
inductive Keeper.Put (K : Keeper σ fd) (object : Bytes) (offset : Nat) (data : Bytes) (st : σ) :
    Except Failure Nat → Prop where
  | ok {n : Nat} : n ≤ data.length →
      K.Keeps st (Bytes.overlay object offset (data.take n)) none →
      Put K object offset data st (.ok n)
  | error {f : Failure} {object' : Bytes} : Bytes.FrontLaid object offset data object' →
      K.Keeps st object' none → Put K object offset data st (.error f)

namespace Adapter

variable {K : Keeper σ fd} {a a' : Adapter} {st st' : σ} {object : Bytes} {offset count : Nat}
  {r : Except Failure Nat}

/-- A fill that fails and touches nothing. -/
theorem Filled.untouched (f : Failure) : a.Filled K object offset count (.error f) a :=
  .error ⟨rfl, rfl, rfl⟩ fun _ => .refl _

theorem install_filled {bytes : Bytes} (hcap : bytes.length ≤ a.buffer.capacity)
    (hlen : bytes.length ≤ count) (hat : Bytes.HasAt object offset bytes)
    (h : a.install offset bytes = (r, a')) : a.Filled K object offset count r a' := by
  unfold install at h
  dsimp only at h
  have hset : (a.buffer.poke 0 bytes).setLength bytes.length =
      .ok { a.buffer.poke 0 bytes with len := bytes.length, len_le := hcap } := by
    unfold StagingBuffer.setLength
    exact dif_pos hcap
  rw [hset] at h
  cases h
  refine .ok hlen ⟨rfl, rfl, rfl, ?_⟩
  have himage : (a.buffer.poke 0 bytes).peek 0 bytes.length = bytes :=
    StagingBuffer.peek_poke _ _ _ (by omega)
  show Bytes.HasAt object offset ((a.buffer.poke 0 bytes).peek 0 bytes.length)
  rw [himage]
  exact hat

/-- A read of the store that failed has laid what it moved over the front of the region. -/
theorem torn_filled {f : Failure} {landed : Bytes}
    (h : a.kind = .sync) (hnothing : K.LandsNothing → landed = []) :
    a.Filled K object offset count (.error f) { a with buffer := a.buffer.poke 0 landed } := by
  refine .error ⟨rfl, rfl, rfl⟩ ?_
  rintro (hasync | hlands)
  · rw [h] at hasync
    cases hasync
  · rw [hnothing hlands]
    exact ⟨rfl, rfl, rfl, StagingBuffer.peek_poke_nil ..⟩

/-- A read of the store that brought a run of the object fills the buffer with
as much of it as was asked for. -/
theorem finish_filled {bytes : Bytes} (hcap : count ≤ a.buffer.capacity)
    (hat : Bytes.HasAt object offset bytes)
    (h : a.finish offset count (.bytes (.ok bytes)) = (r, a')) :
    a.Filled K object offset count r a' := by
  have hlen : (bytes.take count).length ≤ count := List.length_take_le ..
  exact install_filled (Nat.le_trans hlen hcap) hlen (hat.take count) h

/-! ## Transfers that are over when they return -/

theorem readNow_kept (hfd : a.fd = fd) (hkind : a.kind = .sync)
    (hcap : count ≤ a.buffer.capacity) (hk : K.Keeps st object none)
    (h : a.readNow offset count st = (r, a', st')) :
    K.Keeps st' object none ∧ a.Filled K object offset count r a' := by
  subst hfd
  unfold readNow at h
  split at h
  · rename_i bytes st1 hr
    obtain ⟨hk', hlen, hat⟩ := K.read_ok hk hr
    rcases hi : a.install offset bytes with ⟨r', a1⟩
    rw [hi] at h
    cases h
    exact ⟨hk', install_filled (Nat.le_trans hlen hcap) hlen hat hi⟩
  · rename_i torn st1 hr
    cases h
    exact ⟨K.read_error hk hr, torn_filled hkind fun hlands => hlands hk hr⟩

theorem writeNow_kept (hfd : a.fd = fd) (hk : K.Keeps st object none)
    (h : a.writeNow offset count st = (r, a', st')) :
    a'.buffer = a.buffer ∧ K.Put object offset (a.buffer.peek 0 count) st' r := by
  unfold writeNow at h
  rw [hfd] at h
  split at h
  · rename_i n st1 hw
    obtain ⟨hn, hk'⟩ := K.write_ok hk hw
    cases h
    exact ⟨rfl, .ok hn hk'⟩
  · rename_i f st1 hw
    obtain ⟨object', hfront, hk'⟩ := K.write_error hk hw
    cases h
    exact ⟨rfl, .error hfront hk'⟩

/-! ## Transfers that are handed in -/

theorem checkCount_ok (hcap : count ≤ a.buffer.capacity) : a.checkCount count = .ok () := by
  unfold checkCount
  rw [if_neg (Nat.not_lt.mpr hcap)]

theorem submitRead_kept {r : Except Failure (Started (Except Failure Nat))} (hfd : a.fd = fd)
    (hcap : count ≤ a.buffer.capacity) (hk : K.Keeps st object none)
    (h : a.submitRead offset count st = (r, a', st')) :
    (∃ f, r = .error f ∧ a' = a ∧ K.Keeps st' object none) ∨
      (∃ ticket, r = .ok (.submitted ticket) ∧ a' = a ∧
        K.Keeps st' object (some (ticket, .read offset count))) ∨
      ∃ q, r = .ok (.finished q) ∧ K.Keeps st' object none ∧
        a.Filled K object offset count q a' := by
  unfold submitRead at h
  rw [checkCount_ok hcap] at h
  dsimp only at h
  split at h
  · rename_i hkind
    rcases hn : a.readNow offset count st with ⟨q, a1, st1⟩
    rw [hn] at h
    cases h
    exact Or.inr (Or.inr ⟨q, rfl, readNow_kept hfd hkind hcap hk hn⟩)
  · rw [hfd] at h
    split at h
    · rename_i ticket st1 hs
      cases h
      exact Or.inr (Or.inl ⟨ticket, rfl, rfl, K.submitRead_ok hk hs⟩)
    · rename_i f st1 hs
      cases h
      exact Or.inl ⟨f, rfl, rfl, K.submitRead_error hk hs⟩

theorem submitWrite_kept {r : Except Failure (Started (Except Failure Nat))} (hfd : a.fd = fd)
    (hcap : count ≤ a.buffer.capacity) (hk : K.Keeps st object none)
    (h : a.submitWrite offset count st = (r, a', st')) :
    a'.buffer = a.buffer ∧
      ((∃ f, r = .error f ∧ K.Keeps st' object none) ∨
        (∃ ticket, r = .ok (.submitted ticket) ∧
          K.Keeps st' object (some (ticket, .write offset (a.buffer.peek 0 count)))) ∨
        ∃ q, r = .ok (.finished q) ∧ K.Put object offset (a.buffer.peek 0 count) st' q) := by
  unfold submitWrite at h
  rw [checkCount_ok hcap] at h
  dsimp only at h
  split at h
  · rcases hn : a.writeNow offset count st with ⟨q, a1, st1⟩
    rw [hn] at h
    cases h
    obtain ⟨hbuf, hput⟩ := writeNow_kept hfd hk hn
    exact ⟨hbuf, Or.inr (Or.inr ⟨q, rfl, hput⟩)⟩
  · rw [hfd] at h
    split at h
    · rename_i ticket st1 hs
      cases h
      exact ⟨rfl, Or.inr (Or.inl ⟨ticket, rfl, K.submitWrite_ok hk hs⟩)⟩
    · rename_i f st1 hs
      cases h
      exact ⟨rfl, Or.inl ⟨f, rfl, K.submitWrite_error hk hs⟩⟩

/-- The completion of a read fills the buffer. -/
theorem await_read_kept {ticket : Ticket} {c : Option Completion}
    (hcap : count ≤ a.buffer.capacity) (hk : K.Keeps st object (some (ticket, .read offset count)))
    (h : ObjectStore.await ticket st = (c, st')) :
    ∃ done, c = some done ∧ K.Keeps st' object none ∧
      ∀ r a', a.finish offset count done = (r, a') → a.Filled K object offset count r a' := by
  obtain ⟨hk', hcase⟩ := K.await_read hk h
  rcases hcase with ⟨f, rfl⟩ | ⟨bytes, rfl, hat⟩
  · refine ⟨_, rfl, hk', ?_⟩
    intro r a' hf
    cases hf
    exact .untouched f
  · exact ⟨_, rfl, hk', fun r a' hf => finish_filled hcap hat hf⟩

/-- The completion of a write says how much of it went. -/
theorem await_write_kept {ticket : Ticket} {data : Bytes} {c : Option Completion}
    (hk : K.Keeps st object (some (ticket, .write offset data)))
    (h : ObjectStore.await ticket st = (c, st')) :
    ∃ done, c = some done ∧ ∀ count r a', a.finish offset count done = (r, a') →
      a'.buffer = a.buffer ∧ K.Put object offset data st' r := by
  rcases K.await_write hk h with ⟨f, object', rfl, hfront, hk'⟩ | ⟨n, rfl, hn, hk'⟩
  · refine ⟨_, rfl, ?_⟩
    intro count r a' hf
    cases hf
    exact ⟨rfl, .error hfront hk'⟩
  · refine ⟨_, rfl, ?_⟩
    intro count r a' hf
    cases hf
    exact ⟨rfl, .ok hn hk'⟩

/-! ## Transfers that are waited for -/

theorem read_kept (hfd : a.fd = fd) (hcap : count ≤ a.buffer.capacity)
    (hk : K.Keeps st object none) (h : a.read offset count st = (r, a', st')) :
    K.Keeps st' object none ∧ a.Filled K object offset count r a' := by
  unfold read at h
  rcases hs : a.submitRead offset count st with ⟨started, a1, st1⟩
  rw [hs] at h
  rcases submitRead_kept hfd hcap hk hs with
    ⟨f, rfl, rfl, hk1⟩ | ⟨ticket, rfl, rfl, hk1⟩ | ⟨q, rfl, hk1, hfill⟩
  · cases h
    exact ⟨hk1, .untouched f⟩
  · dsimp only [settle] at h
    rcases hw : ObjectStore.await ticket st1 with ⟨c, st2⟩
    obtain ⟨done, rfl, hk2, hfill⟩ := await_read_kept (a := a1) hcap hk1 hw
    rw [hw] at h
    rcases hf : a1.finish offset count done with ⟨q, a2⟩
    simp only [hf] at h
    cases h
    exact ⟨hk2, hfill _ _ hf⟩
  · cases h
    exact ⟨hk1, hfill⟩

theorem write_kept (hfd : a.fd = fd) (hcap : count ≤ a.buffer.capacity)
    (hk : K.Keeps st object none) (h : a.write offset count st = (r, a', st')) :
    a'.buffer = a.buffer ∧ K.Put object offset (a.buffer.peek 0 count) st' r := by
  unfold write at h
  rcases hs : a.submitWrite offset count st with ⟨started, a1, st1⟩
  rw [hs] at h
  obtain ⟨hbuf, hcase⟩ := submitWrite_kept hfd hcap hk hs
  rcases hcase with ⟨f, rfl, hk1⟩ | ⟨ticket, rfl, hk1⟩ | ⟨q, rfl, hput⟩
  · cases h
    exact ⟨hbuf, .error (.refl ..) hk1⟩
  · dsimp only [settle] at h
    rcases hw : ObjectStore.await ticket st1 with ⟨c, st2⟩
    obtain ⟨done, rfl, hfill⟩ := await_write_kept (a := a1) hk1 hw
    rw [hw] at h
    rcases hf : a1.finish offset count done with ⟨q, a2⟩
    simp only [hf] at h
    cases h
    obtain ⟨hbuf2, hput⟩ := hfill _ _ _ hf
    exact ⟨hbuf2.trans hbuf, hput⟩
  · cases h
    exact ⟨hbuf, hput⟩

end Adapter

end StagedFiles
