-- Stores without errors. What is written to a descriptor goes in full, what is
-- read comes in full, and a transfer that was handed in comes out when it is
-- waited for. An adapter over such a file lays down all that it is asked to and
-- makes a read of the file its image.
import StagedFiles.Proofs.KeptTransfers

namespace StagedFiles

/-! ## Files without errors -/

/-- The file of a descriptor that takes all that is written to it, as long as
it may reach that far. -/
structure Sink (σ : Type) [ObjectStore σ] (fd : Fd) where
  /-- The file has these bytes. -/
  Holds : σ → Bytes → Prop
  /-- The file may end here. -/
  Reaches : Nat → Prop
  reaches_of_le {m n : Nat} : m ≤ n → Reaches n → Reaches m
  write {st : σ} {b data : Bytes} {offset : Nat} :
    Holds st b → data ≠ [] → Reaches (offset + data.length) →
      ∃ st', ObjectStore.writeAt fd offset data st = (.ok data.length, st') ∧
        Holds st' (Bytes.overlay b offset data)
  submitWrite {st : σ} {b data : Bytes} {offset : Nat} :
    Holds st b → data ≠ [] → Reaches (offset + data.length) →
      ∃ ticket st1 st2, ObjectStore.submitWrite fd offset data st = (.ok ticket, st1) ∧
        ObjectStore.await ticket st1 = (some (.count (.ok data.length)), st2) ∧
        Holds st2 (Bytes.overlay b offset data)

/-- A file that can be read as well. A read ends where the file does. -/
structure FlatFile (σ : Type) [ObjectStore σ] (fd : Fd) extends Sink σ fd where
  read {st : σ} {b : Bytes} (offset len : Nat) : Holds st b →
    ∃ st', ObjectStore.readAt fd offset len st = (.ok (Bytes.slice b offset len), st') ∧
      Holds st' b
  submitRead {st : σ} {b : Bytes} (offset len : Nat) : Holds st b →
    ∃ ticket st1 st2, ObjectStore.submitRead fd offset len st = (.ok ticket, st1) ∧
      ObjectStore.await ticket st1 = (some (.bytes (.ok (Bytes.slice b offset len))), st2) ∧
      Holds st2 b

namespace Adapter

variable {σ : Type} [ObjectStore σ] {fd : Fd} {a : Adapter} {st : σ} {b : Bytes}
  {offset count : Nat}

/-! ## Writes -/

/-- The ways in which a write starts that cannot fail: all of it went at once,
or it is out and all of it goes when it is waited for. -/
inductive Laying (F : Sink σ fd) (a : Adapter) (b : Bytes) (offset count : Nat) :
    Except Failure (Started (Except Failure Nat)) × Adapter × σ → Prop where
  | finished {st : σ} : F.Holds st (Bytes.overlay b offset (a.buffer.peek 0 count)) →
      Laying F a b offset count (.ok (.finished (.ok count)), a.wrote count, st)
  | out {ticket : Ticket} {st st' : σ} :
      ObjectStore.await ticket st = (some (.count (.ok count)), st') →
      F.Holds st' (Bytes.overlay b offset (a.buffer.peek 0 count)) →
      Laying F a b offset count (.ok (.submitted ticket), a, st)

/-- The front of the region that is written, when there is anything to write. -/
theorem length_written (hcap : count ≤ a.buffer.capacity) :
    (a.buffer.peek 0 count).length = count := by
  rw [StagingBuffer.length_peek]
  omega

theorem submitWrite_flat (F : Sink σ fd) (hfd : a.fd = fd) (hcap : count ≤ a.buffer.capacity)
    (hpos : 0 < count) (h : F.Holds st b) (hreach : F.Reaches (offset + count)) :
    Laying F a b offset count (a.submitWrite offset count st) := by
  have hlen := length_written hcap
  have hne : a.buffer.peek 0 count ≠ [] := List.length_pos_iff.mp (by omega)
  rw [← hlen] at hreach
  unfold submitWrite
  rw [checkCount_ok hcap]
  dsimp only
  split
  · obtain ⟨st', hw, hholds⟩ := F.write h hne hreach
    unfold writeNow
    rw [hfd, hw, hlen]
    exact .finished hholds
  · obtain ⟨ticket, st1, st2, hs, hwait, hholds⟩ := F.submitWrite h hne hreach
    rw [hfd, hs]
    rw [hlen] at hwait
    exact .out hwait hholds

/-- A write that the caller waits for moves all that it is asked to. -/
theorem write_flat (F : Sink σ fd) (hfd : a.fd = fd) (hcap : count ≤ a.buffer.capacity)
    (hpos : 0 < count) (h : F.Holds st b) (hreach : F.Reaches (offset + count)) :
    ∃ st', a.write offset count st = (.ok count, a.wrote count, st') ∧
      F.Holds st' (Bytes.overlay b offset (a.buffer.peek 0 count)) := by
  have hlaying := submitWrite_flat F hfd hcap hpos h hreach
  unfold write
  generalize a.submitWrite offset count st = started at hlaying
  cases hlaying with
  | @finished st' hholds => exact ⟨st', rfl, hholds⟩
  | @out ticket st1 st2 hwait hholds =>
    refine ⟨st2, ?_, hholds⟩
    simp only [settle, hwait]
    rfl

/-! ## Reads -/

/-- The adapter that made these bytes its image at an offset. -/
structure Shown (a : Adapter) (offset : Nat) (bytes : Bytes) : Prop where
  valid : a.buffer.valid = true
  start : a.buffer.start = offset
  len : a.buffer.len = bytes.length
  image : a.buffer.image = bytes

theorem install_shown {bytes : Bytes} (offset : Nat) (hcap : bytes.length ≤ a.buffer.capacity) :
    ∃ a', a.install offset bytes = (.ok bytes.length, a') ∧ a'.Shown offset bytes := by
  have hset : (a.buffer.poke 0 bytes).setLength bytes.length =
      .ok { a.buffer.poke 0 bytes with len := bytes.length, len_le := hcap } := by
    unfold StagingBuffer.setLength
    exact dif_pos hcap
  unfold install
  dsimp only
  rw [hset]
  refine ⟨_, rfl, rfl, rfl, rfl, ?_⟩
  exact StagingBuffer.peek_poke _ _ _ (by omega)

/-- A read that the caller waits for makes what the file holds there the image. -/
theorem read_flat (F : FlatFile σ fd) (offset : Nat) (hfd : a.fd = fd)
    (hcap : count ≤ a.buffer.capacity) (h : F.Holds st b) :
    ∃ a' st', a.read offset count st = (.ok (Bytes.slice b offset count).length, a', st') ∧
      a'.Shown offset (Bytes.slice b offset count) ∧ F.Holds st' b := by
  have hlen : (Bytes.slice b offset count).length ≤ count := by
    rw [Bytes.length_slice]
    exact Nat.min_le_left ..
  obtain ⟨a', hinstall, hshown⟩ := install_shown offset (Nat.le_trans hlen hcap)
  rcases hkind : a.kind with _ | _
  · obtain ⟨st', hread, hholds⟩ := F.read offset count h
    refine ⟨a', st', ?_, hshown, hholds⟩
    simp only [read, submitRead, checkCount_ok hcap, hkind, readNow, hfd, hread, hinstall, settle]
  · obtain ⟨ticket, st1, st2, hs, hwait, hholds⟩ := F.submitRead offset count h
    refine ⟨a', st2, ?_, hshown, hholds⟩
    simp only [read, submitRead, checkCount_ok hcap, hkind, hfd, hs, settle, hwait, finish,
      List.take_of_length_le hlen, hinstall]

end Adapter

end StagedFiles
