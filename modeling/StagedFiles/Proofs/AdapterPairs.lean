-- Two adapters side by side, each with a descriptor and a store of its own. Their
-- buffers may lay out their cells in other ways, so they are compared by what is
-- seen of them.
import StagedFiles.Proofs.KeptTransfers

namespace StagedFiles

/-! ## Buffers that look the same -/

namespace StagingBuffer

/-- A piece of the region is a slice of it. -/
theorem peek_eq_slice (b : StagingBuffer) (i n : Nat) : b.peek i n = Bytes.slice b.raw i n := by
  apply Bytes.ext_byteAt
  · rw [length_peek, Bytes.length_slice, length_raw]
  · intro j _
    rw [byteAt_peek, Bytes.byteAt_slice]

/-- The region is all there is to peek at. -/
theorem raw_eq_peek (b : StagingBuffer) : b.raw = b.peek 0 b.capacity := by
  rw [peek_eq_slice]
  unfold Bytes.slice
  rw [List.drop_zero, ← length_raw b, List.take_length]

/-- What is laid over the region is cut where the region ends. -/
theorem raw_poke (b : StagingBuffer) (i : Nat) (d : Bytes) :
    (b.poke i d).raw = Bytes.resize (Bytes.overlay b.raw i d) b.capacity := by
  apply Bytes.ext_byteAt
  · rw [length_raw, Bytes.length_resize]
    rfl
  · intro j hj
    have hin : j < b.capacity := by
      rw [length_raw] at hj
      exact hj
    simp only [byteAt_raw, poke, SparseBytes.toBytes_overlay, Bytes.byteAt_resize,
      Bytes.byteAt_overlay, hin, if_true]

/-- Nothing that is seen of two buffers tells them apart. -/
structure Alike (b b' : StagingBuffer) : Prop where
  capacity : b'.capacity = b.capacity
  raw : b'.raw = b.raw
  len : b'.len = b.len
  start : b'.start = b.start
  valid : b'.valid = b.valid

namespace Alike

variable {b b' : StagingBuffer} {d : Bytes}

theorem refl (b : StagingBuffer) : Alike b b := ⟨rfl, rfl, rfl, rfl, rfl⟩

theorem peek (h : Alike b b') (i n : Nat) : b'.peek i n = b.peek i n := by
  rw [peek_eq_slice, peek_eq_slice, h.raw]

theorem stop (h : Alike b b') : b'.stop = b.stop := by
  unfold StagingBuffer.stop
  rw [h.start, h.len]

theorem copyOut (h : Alike b b') (offset n : Nat) : b'.copyOut offset n = b.copyOut offset n := by
  unfold StagingBuffer.copyOut
  rw [h.valid, h.start, h.stop, h.len]
  dsimp only
  rw [h.peek]

theorem covers (h : Alike b b') (offset len : Nat) : b'.covers offset len = b.covers offset len := by
  unfold StagingBuffer.covers
  rw [h.valid, h.start, h.stop]

theorem hasRoom (h : Alike b b') (d : Bytes) : b'.hasRoom d = b.hasRoom d := by
  unfold StagingBuffer.hasRoom
  rw [h.capacity, h.len]

theorem poke (h : Alike b b') (i : Nat) (d : Bytes) : Alike (b.poke i d) (b'.poke i d) := by
  refine ⟨h.capacity, ?_, h.len, h.start, h.valid⟩
  rw [raw_poke, raw_poke, h.raw, h.capacity]

/-- Laying nothing on one side only is not seen. -/
theorem poke_nil (h : Alike b b') : Alike (b.poke 0 []) b' := by
  refine ⟨h.capacity, ?_, h.len, h.start, h.valid⟩
  rw [h.raw, raw_eq_peek, raw_eq_peek (b.poke 0 [])]
  exact (peek_poke_nil b 0 b.capacity).symm

theorem append (h : Alike b b') (hfits : b.len + d.length ≤ b.capacity)
    (hfits' : b'.len + d.length ≤ b'.capacity) : Alike (b.append d hfits) (b'.append d hfits') := by
  have hlaid := h.poke b.len d
  refine ⟨h.capacity, ?_, ?_, h.start, rfl⟩
  · show (b'.poke b'.len d).raw = (b.poke b.len d).raw
    rw [h.len, hlaid.raw]
  · show b'.len + d.length = b.len + d.length
    rw [h.len]

theorem restart (h : Alike b b') (offset : Nat) (hfits : d.length ≤ b.capacity)
    (hfits' : d.length ≤ b'.capacity) :
    Alike (b.restart offset d hfits) (b'.restart offset d hfits') :=
  ⟨h.capacity, (h.poke 0 d).raw, rfl, rfl, rfl⟩

theorem invalidate (h : Alike b b') : Alike b.invalidate b'.invalidate :=
  ⟨h.capacity, h.raw, rfl, h.start, rfl⟩

/-- A length is set in both or refused by both. -/
theorem setLength (h : Alike b b') (n : Nat) :
    (∃ f, b.setLength n = .error f ∧ b'.setLength n = .error f) ∨
      ∃ c c', b.setLength n = .ok c ∧ b'.setLength n = .ok c' ∧ Alike c c' := by
  unfold StagingBuffer.setLength
  by_cases hn : n ≤ b.capacity
  · have hn' : n ≤ b'.capacity := h.capacity ▸ hn
    rw [dif_pos hn, dif_pos hn']
    exact .inr ⟨_, _, rfl, rfl, h.capacity, h.raw, rfl, h.start, h.valid⟩
  · have hn' : ¬ n ≤ b'.capacity := h.capacity ▸ hn
    rw [dif_neg hn, dif_neg hn', h.capacity]
    exact .inl ⟨_, rfl, rfl⟩

end Alike

end StagingBuffer

/-! ## Two adapters -/

/-- How an adapter goes to its store. -/
structure Port where
  kind : AdapterKind
  fd : Fd

namespace Adapter

def port (a : Adapter) : Port := ⟨a.kind, a.fd⟩

/-- Two adapters that have come to the same, each at its own port. -/
structure Beside (p p' : Port) (a a' : Adapter) : Prop where
  port : a.port = p
  port' : a'.port = p'
  buffer : a.buffer.Alike a'.buffer
  traffic : a'.traffic = a.traffic

variable {p p' : Port} {a a' : Adapter}

namespace Beside

theorem kind (h : Beside p p' a a') : a.kind = p.kind := congrArg Port.kind h.port

theorem kind' (h : Beside p p' a a') : a'.kind = p'.kind := congrArg Port.kind h.port'

theorem fd (h : Beside p p' a a') : a.fd = p.fd := congrArg Port.fd h.port

theorem fd' (h : Beside p p' a a') : a'.fd = p'.fd := congrArg Port.fd h.port'

theorem checkCount (h : Beside p p' a a') (count : Nat) : a'.checkCount count = a.checkCount count := by
  unfold Adapter.checkCount
  rw [h.buffer.capacity]

theorem withBuffer {b b' : StagingBuffer} (h : Beside p p' a a') (hb : b.Alike b') :
    Beside p p' { a with buffer := b } { a' with buffer := b' } :=
  ⟨h.port, h.port', hb, h.traffic⟩

theorem wrote (h : Beside p p' a a') (n : Nat) : Beside p p' (a.wrote n) (a'.wrote n) := by
  refine ⟨h.port, h.port', h.buffer, ?_⟩
  unfold Adapter.wrote
  rw [h.traffic]

theorem install (h : Beside p p' a a') (offset : Nat) (bytes : Bytes) :
    ∃ r b b', a.install offset bytes = (r, b) ∧ a'.install offset bytes = (r, b') ∧
      Beside p p' b b' := by
  have hfilled := h.buffer.poke 0 bytes
  unfold Adapter.install
  dsimp only
  obtain ⟨f, hset, hset'⟩ | ⟨c, c', hset, hset', hlike⟩ := hfilled.setLength bytes.length
  · rw [hset, hset']
    exact ⟨_, _, _, rfl, rfl, h.withBuffer hfilled⟩
  · rw [hset, hset']
    refine ⟨_, _, _, rfl, rfl, h.port, h.port', ?_, ?_⟩
    · exact ⟨hlike.capacity, hlike.raw, hlike.len, rfl, rfl⟩
    · dsimp only
      rw [h.traffic]

theorem finish (h : Beside p p' a a') (offset count : Nat) (c : Completion) :
    ∃ r b b', a.finish offset count c = (r, b) ∧ a'.finish offset count c = (r, b') ∧
      Beside p p' b b' := by
  rcases c with (f | bytes) | (f | n)
  · exact ⟨_, _, _, rfl, rfl, h⟩
  · exact h.install offset _
  · exact ⟨_, _, _, rfl, rfl, h⟩
  · exact ⟨_, _, _, rfl, rfl, h.wrote n⟩

end Beside

/-- What a transfer comes to that was started and is waited for. -/
def settled {σ : Type} [ObjectStore σ] (direction : Direction) (offset count : Nat) :
    Except Failure (Started (Except Failure Nat)) × Adapter × σ → Except Failure Nat × Adapter × σ
  | (.error f, a, st) => (.error f, a, st)
  | (.ok started, a, st) => a.settle direction offset count started st

end Adapter

/-- Two stores over which adapters at these ports move the same bytes. -/
structure Pairing (σ τ : Type) [ObjectStore σ] [ObjectStore τ] (p p' : Port) where
  /-- As far as the ports go, the stores have come to the same. -/
  Abreast : σ → τ → Prop
  read {a a' : Adapter} {st : σ} {st' : τ} (offset count : Nat) : a.Beside p p' a' →
    Abreast st st' →
      ∃ r b st1 b' st1', a.read offset count st = (r, b, st1) ∧
        a'.read offset count st' = (r, b', st1') ∧ b.Beside p p' b' ∧ Abreast st1 st1'
  write {a a' : Adapter} {st : σ} {st' : τ} (offset count : Nat) : a.Beside p p' a' →
    Abreast st st' →
      ∃ r b st1 b' st1', a.write offset count st = (r, b, st1) ∧
        a'.write offset count st' = (r, b', st1') ∧ b.Beside p p' b' ∧ Abreast st1 st1'

end StagedFiles
