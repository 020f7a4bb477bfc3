-- What the calls that wait leave alone, whatever the store does: the kind, the
-- descriptor and the capacity of the adapter, the requests that are out and
-- the bytes counted for requests that were handed in.
import StagedFiles.Stage.Async

namespace StagedFiles

variable {σ : Type} [ObjectStore σ]

/-! ## The adapter -/

namespace Adapter

/-- The same adapter, but for what stands in its buffer and what it counted. -/
structure Same (a a' : Adapter) : Prop where
  kind : a'.kind = a.kind
  fd : a'.fd = a.fd
  capacity : a'.buffer.capacity = a.buffer.capacity

theorem Same.refl (a : Adapter) : a.Same a := ⟨rfl, rfl, rfl⟩

theorem Same.trans {a b c : Adapter} (h : a.Same b) (h' : b.Same c) : a.Same c :=
  ⟨h'.kind.trans h.kind, h'.fd.trans h.fd, h'.capacity.trans h.capacity⟩

variable {a a' : Adapter} {st st' : σ} {offset count : Nat} {r : Except Failure Nat}

theorem install_same {bytes : Bytes} (h : a.install offset bytes = (r, a')) : a.Same a' := by
  unfold install at h
  dsimp only at h
  split at h
  · obtain ⟨_, rfl⟩ := Prod.mk.inj h
    exact ⟨rfl, rfl, rfl⟩
  · rename_i b hset
    obtain ⟨_, rfl⟩ := Prod.mk.inj h
    unfold StagingBuffer.setLength at hset
    split at hset
    · cases hset
      exact ⟨rfl, rfl, rfl⟩
    · cases hset

theorem finish_same {c : Completion} (h : a.finish offset count c = (r, a')) : a.Same a' := by
  unfold finish at h
  split at h
  · exact install_same h
  · obtain ⟨_, rfl⟩ := Prod.mk.inj h
    exact .refl a
  · obtain ⟨_, rfl⟩ := Prod.mk.inj h
    exact ⟨rfl, rfl, rfl⟩
  · obtain ⟨_, rfl⟩ := Prod.mk.inj h
    exact .refl a

theorem readNow_same (h : a.readNow offset count st = (r, a', st')) : a.Same a' := by
  unfold readNow at h
  split at h
  · rename_i bytes _ _
    rcases hi : a.install offset bytes with ⟨r', a''⟩
    rw [hi] at h
    cases h
    exact install_same hi
  · cases h
    exact ⟨rfl, rfl, rfl⟩

theorem writeNow_same (h : a.writeNow offset count st = (r, a', st')) : a.Same a' := by
  unfold writeNow at h
  split at h
  · cases h
    exact ⟨rfl, rfl, rfl⟩
  · cases h
    exact .refl a

theorem submitRead_same {r : Except Failure (Started (Except Failure Nat))}
    (h : a.submitRead offset count st = (r, a', st')) : a.Same a' := by
  unfold submitRead at h
  split at h
  · cases h
    exact .refl a
  · split at h
    · rcases hn : a.readNow offset count st with ⟨r', a'', st''⟩
      rw [hn] at h
      cases h
      exact readNow_same hn
    · split at h
      · cases h
        exact .refl a
      · cases h
        exact .refl a

theorem submitWrite_same {r : Except Failure (Started (Except Failure Nat))}
    (h : a.submitWrite offset count st = (r, a', st')) : a.Same a' := by
  unfold submitWrite at h
  split at h
  · cases h
    exact .refl a
  · split at h
    · rcases hn : a.writeNow offset count st with ⟨r', a'', st''⟩
      rw [hn] at h
      cases h
      exact writeNow_same hn
    · split at h
      · cases h
        exact .refl a
      · cases h
        exact .refl a

theorem settle_same {d : Direction} {started : Started (Except Failure Nat)}
    (h : a.settle d offset count started st = (r, a', st')) : a.Same a' := by
  unfold settle at h
  split at h
  · cases h
    exact .refl a
  · split at h
    · rename_i c _ _
      rcases hf : a.finish offset count c with ⟨r', a''⟩
      rw [hf] at h
      cases h
      exact finish_same hf
    · cases h
      exact .refl a

theorem read_same (h : a.read offset count st = (r, a', st')) : a.Same a' := by
  unfold read at h
  split at h
  · rename_i hs
    cases h
    exact submitRead_same hs
  · rename_i hs
    exact (submitRead_same hs).trans (settle_same h)

theorem write_same (h : a.write offset count st = (r, a', st')) : a.Same a' := by
  unfold write at h
  split at h
  · rename_i hs
    cases h
    exact submitWrite_same hs
  · rename_i hs
    exact (submitWrite_same hs).trans (settle_same h)

end Adapter

/-! ## The stage -/

namespace Stage

/-- The same stage, but for its image, whether it is staged, and the other counters. -/
structure Same (s s' : Stage) : Prop where
  adapter : s.adapter.Same s'.adapter
  inflight : s'.inflight = s.inflight
  aioReadBytes : s'.stats.aioReadBytes = s.stats.aioReadBytes
  aioWriteBytes : s'.stats.aioWriteBytes = s.stats.aioWriteBytes

theorem Same.refl (s : Stage) : s.Same s := ⟨.refl _, rfl, rfl, rfl⟩

theorem Same.trans {s t u : Stage} (h : s.Same t) (h' : t.Same u) : s.Same u :=
  ⟨h.adapter.trans h'.adapter, h'.inflight.trans h.inflight,
    h'.aioReadBytes.trans h.aioReadBytes, h'.aioWriteBytes.trans h.aioWriteBytes⟩

theorem Same.fd {s s' : Stage} (h : s.Same s') : s'.fd = s.fd := h.adapter.fd

theorem Same.capacity {s s' : Stage} (h : s.Same s') : s'.capacity = s.capacity :=
  h.adapter.capacity

theorem Same.outstanding {s s' : Stage} (h : s.Same s') : s'.outstanding = s.outstanding := by
  unfold Stage.outstanding
  rw [h.inflight]

theorem same_of_adapter {s : Stage} {a : Adapter} (h : s.adapter.Same a) :
    s.Same { s with adapter := a } := ⟨h, rfl, rfl, rfl⟩

variable {s s' : Stage} {st st' : σ}

/-- The ways in which a flush comes out: nothing was staged, or the write of the
staged bytes failed, fell short or moved them all. -/
inductive Flushed (s : Stage) (st : σ) : Except Failure Nat → Stage → σ → Prop where
  | clean : s.dirty = false → Flushed s st (.ok 0) s st
  | failed {f : Failure} {a : Adapter} {st' : σ} : s.dirty = true →
      s.adapter.write s.buffer.start s.buffer.len st = (.error f, a, st') →
      Flushed s st (.error f) { s with adapter := a } st'
  | short {n : Nat} {a : Adapter} {st' : σ} : s.dirty = true →
      s.adapter.write s.buffer.start s.buffer.len st = (.ok n, a, st') → n ≠ s.buffer.len →
      Flushed s st (.error (.refused .writing Errno.io)) { s with adapter := a } st'
  | whole {n : Nat} {a : Adapter} {st' : σ} : s.dirty = true →
      s.adapter.write s.buffer.start s.buffer.len st = (.ok n, a, st') → n = s.buffer.len →
      Flushed s st (.ok n) (countFlush { s with adapter := a, dirty := false } n) st'

theorem flushNow_cases {r : Except Failure Nat} (h : s.flushNow st = (r, s', st')) :
    Flushed s st r s' st' := by
  unfold flushNow at h
  split at h
  · rename_i hd
    dsimp only at h
    split at h
    · rename_i hw
      cases h
      exact .failed hd hw
    · rename_i hw
      split at h
      · rename_i hall
        cases h
        exact .whole hd hw hall
      · rename_i hshort
        cases h
        exact .short hd hw hshort
  · rename_i hd
    cases h
    exact .clean (by simpa using hd)

/-- A write that moves all of the staged bytes leaves nothing staged. -/
theorem flushNow_whole {a : Adapter} (hd : s.dirty = true)
    (hw : s.adapter.write s.buffer.start s.buffer.len st = (.ok s.buffer.len, a, st')) :
    s.flushNow st =
      (.ok s.buffer.len, countFlush { s with adapter := a, dirty := false } s.buffer.len, st') := by
  unfold flushNow
  rw [if_pos hd]
  dsimp only
  rw [hw]
  dsimp only
  rw [if_pos rfl]

theorem flushNow_same {r : Except Failure Nat} (h : s.flushNow st = (r, s', st')) : s.Same s' := by
  cases flushNow_cases h with
  | clean _ => exact .refl s
  | failed _ hw => exact same_of_adapter (Adapter.write_same hw)
  | short _ hw _ => exact same_of_adapter (Adapter.write_same hw)
  | whole _ hw _ => exact ⟨Adapter.write_same hw, rfl, rfl, rfl⟩

/-- A read into the buffer of a stage that counted a miss. -/
theorem missed_same {pos count : Nat} {r : Except Failure Nat} {a : Adapter}
    (h : s.countMiss.adapter.read pos count st = (r, a, st')) :
    s.Same { s.countMiss with adapter := a } :=
  ⟨Adapter.read_same h, rfl, rfl, rfl⟩

theorem readFrom_same {pos want : Nat} {pieces : List Bytes} {r : Except Failure (List Bytes)}
    (h : s.readFrom st pos want pieces = (r, s', st')) : s.Same s' := by
  fun_induction readFrom s st pos want pieces with
  | case1 s st pos pieces =>
    cases h
    exact .refl _
  | case2 s st pos want pieces hw hit hh ih =>
    have hrest := ih h
    exact ⟨hrest.adapter, hrest.inflight, hrest.aioReadBytes, hrest.aioWriteBytes⟩
  | case3 s st pos want pieces hw hit hh f s1 st1 hf =>
    cases h
    exact flushNow_same hf
  | case4 s st pos want pieces hw hit hh n s1 st1 hf missed f a st2 hr =>
    cases h
    exact (flushNow_same hf).trans (missed_same hr)
  | case5 s st pos want pieces hw hit hh n s1 st1 hf missed a st2 filled hr =>
    simp only [Prod.mk.injEq] at h
    obtain ⟨_, rfl, _⟩ := h
    exact (flushNow_same hf).trans (missed_same hr)
  | case6 s st pos want pieces hw hit hh n s1 st1 hf missed count a st2 hr filled hn got hg =>
    simp only [Prod.mk.injEq] at h
    obtain ⟨_, rfl, _⟩ := h
    exact (flushNow_same hf).trans (missed_same hr)
  | case7 s st pos want pieces hw hit hh n s1 st1 hf missed count a st2 hr filled hn got hg ih =>
    exact ((flushNow_same hf).trans (missed_same hr)).trans (ih h)

theorem readBytes_same {offset want : Nat} {r : Except Failure Bytes}
    (h : s.readBytes st offset want = (r, s', st')) : s.Same s' := by
  unfold readBytes at h
  split at h
  · rename_i hr
    cases h
    exact readFrom_same hr
  · rename_i hr
    cases h
    exact readFrom_same hr

theorem stageFrom_same {pos done : Nat} {data : Bytes} {r : Except Failure Nat}
    (h : s.stageFrom st pos data done = (r, s', st')) : s.Same s' := by
  fun_induction stageFrom s st pos data done with
  | case1 s st pos done =>
    cases h
    exact .refl _
  | case2 s st pos data done hd hj b =>
    cases h
    exact ⟨⟨rfl, rfl, rfl⟩, rfl, rfl, rfl⟩
  | case3 s st pos data done hd hj f s1 st1 hf =>
    cases h
    exact flushNow_same hf
  | case4 s st pos data done hd hj n s1 st1 hf b piece fits taken started ih =>
    have hstart : s1.Same started := ⟨⟨rfl, rfl, rfl⟩, rfl, rfl, rfl⟩
    exact ((flushNow_same hf).trans hstart).trans (ih h)

/-! ## Reads stage nothing -/

theorem flushNow_clean (st : σ) (hd : s.dirty = false) : s.flushNow st = (.ok 0, s, st) := by
  unfold flushNow
  rw [hd]
  rfl

/-- A read of a stage with nothing staged leaves it so. -/
theorem readFrom_clean {pos want : Nat} {pieces : List Bytes} {r : Except Failure (List Bytes)}
    (hd : s.dirty = false) (h : s.readFrom st pos want pieces = (r, s', st')) :
    s'.dirty = false := by
  fun_induction readFrom s st pos want pieces with
  | case1 s st pos pieces =>
    cases h
    exact hd
  | case2 s st pos want pieces hw hit hh ih => exact ih hd h
  | case3 s st pos want pieces hw hit hh f s1 st1 hf =>
    rw [flushNow_clean st hd] at hf
    cases hf
  | case4 s st pos want pieces hw hit hh n s1 st1 hf missed f a st2 hr =>
    rw [flushNow_clean st hd] at hf
    cases hf
    cases h
    exact hd
  | case5 s st pos want pieces hw hit hh n s1 st1 hf missed a st2 filled hr =>
    rw [flushNow_clean st hd] at hf
    cases hf
    simp only [Prod.mk.injEq] at h
    obtain ⟨_, rfl, _⟩ := h
    exact hd
  | case6 s st pos want pieces hw hit hh n s1 st1 hf missed count a st2 hr filled hn got hg =>
    rw [flushNow_clean st hd] at hf
    cases hf
    simp only [Prod.mk.injEq] at h
    obtain ⟨_, rfl, _⟩ := h
    exact hd
  | case7 s st pos want pieces hw hit hh n s1 st1 hf missed count a st2 hr filled hn got hg ih =>
    rw [flushNow_clean st hd] at hf
    cases hf
    exact ih hd h

theorem readBytes_clean {offset want : Nat} {r : Except Failure Bytes} (hd : s.dirty = false)
    (h : s.readBytes st offset want = (r, s', st')) : s'.dirty = false := by
  unfold readBytes at h
  split at h
  · rename_i hr
    cases h
    exact readFrom_clean hd hr
  · rename_i hr
    cases h
    exact readFrom_clean hd hr

/-! ## The calls that wait -/

theorem read_same {offset len : Nat} {r : Except Failure Bytes}
    (h : s.read offset len st = (r, s', st')) : s.Same s' := by
  unfold read at h
  split at h
  · cases h
    exact .refl _
  · cases h
    exact .refl _
  · exact readBytes_same h

theorem write_same {offset : Nat} {data : Bytes} {r : Except Failure Nat}
    (h : s.write offset data st = (r, s', st')) : s.Same s' := by
  unfold write at h
  split at h
  · cases h
    exact .refl _
  · cases h
    exact .refl _
  · exact stageFrom_same h

theorem flush_same {r : Except Failure Nat} (h : s.flush st = (r, s', st')) : s.Same s' := by
  unfold flush at h
  split at h
  · cases h
    exact .refl _
  · exact flushNow_same h

theorem read_clean {offset len : Nat} {r : Except Failure Bytes} (hd : s.dirty = false)
    (h : s.read offset len st = (r, s', st')) : s'.dirty = false := by
  unfold read at h
  split at h
  · cases h
    exact hd
  · cases h
    exact hd
  · exact readBytes_clean hd h

theorem flush_clean {r : Except Failure Nat} (hd : s.dirty = false)
    (h : s.flush st = (r, s', st')) : s'.dirty = false := by
  unfold flush at h
  split at h
  · cases h
    exact hd
  · rw [flushNow_clean st hd] at h
    cases h
    exact hd

end Stage

end StagedFiles
