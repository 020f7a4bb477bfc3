-- Flushes of staged bytes, whoever asks for them. The transfer is the same write of the
-- same bytes each time. One that fails leaves them staged, and one that comes out well
-- leaves nothing staged. A call that has to flush first fails where the flush fails,
-- and otherwise goes on as it would from the stage that was flushed.
import StagedFiles.Proofs.StageRequests
import StagedFiles.Proofs.StageView

namespace StagedFiles

/-! ## The transfer -/

/-- The one transfer with which data go to a descriptor: a write that is over at once, or
one that is handed in and, when it is taken in, waited for. -/
inductive Sent {σ : Type} [ObjectStore σ] (fd : Fd) (offset : Nat) (data : Bytes) (st : σ) :
    σ → Prop where
  | written {r : Except Failure Nat} {st' : σ} :
      ObjectStore.writeAt fd offset data st = (r, st') → Sent fd offset data st st'
  | refused {f : Failure} {st' : σ} :
      ObjectStore.submitWrite fd offset data st = (.error f, st') → Sent fd offset data st st'
  | awaited {ticket : Ticket} {c : Option Completion} {st1 st' : σ} :
      ObjectStore.submitWrite fd offset data st = (.ok ticket, st1) →
      ObjectStore.await ticket st1 = (c, st') → Sent fd offset data st st'

variable {σ : Type} [ObjectStore σ] {fd : Fd} {K : Keeper σ fd} {st st' st1 : σ}

/-- A write of an adapter sends the front of its region. -/
theorem Adapter.write_sent {a a' : Adapter} {offset count : Nat} {r : Except Failure Nat}
    (hcap : count ≤ a.buffer.capacity) (h : a.write offset count st = (r, a', st')) :
    Sent a.fd offset (a.buffer.peek 0 count) st st' := by
  unfold Adapter.write submitWrite at h
  rw [checkCount_ok hcap] at h
  rcases hkind : a.kind with _ | _
  · unfold writeNow at h
    rcases hw : ObjectStore.writeAt a.fd offset (a.buffer.peek 0 count) st with ⟨f | n, st1⟩
    · simp only [hkind, hw, settle, Prod.mk.injEq] at h
      obtain ⟨-, -, rfl⟩ := h
      exact .written hw
    · simp only [hkind, hw, settle, Prod.mk.injEq] at h
      obtain ⟨-, -, rfl⟩ := h
      exact .written hw
  · rcases hs : ObjectStore.submitWrite a.fd offset (a.buffer.peek 0 count) st with ⟨f | t, st1⟩
    · simp only [hkind, hs, Prod.mk.injEq] at h
      obtain ⟨-, -, rfl⟩ := h
      exact .refused hs
    · rcases hw : ObjectStore.await t st1 with ⟨_ | c, st2⟩
      · simp only [hkind, hs, settle, hw, Prod.mk.injEq] at h
        obtain ⟨-, -, rfl⟩ := h
        exact .awaited hs hw
      · simp only [hkind, hs, settle, hw, Prod.mk.injEq] at h
        obtain ⟨-, -, rfl⟩ := h
        exact .awaited hs hw

namespace Stage

variable {s s' s1 : Stage} {object : Bytes}

/-! ## What a flush leaves -/

/-- The same bytes are staged, for the same adapter, and as many flushes were counted. -/
structure SameStaged (s s' : Stage) : Prop where
  dirty : s'.dirty = s.dirty
  image : s.buffer.SameImage s'.buffer
  adapter : s.adapter.Same s'.adapter
  inflight : s'.inflight = s.inflight
  flushes : s'.stats.flushes = s.stats.flushes
  flushedBytes : s'.stats.flushedBytes = s.stats.flushedBytes

theorem SameStaged.refl (s : Stage) : s.SameStaged s := ⟨rfl, .refl _, .refl _, rfl, rfl, rfl⟩

theorem SameStaged.trans (h : s.SameStaged s') (h' : s'.SameStaged s1) : s.SameStaged s1 :=
  ⟨h'.dirty.trans h.dirty, h.image.trans h'.image, h.adapter.trans h'.adapter,
    h'.inflight.trans h.inflight, h'.flushes.trans h.flushes,
    h'.flushedBytes.trans h.flushedBytes⟩

theorem SameStaged.outstanding (h : s.SameStaged s') : s'.outstanding = s.outstanding := by
  unfold Stage.outstanding
  rw [h.inflight]

/-- The staged bytes went to the store, and the flush was counted with all of them. -/
structure Unstaged (s s' : Stage) : Prop where
  clean : s'.dirty = false
  image : s.buffer.SameImage s'.buffer
  adapter : s.adapter.Same s'.adapter
  inflight : s'.inflight = s.inflight
  flushes : s'.stats.flushes = s.stats.flushes + 1
  flushedBytes : s'.stats.flushedBytes = Counter.plus s.stats.flushedBytes s.buffer.len

theorem Unstaged.outstanding (h : s.Unstaged s') : s'.outstanding = s.outstanding := by
  unfold Stage.outstanding
  rw [h.inflight]

theorem Unstaged.capacity (h : s.Unstaged s') : s'.capacity = s.capacity := h.adapter.capacity

/-- The same bytes that were staged before went to the store. -/
theorem SameStaged.unstaged (h : s.SameStaged s') (h' : s'.Unstaged s1) : s.Unstaged s1 := by
  refine ⟨h'.clean, h.image.trans h'.image, h.adapter.trans h'.adapter,
    h'.inflight.trans h.inflight, ?_, ?_⟩
  · rw [h'.flushes, h.flushes]
  · rw [h'.flushedBytes, h.flushedBytes, h.image.len]

/-- A flush of staged bytes sends them. -/
theorem flushNow_sent {r : Except Failure Nat} (hd : s.dirty = true)
    (h : s.flushNow st = (r, s', st')) : Sent s.fd s.buffer.start s.buffer.image st st' := by
  cases flushNow_cases h with
  | clean hclean =>
    rw [hd] at hclean
    cases hclean
  | failed _ hw => exact Adapter.write_sent s.buffer.len_le hw
  | short _ hw _ => exact Adapter.write_sent s.buffer.len_le hw
  | whole _ hw _ => exact Adapter.write_sent s.buffer.len_le hw

/-- A flush that fails leaves the same bytes staged, and a front of them over the object at most. -/
theorem flushNow_error {f : Failure} (hfd : s.fd = fd) (hk : K.Keeps st object none)
    (h : s.flushNow st = (.error f, s', st')) :
    s.SameStaged s' ∧ ∃ object', K.Keeps st' object' none ∧
      Bytes.FrontLaid object s.buffer.start s.buffer.image object' := by
  cases flushNow_cases h with
  | failed _ hw =>
    obtain ⟨hsame, hput⟩ := write_image_kept hfd hk hw
    cases hput with
    | error hfront hk' => exact ⟨⟨rfl, hsame, Adapter.write_same hw, rfl, rfl, rfl⟩, _, hk', hfront⟩
  | short _ hw _ =>
    obtain ⟨hsame, hput⟩ := write_image_kept hfd hk hw
    cases hput with
    | ok _ hk' =>
      exact ⟨⟨rfl, hsame, Adapter.write_same hw, rfl, rfl, rfl⟩, _, hk', .inr ⟨_, rfl⟩⟩

/-- A flush that comes out well leaves all of the staged bytes over the object. -/
theorem flushNow_ok {n : Nat} (hfd : s.fd = fd) (hd : s.dirty = true) (hk : K.Keeps st object none)
    (h : s.flushNow st = (.ok n, s', st')) :
    n = s.buffer.len ∧ s.Unstaged s' ∧
      K.Keeps st' (Bytes.overlay object s.buffer.start s.buffer.image) none := by
  cases flushNow_cases h with
  | clean hclean =>
    rw [hd] at hclean
    cases hclean
  | whole _ hw hall =>
    obtain ⟨hsame, hput⟩ := write_image_kept hfd hk hw
    cases hput with
    | ok _ hk' =>
      rw [List.take_of_length_le (by rw [hall, StagingBuffer.length_image])] at hk'
      subst hall
      exact ⟨rfl, ⟨rfl, hsame, Adapter.write_same hw, rfl, rfl, rfl⟩, hk'⟩

/-- A hit that is counted before a flush is counted after it as well. -/
theorem flushNow_countHit {r : Except Failure Nat} (h : s.flushNow st = (r, s', st')) :
    s.countHit.flushNow st = (r, s'.countHit, st') := by
  have hdirty : s.countHit.dirty = s.dirty := rfl
  have hwrites : s.countHit.adapter.write s.countHit.buffer.start s.countHit.buffer.len st =
      s.adapter.write s.buffer.start s.buffer.len st := rfl
  have hlen : s.countHit.buffer.len = s.buffer.len := rfl
  unfold Stage.flushNow
  cases flushNow_cases h with
  | clean hd => rw [hdirty, if_neg (by rw [hd]; decide)]
  | failed hd hw =>
    rw [hdirty, if_pos hd]
    dsimp only
    rw [hwrites, hw]
    rfl
  | short hd hw hne =>
    rw [hdirty, if_pos hd]
    dsimp only
    rw [hwrites, hw, hlen]
    dsimp only
    rw [if_neg hne]
    rfl
  | whole hd hw hall =>
    rw [hdirty, if_pos hd]
    dsimp only
    rw [hwrites, hw, hlen]
    dsimp only
    rw [if_pos hall]
    rfl

/-! ## Reads of what is staged -/

/-- What the image has of a range inside it is all of the range. -/
theorem copyOut_inside {b : StagingBuffer} {offset len : Nat} (hv : b.valid = true)
    (hle : b.start ≤ offset) (hend : offset + len ≤ b.stop) :
    b.copyOut offset len = Bytes.slice b.image (offset - b.start) len := by
  rw [StagingBuffer.copyOut_eq]
  split
  · rfl
  · rename_i hnot
    have hzero : len = 0 := by
      by_contra hpos
      exact hnot ⟨hv, hle, by omega⟩
    rw [hzero]
    rfl

/-- The image covers such a range. -/
theorem covers_inside {b : StagingBuffer} {offset len : Nat} (hv : b.valid = true)
    (hle : b.start ≤ offset) (hend : offset + len ≤ b.stop) (hlast : offset + len ≤ Offset.last) :
    b.covers offset len = true := by
  unfold StagingBuffer.covers
  rw [hv]
  simp only [Bool.true_and, decide_eq_true_eq]
  exact ⟨hle, hlast, hend⟩

/-- A read of no more than the image has takes it from there. -/
theorem readBytes_hit {offset len : Nat} (st : σ)
    (hhit : (s.buffer.copyOut offset len).length = len) :
    ∃ s', s.readBytes st offset len = (.ok (s.buffer.copyOut offset len), s', st) ∧
      s.SameStaged s' := by
  by_cases hzero : len = 0
  · subst hzero
    refine ⟨s, ?_, .refl s⟩
    rw [List.length_eq_zero_iff.mp hhit]
    unfold Stage.readBytes
    rw [Stage.readFrom, dif_pos rfl]
    rfl
  · refine ⟨s.countHit, ?_, rfl, .refl _, .refl _, rfl, rfl, rfl⟩
    unfold Stage.readBytes
    rw [Stage.readFrom, dif_neg hzero, dif_pos (by rw [hhit]; exact hzero), hhit, Nat.sub_self,
      Stage.readFrom, dif_pos rfl]
    simp

/-- A read that is handed in and that the image covers is over at once. -/
theorem readAio_hit {offset len : Nat} (st : σ) (hidle : s.outstanding = 0)
    (hcovers : s.buffer.covers offset len = true) :
    ∃ s', s.readAio offset len st =
        (.ok (.finished (.bytes (.ok (s.buffer.copyOut offset len)))), s', st) ∧
      s.SameStaged s' := by
  refine ⟨s.countHit.countAioRead len, ?_, rfl, .refl _, .refl _, rfl, rfl, rfl⟩
  have hlast := StagingBuffer.last_of_covers hcovers
  have hlen := StagingBuffer.length_copyOut_of_covers hcovers
  have hall := Bytes.resize_length (s.buffer.copyOut offset len)
  rw [hlen] at hall
  unfold Stage.readAio
  rw [rangeEnd_of_le hlast, checkIdle_of_idle hidle]
  dsimp only
  rw [if_pos hcovers, hall]

/-! ## Calls that flush first -/

/-- The call fails where a flush fails. Where a flush comes out well, it goes on as it would
from the stage that was flushed. -/
structure FlushesFirst {ρ : Type} (call : Stage → σ → ρ × Stage × σ) (failed : Failure → ρ)
    (s : Stage) (st : σ) : Prop where
  fails {f : Failure} {s1 : Stage} {st1 : σ} : s.flushNow st = (.error f, s1, st1) →
    ∃ s', call s st = (failed f, s', st1) ∧ s1.SameStaged s'
  goesOn {n : Nat} {s1 : Stage} {st1 : σ} : s.flushNow st = (.ok n, s1, st1) → s.Unstaged s1 →
    call s st = call s1 st1

/-- A stage that was flushed is left alone by the next flush. -/
theorem Unstaged.flushNow (h : s.Unstaged s1) (st : σ) : s1.flushNow st = (.ok 0, s1, st) :=
  flushNow_clean st h.clean

/-! ### Reads -/

/-- Where the image has nothing to copy, a read flushes. -/
theorem readFrom_gap {pos want : Nat} (pieces : List Bytes) (st : σ) (hw : want ≠ 0)
    (hgap : (s.buffer.copyOut pos want).length = 0) :
    FlushesFirst (fun s st => s.readFrom st pos want pieces) Except.error s st where
  fails hf := by
    rw [Stage.readFrom, dif_neg hw, dif_neg (not_not.mpr hgap), hf]
    exact ⟨_, rfl, .refl _⟩
  goesOn {n s1 st1} hf h1 := by
    have hgap1 : (s1.buffer.copyOut pos want).length = 0 := by
      rw [h1.image.copyOut]
      exact hgap
    conv => lhs; rw [Stage.readFrom, dif_neg hw, dif_neg (not_not.mpr hgap), hf]
    conv => rhs; rw [Stage.readFrom, dif_neg hw, dif_neg (not_not.mpr hgap1), h1.flushNow]

/-- Behind what the image has there is nothing more to copy. -/
theorem copyOut_behind {b : StagingBuffer} {pos want : Nat}
    (hshort : (b.copyOut pos want).length < want) (m : Nat) :
    (b.copyOut (pos + (b.copyOut pos want).length) m).length = 0 := by
  have hstop : b.stop ≤ b.start + b.len := Nat.min_le_left ..
  rw [StagingBuffer.length_copyOut, if_neg]
  rw [StagingBuffer.length_copyOut] at hshort ⊢
  split at hshort
  · rename_i hcond
    rw [if_pos hcond]
    omega
  · rename_i hcond
    rw [if_neg hcond]
    exact hcond

/-- What the image has is read first, and counted as a hit. -/
theorem readFrom_hit {pos want : Nat} (pieces : List Bytes) (st : σ) (hw : want ≠ 0)
    (hhit : (s.buffer.copyOut pos want).length ≠ 0) :
    s.readFrom st pos want pieces =
      s.countHit.readFrom st (pos + (s.buffer.copyOut pos want).length)
        (want - (s.buffer.copyOut pos want).length) (s.buffer.copyOut pos want :: pieces) := by
  rw [Stage.readFrom, dif_neg hw, dif_pos hhit]

/-- So does a read of more than the image has, behind what it has. -/
theorem readFrom_flushes {pos want : Nat} (pieces : List Bytes) (st : σ)
    (hmiss : (s.buffer.copyOut pos want).length < want) :
    FlushesFirst (fun s st => s.readFrom st pos want pieces) Except.error s st := by
  have hw : want ≠ 0 := by omega
  by_cases hgap : (s.buffer.copyOut pos want).length = 0
  · exact readFrom_gap pieces st hw hgap
  · have hleft : want - (s.buffer.copyOut pos want).length ≠ 0 := by omega
    have hbehind := readFrom_gap (s := s.countHit) (s.buffer.copyOut pos want :: pieces) st hleft
      (copyOut_behind hmiss _)
    refine ⟨?_, ?_⟩
    · intro f s1 st1 hf
      obtain ⟨s', hr, hsame⟩ := hbehind.fails (flushNow_countHit hf)
      have hcounted : s1.SameStaged s1.countHit := ⟨rfl, .refl _, .refl _, rfl, rfl, rfl⟩
      exact ⟨s', (readFrom_hit pieces st hw hgap).trans hr, hcounted.trans hsame⟩
    · intro n s1 st1 hf h1
      have hcounted : s.countHit.Unstaged s1.countHit :=
        ⟨h1.clean, h1.image, h1.adapter, h1.inflight, h1.flushes, h1.flushedBytes⟩
      have hrest := hbehind.goesOn (flushNow_countHit hf) hcounted
      have hsame := h1.image.copyOut pos want
      show s.readFrom st pos want pieces = s1.readFrom st1 pos want pieces
      rw [readFrom_hit pieces st hw hgap, hrest, readFrom_hit pieces st1 hw (hsame ▸ hgap), hsame]

theorem readBytes_flushes {offset want : Nat} (st : σ)
    (hmiss : (s.buffer.copyOut offset want).length < want) :
    FlushesFirst (fun s st => s.readBytes st offset want) Except.error s st := by
  have hread := readFrom_flushes [] st hmiss
  refine ⟨?_, ?_⟩
  · intro f s1 st1 hf
    obtain ⟨s', hr, hsame⟩ := hread.fails hf
    refine ⟨s', ?_, hsame⟩
    unfold Stage.readBytes
    rw [hr]
  · intro n s1 st1 hf h1
    unfold Stage.readBytes
    rw [hread.goesOn hf h1]

/-! ### Writes -/

/-- Data that do not join the staged bytes make the stage flush. -/
theorem stageFrom_flushes {pos : Nat} {data : Bytes} (hdata : data ≠ [])
    (happart : ¬ (s.buffer.stop = pos ∧ s.buffer.hasRoom data = true)) (done : Nat) (st : σ) :
    FlushesFirst (fun s st => s.stageFrom st pos data done) Except.error s st where
  fails hf := by
    rw [Stage.stageFrom, dif_neg hdata, dif_neg fun h => happart h.2, hf]
    exact ⟨_, rfl, .refl _⟩
  goesOn {n s1 st1} hf h1 := by
    have hnot1 : ¬ (s1.dirty = true ∧ s1.buffer.stop = pos ∧ s1.buffer.hasRoom data = true) := by
      rintro ⟨hdirty, -⟩
      rw [h1.clean] at hdirty
      cases hdirty
    conv => lhs; rw [Stage.stageFrom, dif_neg hdata, dif_neg fun h => happart h.2, hf]
    conv => rhs; rw [Stage.stageFrom, dif_neg hdata, dif_neg hnot1, h1.flushNow]

/-! ### Requests that are handed in -/

/-- A read that the image does not cover and that is larger than the buffer is made at once. -/
theorem readAio_large_flushes {offset len : Nat} (st : σ) (hlast : offset + len ≤ Offset.last)
    (hidle : s.outstanding = 0) (hcovers : s.buffer.covers offset len = false)
    (hlarge : s.capacity < len) :
    FlushesFirst (fun s st => s.readAio offset len st)
      (fun f => .ok (.finished (.bytes (.error f)))) s st := by
  have hmiss : (s.buffer.copyOut offset len).length < len := by
    have hle : (s.buffer.copyOut offset len).length ≤ s.buffer.len := by
      rw [StagingBuffer.length_copyOut]
      split <;> omega
    exact Nat.lt_of_le_of_lt (Nat.le_trans hle s.buffer.len_le) hlarge
  have hread := readBytes_flushes st hmiss
  refine ⟨?_, ?_⟩
  · intro f s1 st1 hf
    obtain ⟨s', hr, hsame⟩ := hread.fails hf
    refine ⟨s', ?_, hsame⟩
    unfold Stage.readAio
    rw [rangeEnd_of_le hlast, checkIdle_of_idle hidle, hcovers]
    dsimp only
    rw [if_neg Bool.false_ne_true, if_pos hlarge, hr]
  · intro n s1 st1 hf h1
    have hcovers1 := (h1.image.covers offset len).trans hcovers
    have hidle1 := h1.outstanding.trans hidle
    have hlarge1 : s1.capacity < len := h1.capacity ▸ hlarge
    have hsame : s.readBytes st offset len = s1.readBytes st1 offset len := hread.goesOn hf h1
    unfold Stage.readAio
    rw [rangeEnd_of_le hlast, checkIdle_of_idle hidle, checkIdle_of_idle hidle1, hcovers, hcovers1]
    dsimp only
    rw [if_neg Bool.false_ne_true, if_neg Bool.false_ne_true, if_pos hlarge, if_pos hlarge1, hsame]

/-- A read that fits into the buffer flushes before it is handed in. -/
theorem readAio_fitting_flushes {offset len : Nat} (st : σ) (hlast : offset + len ≤ Offset.last)
    (hidle : s.outstanding = 0) (hcovers : s.buffer.covers offset len = false)
    (hfits : ¬ s.capacity < len) :
    FlushesFirst (fun s st => s.readAio offset len st) Except.error s st where
  fails {f s1 st1} hf := by
    refine ⟨s1, ?_, .refl s1⟩
    unfold Stage.readAio
    rw [rangeEnd_of_le hlast, checkIdle_of_idle hidle, hcovers]
    dsimp only
    rw [if_neg Bool.false_ne_true, if_neg hfits, hf]
  goesOn {n s1 st1} hf h1 := by
    have hcovers1 := (h1.image.covers offset len).trans hcovers
    have hidle1 := h1.outstanding.trans hidle
    have hfits1 : ¬ s1.capacity < len := h1.capacity ▸ hfits
    unfold Stage.readAio
    rw [rangeEnd_of_le hlast, checkIdle_of_idle hidle, checkIdle_of_idle hidle1, hcovers, hcovers1]
    dsimp only
    rw [if_neg Bool.false_ne_true, if_neg Bool.false_ne_true, if_neg hfits, if_neg hfits1, hf,
      h1.flushNow]

/-- Data larger than the buffer are staged at once, behind a flush of what was staged. -/
theorem writeAio_large_flushes {offset : Nat} {data : Bytes} (st : σ)
    (hlast : offset + data.length ≤ Offset.last) (hidle : s.outstanding = 0)
    (hlarge : s.capacity < data.length) :
    FlushesFirst (fun s st => s.writeAio offset data st)
      (fun f => .ok (.finished (.count (.error f)))) s st := by
  have hstage : FlushesFirst (fun s st => s.stageBytes st offset data) Except.error s st := by
    have hdata : data ≠ [] := List.length_pos_iff.mp (Nat.zero_lt_of_lt hlarge)
    refine stageFrom_flushes hdata ?_ 0 st
    rintro ⟨-, hroom⟩
    have hfits := (s.buffer.hasRoom_iff data).mp hroom
    exact absurd hlarge (Nat.not_lt.mpr (Nat.le_trans (Nat.le_add_left ..) hfits))
  refine ⟨?_, ?_⟩
  · intro f s1 st1 hf
    obtain ⟨s', hr, hsame⟩ := hstage.fails hf
    refine ⟨s', ?_, hsame⟩
    unfold Stage.writeAio
    rw [rangeEnd_of_le hlast, checkIdle_of_idle hidle]
    dsimp only
    rw [if_pos hlarge, hr]
  · intro n s1 st1 hf h1
    have hidle1 := h1.outstanding.trans hidle
    have hlarge1 : s1.capacity < data.length := h1.capacity ▸ hlarge
    have hsame : s.stageBytes st offset data = s1.stageBytes st1 offset data :=
      hstage.goesOn hf h1
    unfold Stage.writeAio
    rw [rangeEnd_of_le hlast, checkIdle_of_idle hidle, checkIdle_of_idle hidle1]
    dsimp only
    rw [if_pos hlarge, if_pos hlarge1, hsame]

/-- Data that fit into the buffer are handed in after a flush. -/
theorem writeAio_fitting_flushes {offset : Nat} {data : Bytes} (st : σ)
    (hlast : offset + data.length ≤ Offset.last) (hidle : s.outstanding = 0)
    (hfits : ¬ s.capacity < data.length) :
    FlushesFirst (fun s st => s.writeAio offset data st) Except.error s st where
  fails {f s1 st1} hf := by
    refine ⟨s1, ?_, .refl s1⟩
    unfold Stage.writeAio
    rw [rangeEnd_of_le hlast, checkIdle_of_idle hidle]
    dsimp only
    rw [if_neg hfits, hf]
  goesOn {n s1 st1} hf h1 := by
    have hidle1 := h1.outstanding.trans hidle
    have hfits1 : ¬ s1.capacity < data.length := h1.capacity ▸ hfits
    unfold Stage.writeAio
    rw [rangeEnd_of_le hlast, checkIdle_of_idle hidle, checkIdle_of_idle hidle1]
    dsimp only
    rw [if_neg hfits, if_neg hfits1, hf, h1.flushNow]

end Stage

end StagedFiles
