-- Two stages side by side, each with a port of its own to a store of its own. As long
-- as the adapters move the same bytes, flush, reads, writes and requests do the same to
-- both, step by step along their loops: what one has staged the other has staged.
import StagedFiles.Proofs.AdapterPairs
import StagedFiles.Proofs.StageRequests

namespace StagedFiles.Stage

variable {σ τ : Type} [ObjectStore σ] [ObjectStore τ] {p p' : Port} {s s' : Stage} {st : σ} {st' : τ}

/-! ## Two stages -/

/-- Two stages that have come to the same, each at its own port. -/
structure Beside (p p' : Port) (s s' : Stage) : Prop where
  adapter : s.adapter.Beside p p' s'.adapter
  dirty : s'.dirty = s.dirty
  inflight : s'.inflight = s.inflight
  stats : s'.stats = s.stats

namespace Beside

theorem buffer (h : Beside p p' s s') : s.buffer.Alike s'.buffer := h.adapter.buffer

theorem capacity (h : Beside p p' s s') : s'.capacity = s.capacity := h.buffer.capacity

theorem outstanding (h : Beside p p' s s') : s'.outstanding = s.outstanding := by
  unfold Stage.outstanding
  rw [h.inflight]

/-- The adapters moved on together. -/
theorem withAdapter {a a' : Adapter} (h : Beside p p' s s') (ha : a.Beside p p' a') :
    Beside p p' { s with adapter := a } { s' with adapter := a' } :=
  ⟨ha, h.dirty, h.inflight, h.stats⟩

theorem withBuffer {b b' : StagingBuffer} (h : Beside p p' s s') (hb : b.Alike b') :
    Beside p p' (s.withBuffer b) (s'.withBuffer b') :=
  h.withAdapter (h.adapter.withBuffer hb)

theorem withDirty (h : Beside p p' s s') (dirty : Bool) :
    Beside p p' { s with dirty } { s' with dirty } := ⟨h.adapter, rfl, h.inflight, h.stats⟩

theorem withInflight (h : Beside p p' s s') (inflight : InFlight AioRequest) :
    Beside p p' { s with inflight } { s' with inflight } := ⟨h.adapter, h.dirty, rfl, h.stats⟩

theorem counted (h : Beside p p' s s') (f : CacheStats → CacheStats) :
    Beside p p' { s with stats := f s.stats } { s' with stats := f s'.stats } :=
  ⟨h.adapter, h.dirty, h.inflight, congrArg f h.stats⟩

theorem countHit (h : Beside p p' s s') : Beside p p' s.countHit s'.countHit :=
  h.counted fun c => { c with hits := c.hits + 1 }

theorem countMiss (h : Beside p p' s s') : Beside p p' s.countMiss s'.countMiss :=
  h.counted fun c => { c with misses := c.misses + 1 }

theorem countFlush (h : Beside p p' s s') (n : Nat) : Beside p p' (s.countFlush n) (s'.countFlush n) :=
  h.counted fun c =>
    { c with flushes := c.flushes + 1, flushedBytes := Counter.plus c.flushedBytes n }

theorem countAioRead (h : Beside p p' s s') (n : Nat) :
    Beside p p' (s.countAioRead n) (s'.countAioRead n) :=
  h.counted fun c => { c with aioReadBytes := Counter.plus c.aioReadBytes n }

theorem countAioWrite (h : Beside p p' s s') (n : Nat) :
    Beside p p' (s.countAioWrite n) (s'.countAioWrite n) :=
  h.counted fun c => { c with aioWriteBytes := Counter.plus c.aioWriteBytes n }

end Beside

/-- The two come to the same, with the same answer. -/
def Together {α : Type} (P : Pairing σ τ p p') (x : α × Stage × σ) (x' : α × Stage × τ) : Prop :=
  ∃ r s st s' st', x = (r, s, st) ∧ x' = (r, s', st') ∧ Beside p p' s s' ∧ P.Abreast st st'

variable (P : Pairing σ τ p p')

theorem together {α : Type} (r : α) (h : Beside p p' s s') (hs : P.Abreast st st') :
    Together P (r, s, st) (r, s', st') := ⟨r, s, st, s', st', rfl, rfl, h, hs⟩

/-! ## Calls that wait -/

theorem flushNow_together (h : Beside p p' s s') (hs : P.Abreast st st') :
    Together P (s.flushNow st) (s'.flushNow st') := by
  unfold Stage.flushNow
  by_cases hd : s.dirty = true
  · rw [if_pos hd, if_pos (h.dirty.trans hd)]
    dsimp only
    rw [h.buffer.len, h.buffer.start]
    obtain ⟨r, a, st1, a', st1', hw, hw', ha, hs1⟩ :=
      P.write s.buffer.start s.buffer.len h.adapter hs
    rw [hw, hw']
    rcases r with f | n
    · exact together P _ (h.withAdapter ha) hs1
    · dsimp only
      by_cases hn : n = s.buffer.len
      · rw [if_pos hn, if_pos hn]
        exact together P _ (((h.withAdapter ha).withDirty false).countFlush n) hs1
      · rw [if_neg hn, if_neg hn]
        exact together P _ (h.withAdapter ha) hs1
  · rw [if_neg hd, if_neg fun hd' => hd (h.dirty.symm.trans hd')]
    exact together P _ h hs

/-- Flush, then a read into the buffer. -/
theorem refill_together {s1 : Stage} {st1 st2 : σ} {pos n : Nat} {r : Except Failure Nat}
    {a : Adapter} (h : Beside p p' s s') (hs : P.Abreast st st')
    (hf : s.flushNow st = (.ok n, s1, st1))
    (hr : s1.countMiss.adapter.read pos s1.countMiss.capacity st1 = (r, a, st2)) :
    ∃ s1' st1' a' st2', s'.flushNow st' = (.ok n, s1', st1') ∧
      s1'.countMiss.adapter.read pos s1'.countMiss.capacity st1' = (r, a', st2') ∧
      Beside p p' { s1.countMiss with adapter := a } { s1'.countMiss with adapter := a' } ∧
      P.Abreast st2 st2' := by
  obtain ⟨q, t, u, t', u', hf1, hf1', ht, hu⟩ := flushNow_together P h hs
  rw [hf1] at hf
  cases hf
  obtain ⟨q, b, v, b', v', hr1, hr1', hb, hv⟩ :=
    P.read pos s1.countMiss.capacity ht.countMiss.adapter hu
  rw [hr1] at hr
  cases hr
  rw [← ht.countMiss.capacity] at hr1'
  exact ⟨t', u', b', v', hf1', hr1', ht.countMiss.withAdapter hb, hv⟩

/-- The induction follows the loop of the first stage; the other one goes the
same way round because it sees the same pieces. -/
theorem readFrom_together (h : Beside p p' s s') (hs : P.Abreast st st') (pos want : Nat)
    (pieces : List Bytes) :
    Together P (s.readFrom st pos want pieces) (s'.readFrom st' pos want pieces) := by
  fun_induction Stage.readFrom s st pos want pieces generalizing s' st' with
  | case1 s st pos pieces =>
    rw [Stage.readFrom.eq_def s', dif_pos rfl]
    exact together P _ h hs
  | case2 s st pos want pieces hw hit hh =>
    rename_i ih
    rw [Stage.readFrom.eq_def s', dif_neg hw]
    dsimp only
    rw [h.buffer.copyOut, dif_pos hh]
    exact ih h.countHit hs
  | case3 s st pos want pieces hw hit hh f s1 st1 =>
    rename_i hf
    obtain ⟨r, t, u, t', u', hf1, hf1', ht, hu⟩ := flushNow_together P h hs
    rw [hf1] at hf
    cases hf
    rw [Stage.readFrom.eq_def s', dif_neg hw]
    dsimp only
    rw [h.buffer.copyOut, dif_neg hh, hf1']
    exact together P _ ht hu
  | case4 s st pos want pieces hw hit hh n s1 st1 hf missed f a =>
    rename_i st2 hr
    obtain ⟨s1', st1', a', st2', hf', hr', ht, hu⟩ := refill_together P h hs hf hr
    rw [Stage.readFrom.eq_def s', dif_neg hw]
    dsimp only
    rw [h.buffer.copyOut, dif_neg hh, hf']
    dsimp only
    rw [hr']
    exact together P _ ht hu
  | case5 s st pos want pieces hw hit hh n s1 st1 hf missed a st2 =>
    rename_i filled hr
    obtain ⟨s1', st1', a', st2', hf', hr', ht, hu⟩ := refill_together P h hs hf hr
    rw [Stage.readFrom.eq_def s', dif_neg hw]
    dsimp only
    rw [h.buffer.copyOut, dif_neg hh, hf']
    dsimp only
    rw [hr']
    exact together P _ ht hu
  | case6 s st pos want pieces hw hit hh n s1 st1 hf missed count a st2 hr filled hn =>
    rename_i got hg
    obtain ⟨s1', st1', a', st2', hf', hr', ht, hu⟩ := refill_together P h hs hf hr
    rw [Stage.readFrom.eq_def s', dif_neg hw]
    dsimp only
    rw [h.buffer.copyOut, dif_neg hh, hf']
    dsimp only
    rw [hr']
    dsimp only
    rw [if_neg hn, ht.buffer.copyOut, dif_pos (by rw [ht.capacity]; exact hg)]
    exact together P _ ht hu
  | case7 s st pos want pieces hw hit hh n s1 st1 hf missed count a st2 hr filled hn got =>
    rename_i hg ih
    obtain ⟨s1', st1', a', st2', hf', hr', ht, hu⟩ := refill_together P h hs hf hr
    rw [Stage.readFrom.eq_def s', dif_neg hw]
    dsimp only
    rw [h.buffer.copyOut, dif_neg hh, hf']
    dsimp only
    rw [hr']
    dsimp only
    rw [if_neg hn, ht.buffer.copyOut, dif_neg (by rw [ht.capacity]; exact hg)]
    exact ih ht hu

theorem readBytes_together (h : Beside p p' s s') (hs : P.Abreast st st') (offset want : Nat) :
    Together P (s.readBytes st offset want) (s'.readBytes st' offset want) := by
  obtain ⟨r, t, u, t', u', hr, hr', ht, hu⟩ :=
    readFrom_together P h hs offset want []
  unfold Stage.readBytes
  rw [hr, hr']
  rcases r with f | pieces
  · exact together P _ ht hu
  · exact together P _ ht hu

/-- What is staged joins or starts again in both. -/
theorem stageFrom_together {pos done : Nat} {data : Bytes} (h : Beside p p' s s')
    (hs : P.Abreast st st') :
    Together P (s.stageFrom st pos data done) (s'.stageFrom st' pos data done) := by
  fun_induction Stage.stageFrom s st pos data done generalizing s' st' with
  | case1 s st pos done =>
    rw [Stage.stageFrom.eq_def s', dif_pos rfl]
    exact together P _ h hs
  | case2 s st pos data done hd hj =>
    have hj' : s'.dirty = true ∧ s'.buffer.stop = pos ∧ s'.buffer.hasRoom data = true := by
      rw [h.dirty, h.buffer.stop, h.buffer.hasRoom]
      exact hj
    rw [Stage.stageFrom.eq_def s', dif_neg hd, dif_pos hj']
    exact together P _ (h.withBuffer (h.buffer.append _ _)) hs
  | case3 s st pos data done hd hj f s1 st1 hf =>
    obtain ⟨r, t, u, t', u', hf1, hf1', ht, hu⟩ := flushNow_together P h hs
    rw [hf1] at hf
    cases hf
    have hj' : ¬ (s'.dirty = true ∧ s'.buffer.stop = pos ∧ s'.buffer.hasRoom data = true) := by
      rw [h.dirty, h.buffer.stop, h.buffer.hasRoom]
      exact hj
    rw [Stage.stageFrom.eq_def s', dif_neg hd, dif_neg hj', hf1']
    exact together P _ ht hu
  | case4 s st pos data done hd hj n s1 st1 hf b piece fits taken =>
    rename_i started ih
    obtain ⟨r, t, u, t', u', hf1, hf1', ht, hu⟩ := flushNow_together P h hs
    rw [hf1] at hf
    cases hf
    have hj' : ¬ (s'.dirty = true ∧ s'.buffer.stop = pos ∧ s'.buffer.hasRoom data = true) := by
      rw [h.dirty, h.buffer.stop, h.buffer.hasRoom]
      exact hj
    have hpiece : data.take t'.buffer.capacity = piece := by rw [ht.buffer.capacity]
    rw [Stage.stageFrom.eq_def s', dif_neg hd, dif_neg hj', hf1']
    simp only [hpiece]
    exact ih ((ht.withBuffer (ht.buffer.restart pos fits _)).withDirty true) hu

theorem stageBytes_together (h : Beside p p' s s') (hs : P.Abreast st st') (offset : Nat)
    (data : Bytes) : Together P (s.stageBytes st offset data) (s'.stageBytes st' offset data) :=
  stageFrom_together P h hs

theorem read_together (h : Beside p p' s s') (hs : P.Abreast st st')
    (hcheck : s'.checkIdle = s.checkIdle) (offset len : Nat) :
    Together P (s.read offset len st) (s'.read offset len st') := by
  unfold Stage.read
  rw [hcheck]
  rcases Offset.rangeEnd offset len with f | stop
  · exact together P _ h hs
  · rcases s.checkIdle with f | ⟨⟩
    · exact together P _ h hs
    · exact readBytes_together P h hs offset len

theorem write_together (h : Beside p p' s s') (hs : P.Abreast st st')
    (hcheck : s'.checkIdle = s.checkIdle) (offset : Nat) (data : Bytes) :
    Together P (s.write offset data st) (s'.write offset data st') := by
  unfold Stage.write
  rw [hcheck]
  rcases Offset.rangeEnd offset data.length with f | stop
  · exact together P _ h hs
  · rcases s.checkIdle with f | ⟨⟩
    · exact together P _ h hs
    · exact stageBytes_together P h hs offset data

theorem flush_together (h : Beside p p' s s') (hs : P.Abreast st st')
    (hcheck : s'.checkIdle = s.checkIdle) : Together P (s.flush st) (s'.flush st') := by
  unfold Stage.flush
  rw [hcheck]
  rcases s.checkIdle with f | ⟨⟩
  · exact together P _ h hs
  · exact flushNow_together P h hs

/-! ## Requests -/

theorem Beside.answerRead (h : Beside p p' s s') (offset len : Nat) (r : Except Failure Nat) :
    (s'.answerRead offset len r).1 = (s.answerRead offset len r).1 ∧
      Beside p p' (s.answerRead offset len r).2 (s'.answerRead offset len r).2 := by
  unfold Stage.answerRead
  rcases r with f | n
  · exact ⟨rfl, h⟩
  · dsimp only
    rw [h.buffer.copyOut]
    exact ⟨rfl, h.countAioRead _⟩

theorem Beside.answerWrite (h : Beside p p' s s') (len : Nat) (r : Except Failure Nat) :
    (s'.answerWrite len r).1 = (s.answerWrite len r).1 ∧
      Beside p p' (s.answerWrite len r).2 (s'.answerWrite len r).2 := by
  unfold Stage.answerWrite
  rcases r with f | n
  · exact ⟨rfl, h⟩
  · refine ⟨rfl, ?_⟩
    have hcount := h.countAioWrite n
    have hb := hcount.buffer
    dsimp only
    by_cases hn : n = len
    · rw [if_pos hn, if_pos hn]
      exact hcount.withBuffer ⟨hb.capacity, hb.raw, hb.len, hb.start, rfl⟩
    · rw [if_neg hn, if_neg hn]
      exact hcount

theorem Beside.answer (h : Beside p p' s s') (q : Except Failure Nat) :
    (s'.answer q).1 = (s.answer q).1 ∧ Beside p p' (s.answer q).2 (s'.answer q).2 := by
  have hrest := h.withInflight s.inflight.finish
  unfold Stage.answer
  rw [h.inflight]
  split
  · exact ⟨rfl, h⟩
  · exact hrest.answerRead _ _ _
  · exact hrest.answerWrite _ _

theorem Beside.complete (h : Beside p p' s s') (c : Completion) :
    (s'.complete c).1 = (s.complete c).1 ∧ Beside p p' (s.complete c).2 (s'.complete c).2 := by
  unfold Stage.complete
  rw [h.inflight, h.capacity]
  split
  · exact ⟨rfl, h⟩
  · rename_i offset len _ _
    obtain ⟨r, b, b', hfinish, hfinish', hb⟩ := h.adapter.finish offset s.capacity c
    have hanswer := (h.withAdapter hb).answer r
    rw [h.inflight] at hanswer
    rw [hfinish, hfinish']
    exact hanswer
  · rename_i offset len _ _
    obtain ⟨r, b, b', hfinish, hfinish', hb⟩ := h.adapter.finish offset len c
    have hanswer := (h.withAdapter hb).answer r
    rw [h.inflight] at hanswer
    rw [hfinish, hfinish']
    exact hanswer

theorem Beside.state (h : Beside p p' s s') : s'.state = s.state := by
  unfold Stage.state
  rw [h.outstanding, h.dirty, h.buffer.valid]

/-- What becomes of a stage, and of its request, once the adapter has started the
transfer. A request that is refused gives the adapter back. -/
def begun (back : Adapter → Adapter) (s : Stage) :
    Except Failure (Started (Except Failure Nat)) × Adapter × σ →
    Except Failure (Started Completion) × Stage × σ
  | (.error f, a, st) => (.error f, { s with adapter := back a, inflight := s.inflight.finish }, st)
  | (.ok (.submitted ticket), a, st) => (.ok (.submitted ticket), { s with adapter := a }, st)
  | (.ok (.finished r), a, st) =>
    let (c, s) := { s with adapter := a }.answer r
    (.ok (.finished c), s, st)

/-- What the outcomes of two requests have in common, when refusals and requests that
are over at once have it, and requests that their adapters start. -/
structure Carries (P : Pairing σ τ p p')
    (Q : Except Failure (Started Completion) × Stage × σ →
      Except Failure (Started Completion) × Stage × τ → Prop) : Prop where
  refused {f : Failure} {s s' : Stage} {st : σ} {st' : τ} : Beside p p' s s' → P.Abreast st st' →
    Q (.error f, s, st) (.error f, s', st')
  finished {c : Completion} {s s' : Stage} {st : σ} {st' : τ} : Beside p p' s s' →
    P.Abreast st st' → Q (.ok (.finished c), s, st) (.ok (.finished c), s', st')
  read {offset len : Nat} {s s' : Stage} {st : σ} {st' : τ} : Beside p p' s s' →
    P.Abreast st st' → s.inflight = ⟨[.read offset len]⟩ →
      Q (begun id s (s.adapter.submitRead offset s.capacity st))
        (begun id s' (s'.adapter.submitRead offset s'.capacity st'))
  /-- A write that is refused gives an adapter back. -/
  write {offset len : Nat} {s s' : Stage} {st : σ} {st' : τ} {back back' : Adapter → Adapter} :
    Beside p p' s s' → P.Abreast st st' → s.inflight = ⟨[.write offset len]⟩ →
      (∀ a a' : Adapter, a.Beside p p' a' → (back a).Beside p p' (back' a')) →
        Q (begun back s (s.adapter.submitWrite offset len st))
          (begun back' s' (s'.adapter.submitWrite offset len st'))

variable {P : Pairing σ τ p p'}
  {Q : Except Failure (Started Completion) × Stage × σ →
    Except Failure (Started Completion) × Stage × τ → Prop}

theorem Carries.readAio (hQ : Carries P Q) (h : Beside p p' s s') (hs : P.Abreast st st')
    (hcheck : s'.checkIdle = s.checkIdle) (offset len : Nat) :
    Q (s.readAio offset len st) (s'.readAio offset len st') := by
  unfold Stage.readAio
  rw [hcheck, h.buffer.covers, h.buffer.copyOut, h.capacity]
  rcases Offset.rangeEnd offset len with f | stop
  · exact hQ.refused h hs
  rcases hidle : s.checkIdle with f | ⟨⟩
  · exact hQ.refused h hs
  dsimp only
  by_cases hcovers : s.buffer.covers offset len = true
  · rw [if_pos hcovers, if_pos hcovers]
    exact hQ.finished (h.countHit.countAioRead len) hs
  rw [if_neg hcovers, if_neg hcovers]
  by_cases hlarge : s.capacity < len
  · rw [if_pos hlarge, if_pos hlarge]
    obtain ⟨r, t, u, t', u', hr, hr', ht, hu⟩ := readBytes_together P h hs offset len
    rw [hr, hr']
    rcases r with f | bytes
    · exact hQ.finished ht hu
    · exact hQ.finished (ht.countAioRead bytes.length) hu
  rw [if_neg hlarge, if_neg hlarge]
  obtain ⟨r, t, u, t', u', hf, hf', ht, hu⟩ := flushNow_together P h hs
  rw [hf, hf']
  rcases r with f | n
  · exact hQ.refused ht hu
  have hbegin := begin_of_flushed (.read offset len) (idle_of_checkIdle hidle) hf
  dsimp only
  rw [ht.inflight, hbegin]
  dsimp only
  have hasked := (ht.withInflight ⟨[.read offset len]⟩).countMiss
  exact hQ.read hasked hu rfl

theorem Carries.writeAio (hQ : Carries P Q) (h : Beside p p' s s') (hs : P.Abreast st st')
    (hcheck : s'.checkIdle = s.checkIdle) (offset : Nat) (data : Bytes) :
    Q (s.writeAio offset data st) (s'.writeAio offset data st') := by
  unfold Stage.writeAio
  rw [hcheck, h.capacity]
  rcases Offset.rangeEnd offset data.length with f | stop
  · exact hQ.refused h hs
  rcases hidle : s.checkIdle with f | ⟨⟩
  · exact hQ.refused h hs
  dsimp only
  by_cases hlarge : s.capacity < data.length
  · rw [if_pos hlarge, if_pos hlarge]
    obtain ⟨r, t, u, t', u', hw, hw', ht, hu⟩ := stageBytes_together P h hs offset data
    rw [hw, hw']
    rcases r with f | n
    · exact hQ.finished ht hu
    obtain ⟨r, v, w, v', w', hf, hf', hv, hw⟩ := flushNow_together P ht hu
    dsimp only
    rw [hf, hf']
    rcases r with f | m
    · exact hQ.finished hv hw
    · exact hQ.finished (hv.countAioWrite n) hw
  rw [if_neg hlarge, if_neg hlarge]
  obtain ⟨r, t, u, t', u', hf, hf', ht, hu⟩ := flushNow_together P h hs
  rw [hf, hf']
  rcases r with f | n
  · exact hQ.refused ht hu
  have hbegin := begin_of_flushed (.write offset data.length) (idle_of_checkIdle hidle) hf
  dsimp only
  rw [ht.inflight, hbegin]
  dsimp only
  obtain ⟨f, hset, hset'⟩ | ⟨b, b', hset, hset', hlike⟩ :=
    (ht.buffer.invalidate.poke 0 data).setLength data.length
  · rw [hset, hset']
    exact hQ.refused ht hu
  rw [hset, hset']
  have hplaced : StagingBuffer.Alike { b with start := offset } { b' with start := offset } :=
    ⟨hlike.capacity, hlike.raw, hlike.len, rfl, hlike.valid⟩
  have hloaded := (ht.withInflight ⟨[.write offset data.length]⟩).withBuffer hplaced
  -- a write that is refused gives the image back that counted before
  have hback : ∀ a a' : Adapter, a.Beside p p' a' →
      (a.restored (SavedImage.of t.buffer data.length)).Beside p p'
        (a'.restored (SavedImage.of t'.buffer data.length)) := by
    intro a a' ha
    rw [SavedImage.of_alike ht.buffer]
    cases SavedImage.of t.buffer data.length with
    | none => exact ha
    | some image => exact ha.withBuffer (SavedImage.restore_of_alike ha.buffer image)
  exact hQ.write hloaded hu rfl hback

end StagedFiles.Stage
