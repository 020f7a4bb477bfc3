-- How a request that is handed in can start, said once. It is refused, or it
-- is over at once, or it is out and the stage holds what its end needs. Each
-- later result about requests goes through these cases and opens no definition.
import StagedFiles.Proofs.BufferImage
import StagedFiles.Proofs.SavedImages
import StagedFiles.Proofs.StageFrame

namespace StagedFiles.Stage

/-! ## Stages between -/

/-- The stage that counted a miss and took a read in. -/
def asked (s : Stage) (offset len : Nat) : Stage :=
  { s with inflight := ⟨[.read offset len]⟩ }.countMiss

/-- The stage that took a write in. Its buffer holds the data and no valid image. -/
def loaded (s : Stage) (offset : Nat) (data : Bytes) (h : data.length ≤ s.buffer.capacity) :
    Stage :=
  { s with inflight := ⟨[.write offset data.length]⟩ }.withBuffer
    { s.buffer.invalidate.poke 0 data with start := offset, len := data.length, len_le := h }

/-- The stage whose request is no longer out. -/
def released (s : Stage) (a : Adapter) : Stage := { s with adapter := a, inflight := {} }

/-! ## Refusals -/

variable {σ : Type} [ObjectStore σ] {s s' : Stage} {st st' : σ}
  {r : Except Failure (Started Completion)}

theorem checkIdle_of_idle (h : s.outstanding = 0) : s.checkIdle = .ok () := by
  unfold checkIdle
  rw [if_pos h]

theorem idle_of_checkIdle (h : s.checkIdle = .ok ()) : s.outstanding = 0 := by
  unfold checkIdle at h
  split at h
  · assumption
  · cases h

theorem checkIdle_of_busy (h : s.outstanding ≠ 0) :
    s.checkIdle = .error (.inFlight s.fd s.outstanding) := by
  unfold checkIdle
  rw [if_neg h]

theorem rangeEnd_of_le {offset len : Nat} (h : offset + len ≤ Offset.last) :
    Offset.rangeEnd offset len = .ok (offset + len) :=
  Offset.rangeEnd_eq_ok_iff.mpr ⟨h, rfl⟩

theorem rangeEnd_of_lt {offset len : Nat} (h : Offset.last < offset + len) :
    Offset.rangeEnd offset len = .error (.invalidArgument (.pastLastOffset len offset)) :=
  Offset.rangeEnd_eq_error_iff.mpr ⟨h, rfl⟩

theorem read_beyond {offset len : Nat} (st : σ) (h : Offset.last < offset + len) :
    s.read offset len st = (.error (.invalidArgument (.pastLastOffset len offset)), s, st) := by
  unfold Stage.read
  rw [rangeEnd_of_lt h]

theorem read_busy {offset len : Nat} (st : σ) (h : offset + len ≤ Offset.last)
    (hbusy : s.outstanding ≠ 0) :
    s.read offset len st = (.error (.inFlight s.fd s.outstanding), s, st) := by
  unfold Stage.read
  rw [rangeEnd_of_le h, checkIdle_of_busy hbusy]

theorem read_idle {offset len : Nat} (st : σ) (h : offset + len ≤ Offset.last)
    (hidle : s.outstanding = 0) : s.read offset len st = s.readBytes st offset len := by
  unfold Stage.read
  rw [rangeEnd_of_le h, checkIdle_of_idle hidle]

theorem write_beyond {offset : Nat} {data : Bytes} (st : σ)
    (h : Offset.last < offset + data.length) :
    s.write offset data st =
      (.error (.invalidArgument (.pastLastOffset data.length offset)), s, st) := by
  unfold Stage.write
  rw [rangeEnd_of_lt h]

theorem write_busy {offset : Nat} {data : Bytes} (st : σ) (h : offset + data.length ≤ Offset.last)
    (hbusy : s.outstanding ≠ 0) :
    s.write offset data st = (.error (.inFlight s.fd s.outstanding), s, st) := by
  unfold Stage.write
  rw [rangeEnd_of_le h, checkIdle_of_busy hbusy]

theorem write_idle {offset : Nat} {data : Bytes} (st : σ) (h : offset + data.length ≤ Offset.last)
    (hidle : s.outstanding = 0) : s.write offset data st = s.stageFrom st offset data 0 := by
  unfold Stage.write
  rw [rangeEnd_of_le h, checkIdle_of_idle hidle]
  rfl

theorem flush_busy (st : σ) (hbusy : s.outstanding ≠ 0) :
    s.flush st = (.error (.inFlight s.fd s.outstanding), s, st) := by
  unfold Stage.flush
  rw [checkIdle_of_busy hbusy]

theorem flush_idle (st : σ) (hidle : s.outstanding = 0) : s.flush st = s.flushNow st := by
  unfold Stage.flush
  rw [checkIdle_of_idle hidle]

theorem readAio_beyond {offset len : Nat} (st : σ) (h : Offset.last < offset + len) :
    s.readAio offset len st = (.error (.invalidArgument (.pastLastOffset len offset)), s, st) := by
  unfold Stage.readAio
  rw [rangeEnd_of_lt h]

theorem readAio_busy {offset len : Nat} (st : σ) (h : offset + len ≤ Offset.last)
    (hbusy : s.outstanding ≠ 0) :
    s.readAio offset len st = (.error (.inFlight s.fd s.outstanding), s, st) := by
  unfold Stage.readAio
  rw [rangeEnd_of_le h, checkIdle_of_busy hbusy]

theorem writeAio_beyond {offset : Nat} {data : Bytes} (st : σ)
    (h : Offset.last < offset + data.length) :
    s.writeAio offset data st =
      (.error (.invalidArgument (.pastLastOffset data.length offset)), s, st) := by
  unfold Stage.writeAio
  rw [rangeEnd_of_lt h]

theorem writeAio_busy {offset : Nat} {data : Bytes} (st : σ)
    (h : offset + data.length ≤ Offset.last) (hbusy : s.outstanding ≠ 0) :
    s.writeAio offset data st = (.error (.inFlight s.fd s.outstanding), s, st) := by
  unfold Stage.writeAio
  rw [rangeEnd_of_le h, checkIdle_of_busy hbusy]

/-! ## While a request is out -/

section Busy

variable {offset len : Nat} {data : Bytes} (hbusy : s.outstanding ≠ 0)

include hbusy

theorem read_while_busy {r : Except Failure Bytes} (h : s.read offset len st = (r, s', st')) :
    (∃ f, r = .error f) ∧ s' = s ∧ st' = st := by
  by_cases hlast : offset + len ≤ Offset.last
  · rw [read_busy st hlast hbusy] at h
    cases h
    exact ⟨⟨_, rfl⟩, rfl, rfl⟩
  · rw [read_beyond st (Nat.lt_of_not_le hlast)] at h
    cases h
    exact ⟨⟨_, rfl⟩, rfl, rfl⟩

theorem write_while_busy {r : Except Failure Nat} (h : s.write offset data st = (r, s', st')) :
    (∃ f, r = .error f) ∧ s' = s ∧ st' = st := by
  by_cases hlast : offset + data.length ≤ Offset.last
  · rw [write_busy st hlast hbusy] at h
    cases h
    exact ⟨⟨_, rfl⟩, rfl, rfl⟩
  · rw [write_beyond st (Nat.lt_of_not_le hlast)] at h
    cases h
    exact ⟨⟨_, rfl⟩, rfl, rfl⟩

theorem readAio_while_busy (h : s.readAio offset len st = (r, s', st')) :
    (∃ f, r = .error f) ∧ s' = s ∧ st' = st := by
  by_cases hlast : offset + len ≤ Offset.last
  · rw [readAio_busy st hlast hbusy] at h
    cases h
    exact ⟨⟨_, rfl⟩, rfl, rfl⟩
  · rw [readAio_beyond st (Nat.lt_of_not_le hlast)] at h
    cases h
    exact ⟨⟨_, rfl⟩, rfl, rfl⟩

theorem writeAio_while_busy (h : s.writeAio offset data st = (r, s', st')) :
    (∃ f, r = .error f) ∧ s' = s ∧ st' = st := by
  by_cases hlast : offset + data.length ≤ Offset.last
  · rw [writeAio_busy st hlast hbusy] at h
    cases h
    exact ⟨⟨_, rfl⟩, rfl, rfl⟩
  · rw [writeAio_beyond st (Nat.lt_of_not_le hlast)] at h
    cases h
    exact ⟨⟨_, rfl⟩, rfl, rfl⟩

end Busy

/-! ## All starts of a read -/

/-- The ways in which a read can start. -/
inductive ReadStart (s : Stage) (offset len : Nat) (st : σ) :
    Except Failure (Started Completion) → Stage → σ → Prop where
  | beyond : Offset.last < offset + len →
      ReadStart s offset len st (.error (.invalidArgument (.pastLastOffset len offset))) s st
  | busy : offset + len ≤ Offset.last → s.outstanding ≠ 0 →
      ReadStart s offset len st (.error (.inFlight s.fd s.outstanding)) s st
  | hit : s.outstanding = 0 → s.buffer.covers offset len = true →
      ReadStart s offset len st
        (.ok (.finished (.bytes (.ok (s.buffer.copyOut offset len)))))
        (s.countHit.countAioRead (s.buffer.copyOut offset len).length) st
  | large {r : Except Failure Bytes} {s1 s' : Stage} {st' : σ} : s.capacity < len →
      s.outstanding = 0 → s.readBytes st offset len = (r, s1, st') →
      s' = (match r with | .ok bytes => s1.countAioRead bytes.length | .error _ => s1) →
      ReadStart s offset len st (.ok (.finished (.bytes r))) s' st'
  | unflushed {f : Failure} {s' : Stage} {st' : σ} : s.outstanding = 0 →
      s.flushNow st = (.error f, s', st') → ReadStart s offset len st (.error f) s' st'
  | refused {n : Nat} {f : Failure} {s1 : Stage} {a : Adapter} {st1 st' : σ} :
      s.outstanding = 0 → s.flushNow st = (.ok n, s1, st1) →
      s1.adapter.submitRead offset s1.capacity st1 = (.error f, a, st') →
      ReadStart s offset len st (.error f) ((s1.asked offset len).released a) st'
  | submitted {n : Nat} {ticket : Ticket} {s1 : Stage} {a : Adapter} {st1 st' : σ} :
      s.outstanding = 0 → s.flushNow st = (.ok n, s1, st1) →
      s1.adapter.submitRead offset s1.capacity st1 = (.ok (.submitted ticket), a, st') →
      ReadStart s offset len st (.ok (.submitted ticket))
        { s1.asked offset len with adapter := a } st'
  | inline {n : Nat} {q : Except Failure Nat} {s1 : Stage} {a : Adapter} {st1 st' : σ} :
      s.outstanding = 0 → s.flushNow st = (.ok n, s1, st1) →
      s1.adapter.submitRead offset s1.capacity st1 = (.ok (.finished q), a, st') →
      ReadStart s offset len st
        (.ok (.finished (((s1.asked offset len).released a).answerRead offset len q).1))
        (((s1.asked offset len).released a).answerRead offset len q).2 st'

/-- A flush lets nothing in, so a stage that was idle can begin a request after it. -/
theorem begin_of_flushed {q : Except Failure Nat} {s1 : Stage} {st1 : σ} (request : AioRequest)
    (hidle : s.outstanding = 0) (hf : s.flushNow st = (q, s1, st1)) :
    s1.inflight.begin? request = .ok ⟨[request]⟩ := by
  have hcount : s1.inflight.count = 0 := (flushNow_same hf).outstanding.trans hidle
  exact (InFlight.begin?_eq_ok_iff ..).mpr ⟨hcount, rfl⟩

theorem readAio_cases {offset len : Nat} (h : s.readAio offset len st = (r, s', st')) :
    ReadStart s offset len st r s' st' := by
  unfold readAio at h
  by_cases hlast : offset + len ≤ Offset.last
  · by_cases hidle : s.outstanding = 0
    · rw [rangeEnd_of_le hlast, checkIdle_of_idle hidle] at h
      dsimp only at h
      split at h
      · rename_i hcovers
        have hlen := StagingBuffer.length_copyOut_of_covers hcovers
        have hall : Bytes.resize (s.buffer.copyOut offset len) len = s.buffer.copyOut offset len := by
          have := Bytes.resize_length (s.buffer.copyOut offset len)
          rwa [hlen] at this
        have hhit : ReadStart s offset len st _ _ _ := .hit hidle hcovers
        rw [hlen] at hhit
        rw [hall] at h
        cases h
        exact hhit
      · split at h
        · rename_i hlarge
          split at h
          · rename_i hr
            cases h
            exact .large hlarge hidle hr rfl
          · rename_i hr
            cases h
            exact .large hlarge hidle hr rfl
        · split at h
          · rename_i hf
            cases h
            exact .unflushed hidle hf
          · rename_i n s1 st1 hf
            rw [begin_of_flushed _ hidle hf] at h
            dsimp only at h
            split at h
            · rename_i hs
              cases h
              exact .refused hidle hf hs
            · rename_i hs
              cases h
              exact .submitted hidle hf hs
            · rename_i hs
              have hinline : ReadStart s offset len st _ _ _ := .inline hidle hf hs
              cases h
              exact hinline
    · rw [rangeEnd_of_le hlast, checkIdle_of_busy hidle] at h
      cases h
      exact .busy hlast hidle
  · rw [rangeEnd_of_lt (Nat.lt_of_not_le hlast)] at h
    cases h
    exact .beyond (Nat.lt_of_not_le hlast)

/-! ## All starts of a write -/

/-- The ways in which a write can start. -/
inductive WriteStart (s : Stage) (offset : Nat) (data : Bytes) (st : σ) :
    Except Failure (Started Completion) → Stage → σ → Prop where
  | beyond : Offset.last < offset + data.length →
      WriteStart s offset data st
        (.error (.invalidArgument (.pastLastOffset data.length offset))) s st
  | busy : offset + data.length ≤ Offset.last → s.outstanding ≠ 0 →
      WriteStart s offset data st (.error (.inFlight s.fd s.outstanding)) s st
  | unstaged {f : Failure} {s' : Stage} {st' : σ} : s.capacity < data.length →
      offset + data.length ≤ Offset.last → s.outstanding = 0 →
      s.stageBytes st offset data = (.error f, s', st') →
      WriteStart s offset data st (.ok (.finished (.count (.error f)))) s' st'
  | unwritten {n : Nat} {f : Failure} {s1 s' : Stage} {st1 st' : σ} : s.capacity < data.length →
      offset + data.length ≤ Offset.last → s.outstanding = 0 →
      s.stageBytes st offset data = (.ok n, s1, st1) → s1.flushNow st1 = (.error f, s', st') →
      WriteStart s offset data st (.ok (.finished (.count (.error f)))) s' st'
  | large {n m : Nat} {s1 s2 : Stage} {st1 st' : σ} : s.capacity < data.length →
      offset + data.length ≤ Offset.last → s.outstanding = 0 →
      s.stageBytes st offset data = (.ok n, s1, st1) → s1.flushNow st1 = (.ok m, s2, st') →
      WriteStart s offset data st (.ok (.finished (.count (.ok n)))) (s2.countAioWrite n) st'
  | unflushed {f : Failure} {s' : Stage} {st' : σ} : s.outstanding = 0 →
      s.flushNow st = (.error f, s', st') → WriteStart s offset data st (.error f) s' st'
  | refused {n : Nat} {f : Failure} {s1 : Stage} {a : Adapter} {st1 st' : σ}
      (h : data.length ≤ s1.buffer.capacity) :
      s.outstanding = 0 → s.flushNow st = (.ok n, s1, st1) →
      (s1.loaded offset data h).adapter.submitWrite offset data.length st1 = (.error f, a, st') →
      WriteStart s offset data st (.error f)
        ((s1.loaded offset data h).released
          (a.restored (SavedImage.of s1.buffer data.length))) st'
  | submitted {n : Nat} {ticket : Ticket} {s1 : Stage} {a : Adapter} {st1 st' : σ}
      (h : data.length ≤ s1.buffer.capacity) :
      s.outstanding = 0 → s.flushNow st = (.ok n, s1, st1) →
      (s1.loaded offset data h).adapter.submitWrite offset data.length st1 =
        (.ok (.submitted ticket), a, st') →
      WriteStart s offset data st (.ok (.submitted ticket))
        { s1.loaded offset data h with adapter := a } st'
  | inline {n : Nat} {q : Except Failure Nat} {s1 : Stage} {a : Adapter} {st1 st' : σ}
      (h : data.length ≤ s1.buffer.capacity) :
      s.outstanding = 0 → s.flushNow st = (.ok n, s1, st1) →
      (s1.loaded offset data h).adapter.submitWrite offset data.length st1 =
        (.ok (.finished q), a, st') →
      WriteStart s offset data st
        (.ok (.finished (((s1.loaded offset data h).released a).answerWrite data.length q).1))
        (((s1.loaded offset data h).released a).answerWrite data.length q).2 st'

theorem writeAio_cases {offset : Nat} {data : Bytes} (h : s.writeAio offset data st = (r, s', st')) :
    WriteStart s offset data st r s' st' := by
  unfold writeAio at h
  by_cases hlast : offset + data.length ≤ Offset.last
  · by_cases hidle : s.outstanding = 0
    · rw [rangeEnd_of_le hlast, checkIdle_of_idle hidle] at h
      dsimp only at h
      split at h
      · rename_i hlarge
        split at h
        · rename_i hw
          cases h
          exact .unstaged hlarge hlast hidle hw
        · rename_i hw
          split at h
          · rename_i hf
            cases h
            exact .unwritten hlarge hlast hidle hw hf
          · rename_i hf
            cases h
            exact .large hlarge hlast hidle hw hf
      · rename_i hfits
        split at h
        · rename_i hf
          cases h
          exact .unflushed hidle hf
        · rename_i n s1 st1 hf
          rw [begin_of_flushed _ hidle hf] at h
          have hcap : data.length ≤ s1.buffer.capacity := by
            have := (flushNow_same hf).capacity
            unfold Stage.capacity at this hfits
            show data.length ≤ s1.adapter.buffer.capacity
            omega
          have hset : (s1.buffer.invalidate.poke 0 data).setLength data.length =
              .ok { s1.buffer.invalidate.poke 0 data with len := data.length, len_le := hcap } := by
            unfold StagingBuffer.setLength
            exact dif_pos hcap
          dsimp only at h
          rw [hset] at h
          dsimp only at h
          split at h
          · rename_i hs
            have hrefused : WriteStart s offset data st _ _ _ := .refused hcap hidle hf hs
            cases h
            exact hrefused
          · rename_i hs
            have hsubmitted : WriteStart s offset data st _ _ _ := .submitted hcap hidle hf hs
            cases h
            exact hsubmitted
          · rename_i hs
            have hinline : WriteStart s offset data st _ _ _ := .inline hcap hidle hf hs
            cases h
            exact hinline
    · rw [rangeEnd_of_le hlast, checkIdle_of_busy hidle] at h
      cases h
      exact .busy hlast hidle
  · rw [rangeEnd_of_lt (Nat.lt_of_not_le hlast)] at h
    cases h
    exact .beyond (Nat.lt_of_not_le hlast)

/-! ## The end of a request -/

theorem complete_read {offset len : Nat} {c : Completion} {q : Except Failure Nat} {a : Adapter}
    (hreq : s.inflight.requests = [.read offset len])
    (hf : s.adapter.finish offset s.capacity c = (q, a)) :
    s.complete c = (s.released a).answerRead offset len q := by
  unfold complete answer
  rw [hreq]
  dsimp only
  rw [hf]
  dsimp only
  rw [hreq]
  unfold InFlight.finish
  rw [hreq]
  rfl

theorem complete_write {offset len : Nat} {c : Completion} {q : Except Failure Nat} {a : Adapter}
    (hreq : s.inflight.requests = [.write offset len])
    (hf : s.adapter.finish offset len c = (q, a)) :
    s.complete c = (s.released a).answerWrite len q := by
  unfold complete answer
  rw [hreq]
  dsimp only
  rw [hf]
  dsimp only
  rw [hreq]
  unfold InFlight.finish
  rw [hreq]
  rfl

theorem answerRead_adapter {offset len : Nat} {q : Except Failure Nat} {c : Completion}
    (h : s.answerRead offset len q = (c, s')) : s'.adapter = s.adapter := by
  unfold answerRead at h
  split at h
  · cases h
    rfl
  · cases h
    rfl

theorem answerWrite_adapter {len : Nat} {q : Except Failure Nat} {c : Completion}
    (h : s.answerWrite len q = (c, s')) : s.adapter.Same s'.adapter := by
  unfold answerWrite at h
  split at h
  · dsimp only at h
    split at h
    · cases h
      exact ⟨rfl, rfl, rfl⟩
    · cases h
      exact .refl _
  · cases h
    exact .refl _

/-! ## The adapter stays the same -/

theorem readAio_adapter {offset len : Nat} (h : s.readAio offset len st = (r, s', st')) :
    s.adapter.Same s'.adapter := by
  cases readAio_cases h with
  | beyond _ => exact .refl _
  | busy _ _ => exact .refl _
  | hit _ _ => exact .refl _
  | @large q s1 _ _ _ _ hr hs' =>
    have hsame := (readBytes_same hr).adapter
    subst hs'
    cases q with
    | error f => exact hsame
    | ok bytes => exact hsame
  | unflushed _ hf => exact (flushNow_same hf).adapter
  | refused _ hf hs => exact (flushNow_same hf).adapter.trans (Adapter.submitRead_same hs)
  | submitted _ hf hs => exact (flushNow_same hf).adapter.trans (Adapter.submitRead_same hs)
  | @inline n q s1 a st1 _ _ hf hs =>
    have hsame := (flushNow_same hf).adapter.trans (Adapter.submitRead_same hs)
    rcases ha : ((s1.asked offset len).released a).answerRead offset len q with ⟨c, s2⟩
    show s.adapter.Same s2.adapter
    rw [answerRead_adapter ha]
    exact hsame

theorem loaded_same (s : Stage) {offset : Nat} {data : Bytes}
    (h : data.length ≤ s.buffer.capacity) :
    s.adapter.Same (s.loaded offset data h).adapter := ⟨rfl, rfl, rfl⟩

theorem restored_same {a b : Adapter} (h : b.Same a) (before : Option SavedImage) :
    b.Same (a.restored before) := by
  cases before with
  | none => exact h
  | some image => exact ⟨h.kind, h.fd, (image.capacity_restore a.buffer).trans h.capacity⟩

theorem writeAio_adapter {offset : Nat} {data : Bytes}
    (h : s.writeAio offset data st = (r, s', st')) : s.adapter.Same s'.adapter := by
  cases writeAio_cases h with
  | beyond _ => exact .refl _
  | busy _ _ => exact .refl _
  | unstaged _ _ _ hw => exact (stageFrom_same hw).adapter
  | unwritten _ _ _ hw hf => exact (stageFrom_same hw).adapter.trans (flushNow_same hf).adapter
  | large _ _ _ hw hf => exact (stageFrom_same hw).adapter.trans (flushNow_same hf).adapter
  | unflushed _ hf => exact (flushNow_same hf).adapter
  | @refused n f s1 a st1 _ hcap _ hf hs =>
    have hsame := (loaded_same s1 hcap).trans (Adapter.submitWrite_same hs)
    exact (flushNow_same hf).adapter.trans (restored_same hsame _)
  | @submitted n ticket s1 a st1 _ hcap _ hf hs =>
    have hsame := (loaded_same s1 hcap).trans (Adapter.submitWrite_same hs)
    exact (flushNow_same hf).adapter.trans hsame
  | @inline n q s1 a st1 _ hcap _ hf hs =>
    have hsame := (loaded_same s1 hcap).trans (Adapter.submitWrite_same hs)
    rcases ha : ((s1.loaded offset data hcap).released a).answerWrite data.length q with ⟨c, s2⟩
    exact ((flushNow_same hf).adapter.trans hsame).trans (answerWrite_adapter ha)

theorem complete_adapter {request : AioRequest} {c answer : Completion}
    (hreq : s.inflight.requests = [request]) (h : s.complete c = (answer, s')) :
    s.adapter.Same s'.adapter := by
  cases request with
  | read offset len =>
    rcases hf : s.adapter.finish offset s.capacity c with ⟨q, a⟩
    rw [complete_read hreq hf] at h
    rw [answerRead_adapter h]
    exact Adapter.finish_same hf
  | write offset len =>
    rcases hf : s.adapter.finish offset len c with ⟨q, a⟩
    rw [complete_write hreq hf] at h
    have hsame : s.adapter.Same (s.released a).adapter := Adapter.finish_same hf
    exact hsame.trans (answerWrite_adapter h)

/-! ## Reads stage nothing -/

theorem answerRead_dirty {offset len : Nat} {q : Except Failure Nat} {c : Completion}
    (h : s.answerRead offset len q = (c, s')) : s'.dirty = s.dirty := by
  unfold answerRead at h
  split at h
  · cases h
    rfl
  · cases h
    rfl

theorem answerWrite_dirty {len : Nat} {q : Except Failure Nat} {c : Completion}
    (h : s.answerWrite len q = (c, s')) : s'.dirty = s.dirty := by
  unfold answerWrite at h
  split at h
  · dsimp only at h
    split at h
    · cases h
      rfl
    · cases h
      rfl
  · cases h
    rfl

theorem readAio_clean {offset len : Nat} (hd : s.dirty = false)
    (h : s.readAio offset len st = (r, s', st')) : s'.dirty = false := by
  cases readAio_cases h with
  | beyond _ => exact hd
  | busy _ _ => exact hd
  | hit _ _ => exact hd
  | @large q s1 _ _ _ _ hr hs' =>
    have hclean := readBytes_clean hd hr
    subst hs'
    cases q with
    | error f => exact hclean
    | ok bytes => exact hclean
  | unflushed _ hf =>
    rw [flushNow_clean st hd] at hf
    cases hf
  | refused _ hf _ =>
    rw [flushNow_clean st hd] at hf
    cases hf
    exact hd
  | submitted _ hf _ =>
    rw [flushNow_clean st hd] at hf
    cases hf
    exact hd
  | @inline n q s1 a st1 _ _ hf _ =>
    rw [flushNow_clean st hd] at hf
    cases hf
    rcases ha : ((s.asked offset len).released a).answerRead offset len q with ⟨c, s2⟩
    show s2.dirty = false
    rw [answerRead_dirty ha]
    exact hd

theorem complete_dirty {request : AioRequest} {c answer : Completion}
    (hreq : s.inflight.requests = [request]) (h : s.complete c = (answer, s')) :
    s'.dirty = s.dirty := by
  cases request with
  | read offset len =>
    rcases hf : s.adapter.finish offset s.capacity c with ⟨q, a⟩
    rw [complete_read hreq hf] at h
    exact (answerRead_dirty h).trans rfl
  | write offset len =>
    rcases hf : s.adapter.finish offset len c with ⟨q, a⟩
    rw [complete_write hreq hf] at h
    exact (answerWrite_dirty h).trans rfl

/-! ## A stage as it is built -/

/-- A stage that was built is new, over a buffer of the size asked for. -/
theorem build_eq_ok_iff {settings : Settings} {fd : Fd} {s : Stage} :
    build settings fd = .ok s ↔ ∃ hpos : 0 < settings.bufferSize,
      s = { adapter :=
        { kind := settings.adapter, fd
          buffer := { capacity := settings.bufferSize, capacity_pos := hpos } } } := by
  unfold build StagingBuffer.ofCapacity
  by_cases hpos : 0 < settings.bufferSize
  · rw [dif_pos hpos]
    constructor
    · intro h
      cases h
      exact ⟨hpos, rfl⟩
    · rintro ⟨_, rfl⟩
      rfl
  · rw [dif_neg hpos]
    constructor
    · intro h
      cases h
    · rintro ⟨h, _⟩
      exact absurd h hpos

/-- A stage of four bytes, as it is built. -/
def small : Stage :=
  { adapter := { kind := .async, fd := .first, buffer := { capacity := 4, capacity_pos := by decide } } }

theorem small_built : Stage.build { bufferSize := 4 } .first = .ok small :=
  build_eq_ok_iff.mpr ⟨by decide, rfl⟩

end StagedFiles.Stage
