-- The calls of a stage and the requests that are handed in, guarded, with their ends. No
-- request that is out asks for more than the buffer holds, and no caller asks for more than
-- can be allocated. So whatever came before, and whatever the store answers, nothing stops
-- a step of a caller.
import StagedFiles.Proofs.Client
import StagedFiles.Proofs.GuardedStages
import StagedFiles.Proofs.Ledger

namespace StagedFiles

/-- The bytes that a request is for. -/
def AioRequest.len : AioRequest → Nat
  | .read _ len => len
  | .write _ len => len

/-- The buffer can be allocated, and holds as much as each request that is out is for. -/
structure Stage.Ample (s : Stage) : Prop where
  capacity : s.capacity ≤ maxAllocation
  asked : ∀ request ∈ s.inflight.requests, request.len ≤ s.capacity

namespace Guarded

/-! ## The end of a request -/

def answerRead (s : Stage) (offset len : Nat) (r : Except Failure Nat) :
    Guarded (Completion × Stage) :=
  match r with
  | .ok _ => do
    allocate len
    let bytes ← copyOut s.buffer offset len
    return (.bytes (.ok bytes), s.countAioRead bytes.length)
  | .error f => return (.bytes (.error f), s)

/-- The end of a write looks at no bytes. -/
def answer (s : Stage) (r : Except Failure Nat) : Guarded (Completion × Stage) :=
  let rest := { s with inflight := s.inflight.finish }
  match s.inflight.requests with
  | [] => return (.count r, s)
  | .read offset len :: _ => answerRead rest offset len r
  | .write _ len :: _ => return rest.answerWrite len r

def complete (s : Stage) (c : Completion) : Guarded (Completion × Stage) :=
  match s.inflight.requests with
  | [] => return (c, s)
  | .read offset _ :: _ => do
    let (r, a) ← finish s.adapter offset s.capacity c
    answer { s with adapter := a } r
  | .write offset len :: _ => do
    let (r, a) ← finish s.adapter offset len c
    answer { s with adapter := a } r

section Ends

variable {s : Stage}

theorem answerRead_eq {len : Nat} (hcap : s.capacity ≤ maxAllocation) (hlen : len ≤ maxAllocation)
    (offset : Nat) (r : Except Failure Nat) :
    answerRead s offset len r = .ok (s.answerRead offset len r) := by
  have hbuffer : s.buffer.capacity ≤ maxAllocation := hcap
  unfold answerRead Stage.answerRead
  cases r with
  | error f => rfl
  | ok n =>
    dsimp only
    rw [allocate_of_le hlen, ok_bind, copyOut_eq hbuffer]
    rfl

theorem answer_eq (h : s.Ample) (r : Except Failure Nat) : answer s r = .ok (s.answer r) := by
  have hasked := h.asked
  unfold answer Stage.answer
  rcases hreq : s.inflight.requests with _ | ⟨⟨offset, len⟩ | ⟨offset, len⟩, rest⟩
  · rfl
  · rw [hreq] at hasked
    have hlen : len ≤ maxAllocation := (hasked _ (List.mem_cons_self ..)).trans h.capacity
    exact answerRead_eq (s := { s with inflight := s.inflight.finish }) h.capacity hlen offset r
  · rfl

theorem complete_eq (h : s.Ample) (c : Completion) : complete s c = .ok (s.complete c) := by
  have hasked := h.asked
  have hends : ∀ {offset count : Nat}, count ≤ s.capacity →
      (do
        let (r, a) ← finish s.adapter offset count c
        answer { s with adapter := a } r) =
        (.ok (let (r, a) := s.adapter.finish offset count c
          { s with adapter := a }.answer r) : Guarded (Completion × Stage)) := by
    intro offset count hcount
    have hfinish : finish s.adapter offset count c = _ := finish_eq hcount c
    rw [hfinish, ok_bind]
    rcases hf : s.adapter.finish offset count c with ⟨r, a⟩
    have hcap : a.buffer.capacity = s.capacity := (Adapter.finish_same hf).capacity
    have hample : Stage.Ample { s with adapter := a } :=
      ⟨hcap.trans_le h.capacity, fun q hq => (hasked q hq).trans_eq hcap.symm⟩
    exact answer_eq hample r
  unfold complete Stage.complete
  rcases hreq : s.inflight.requests with _ | ⟨⟨offset, len⟩ | ⟨offset, len⟩, rest⟩
  · rfl
  · exact hends (Nat.le_refl _)
  · rw [hreq] at hasked
    exact hends (hasked _ (List.mem_cons_self ..))

end Ends

/-! ## The start of a request -/

/-- The image that a refused write puts back has the length that it had. -/
def restored (a : Adapter) (before : Option SavedImage) : Guarded Adapter :=
  match before with
  | some image => do
    copy ⟨0, image.head.length, a.buffer.capacity⟩ ⟨0, image.head.length, image.head.length⟩
    let b ← sure ({ a.buffer.poke 0 image.head with start := image.start }.setLength image.len)
    return { a with buffer := { b with valid := true } }
  | none => return a

/-- What data of `n` bytes go over is a front of the region. -/
def save (b : StagingBuffer) (n : Nat) : Guarded (Option SavedImage) :=
  if b.valid then do
    slice ⟨0, n, b.capacity⟩
    return SavedImage.of b n
  else return none

/-- The data go over the front of the region. -/
def load (b : StagingBuffer) (offset : Nat) (data : Bytes) : Guarded StagingBuffer := do
  copy ⟨0, data.length, b.capacity⟩ ⟨0, data.length, data.length⟩
  let b ← sure ((b.invalidate.poke 0 data).setLength data.length)
  return { b with start := offset }

/-- A stage that has flushed has nothing out. -/
def take (s : Stage) (request : AioRequest) : Guarded (InFlight AioRequest) :=
  sure ((s.inflight.begin? request).mapError (.inFlight s.fd))

section Starts

variable {s s1 : Stage} {data : Bytes} {offset : Nat}

theorem save_eq {b : StagingBuffer} {n : Nat} (h : n ≤ b.capacity) :
    save b n = .ok (SavedImage.of b n) := by
  unfold save
  rcases hv : b.valid with _ | _
  · rw [SavedImage.of_invalid hv]
    rfl
  · rw [if_pos rfl, slice_of_le (Nat.zero_le _) h]
    rfl

theorem load_eq {b b' : StagingBuffer} (h : data.length ≤ b.capacity)
    (hset : (b.invalidate.poke 0 data).setLength data.length = .ok b') :
    load b offset data = .ok { b' with start := offset } := by
  unfold load
  rw [copy_front h (Nat.le_refl _), ok_bind, hset]
  rfl

theorem restored_eq {a : Adapter} {b : StagingBuffer} {n : Nat} (hcap : b.capacity = a.buffer.capacity) :
    restored a (SavedImage.of b n) = .ok (a.restored (SavedImage.of b n)) := by
  rcases hv : b.valid with _ | _
  · rw [SavedImage.of_invalid hv]
    rfl
  · rw [SavedImage.of_valid hv]
    have hlen : b.len ≤ a.buffer.capacity := hcap ▸ b.len_le
    have hhead : (b.peek 0 n).length ≤ a.buffer.capacity := by
      rw [StagingBuffer.length_peek, ← hcap]
      omega
    have hset := setLength_eq (b := { a.buffer.poke 0 (b.peek 0 n) with start := b.start }) hlen
    unfold restored Adapter.restored
    dsimp only
    rw [copy_front hhead (Nat.le_refl _), ok_bind, hset, SavedImage.restore_of_le hlen]
    rfl

end Starts

/-! ## The calls -/

section Calls

variable {σ : Type} [ObjectStore σ]

def read (s : Stage) (offset len : Nat) (st : σ) : Guarded (Except Failure Bytes × Stage × σ) :=
  match Offset.rangeEnd offset len, s.checkIdle with
  | .error f, _ => return (.error f, s, st)
  | .ok _, .error f => return (.error f, s, st)
  | .ok _, .ok () => readBytes s st offset len

def write (s : Stage) (offset : Nat) (data : Bytes) (st : σ) :
    Guarded (Except Failure Nat × Stage × σ) :=
  match Offset.rangeEnd offset data.length, s.checkIdle with
  | .error f, _ => return (.error f, s, st)
  | .ok _, .error f => return (.error f, s, st)
  | .ok _, .ok () => stageBytes s st offset data

def flush (s : Stage) (st : σ) : Guarded (Except Failure Nat × Stage × σ) :=
  match s.checkIdle with
  | .error f => return (.error f, s, st)
  | .ok () => flushNow s st

def readAio (s : Stage) (offset len : Nat) (st : σ) :
    Guarded (Except Failure (Started Completion) × Stage × σ) :=
  match Offset.rangeEnd offset len, s.checkIdle with
  | .error f, _ => return (.error f, s, st)
  | .ok _, .error f => return (.error f, s, st)
  | .ok _, .ok () =>
    if s.buffer.covers offset len then do
      allocate len
      let bytes ← copyOut s.buffer offset len
      return (.ok (.finished (.bytes (.ok (Bytes.resize bytes len)))), s.countHit.countAioRead len,
        st)
    else if s.capacity < len then do
      allocate len
      match ← readBytes s st offset len with
      | (.ok bytes, s, st) =>
        return (.ok (.finished (.bytes (.ok bytes))), s.countAioRead bytes.length, st)
      | (.error f, s, st) => return (.ok (.finished (.bytes (.error f))), s, st)
    else do
      match ← flushNow s st with
      | (.error f, s, st) => return (.error f, s, st)
      | (.ok _, s, st) =>
        let inflight ← take s (.read offset len)
        let s := { s with inflight }.countMiss
        match ← submitRead s.adapter offset s.capacity st with
        | (.error f, a, st) =>
          return (.error f, { s with adapter := a, inflight := s.inflight.finish }, st)
        | (.ok (.submitted ticket), a, st) =>
          return (.ok (.submitted ticket), { s with adapter := a }, st)
        | (.ok (.finished r), a, st) =>
          let (c, s) ← answer { s with adapter := a } r
          return (.ok (.finished c), s, st)

def writeAio (s : Stage) (offset : Nat) (data : Bytes) (st : σ) :
    Guarded (Except Failure (Started Completion) × Stage × σ) :=
  match Offset.rangeEnd offset data.length, s.checkIdle with
  | .error f, _ => return (.error f, s, st)
  | .ok _, .error f => return (.error f, s, st)
  | .ok _, .ok () =>
    if s.capacity < data.length then do
      match ← stageBytes s st offset data with
      | (.error f, s, st) => return (.ok (.finished (.count (.error f))), s, st)
      | (.ok n, s, st) =>
        match ← flushNow s st with
        | (.error f, s, st) => return (.ok (.finished (.count (.error f))), s, st)
        | (.ok _, s, st) => return (.ok (.finished (.count (.ok n))), s.countAioWrite n, st)
    else do
      match ← flushNow s st with
      | (.error f, s, st) => return (.error f, s, st)
      | (.ok _, s, st) =>
        let inflight ← take s (.write offset data.length)
        let before ← save s.buffer data.length
        let b ← load s.buffer offset data
        let s := { s with inflight }.withBuffer b
        match ← submitWrite s.adapter offset data.length st with
        | (.error f, a, st) =>
          let a ← restored a before
          return (.error f, { s with adapter := a, inflight := s.inflight.finish }, st)
        | (.ok (.submitted ticket), a, st) =>
          return (.ok (.submitted ticket), { s with adapter := a }, st)
        | (.ok (.finished r), a, st) =>
          let (c, s) ← answer { s with adapter := a } r
          return (.ok (.finished c), s, st)

variable {s : Stage} {st : σ} {offset len : Nat} {data : Bytes}

theorem read_eq (M : Modest σ) (hst : M.Fits st) (h : s.capacity ≤ maxAllocation) :
    read s offset len st = .ok (s.read offset len st) := by
  unfold read Stage.read
  rcases hend : Offset.rangeEnd offset len with f | stop
  · rfl
  · rcases s.checkIdle with f | ⟨⟩
    · rfl
    · exact readBytes_eq M hst h (Offset.rangeEnd_eq_ok_iff.mp hend).1

theorem write_eq (h : s.capacity ≤ maxAllocation) (hdata : data.length ≤ maxAllocation) :
    write s offset data st = .ok (s.write offset data st) := by
  unfold write Stage.write
  rcases hend : Offset.rangeEnd offset data.length with f | stop
  · rfl
  · rcases s.checkIdle with f | ⟨⟩
    · rfl
    · exact stageBytes_eq (Offset.rangeEnd_eq_ok_iff.mp hend).1 hdata h

theorem flush_eq (s : Stage) (st : σ) : flush s st = .ok (s.flush st) := by
  unfold flush Stage.flush
  rcases s.checkIdle with f | ⟨⟩
  · rfl
  · exact flushNow_eq s st

/-- After a flush nothing is out, and a request for no more than the buffer holds is taken. -/
theorem take_eq {s1 : Stage} {st1 : σ} {q : Except Failure Nat} (request : AioRequest)
    (hidle : s.checkIdle = .ok ()) (hf : s.flushNow st = (q, s1, st1)) :
    take s1 request = .ok ⟨[request]⟩ ∧ s1.inflight.begin? request = .ok ⟨[request]⟩ := by
  have hbegin := Stage.begin_of_flushed request (Stage.idle_of_checkIdle hidle) hf
  unfold take
  rw [hbegin]
  exact ⟨rfl, rfl⟩

theorem ample_of_one {s : Stage} {request : AioRequest} (hcap : s.capacity ≤ maxAllocation)
    (hreq : s.inflight = ⟨[request]⟩) (hlen : request.len ≤ s.capacity) : s.Ample := by
  refine ⟨hcap, fun q hq => ?_⟩
  rw [hreq] at hq
  rw [List.mem_singleton.mp hq]
  exact hlen

theorem readAio_eq (M : Modest σ) (hst : M.Fits st) (h : s.capacity ≤ maxAllocation)
    (hlen : len ≤ maxAllocation) : readAio s offset len st = .ok (s.readAio offset len st) := by
  have hbuffer : s.buffer.capacity ≤ maxAllocation := h
  unfold readAio Stage.readAio
  rcases hend : Offset.rangeEnd offset len with f | stop
  · rfl
  rcases hidle : s.checkIdle with f | ⟨⟩
  · rfl
  dsimp only
  split
  · rw [allocate_of_le hlen, ok_bind, copyOut_eq hbuffer]
    rfl
  split
  · rw [allocate_of_le hlen, ok_bind,
      readBytes_eq M hst h (Offset.rangeEnd_eq_ok_iff.mp hend).1, ok_bind]
    rcases s.readBytes st offset len with ⟨f | bytes, s1, st1⟩
    · rfl
    · rfl
  · rename_i hfits
    rw [flushNow_eq, ok_bind]
    rcases hf : s.flushNow st with ⟨f | n, s1, st1⟩
    · rfl
    obtain ⟨htake, hbegin⟩ := take_eq (.read offset len) hidle hf
    have hcap1 : s1.capacity = s.capacity := (Stage.flushNow_same hf).capacity
    dsimp only
    rw [htake, ok_bind, hbegin]
    dsimp only
    have hasked : ({ s1 with inflight := ⟨[.read offset len]⟩ } : Stage).countMiss =
        s1.asked offset len := rfl
    have hsubmit : submitRead (s1.asked offset len).adapter offset (s1.asked offset len).capacity st1 =
        _ := submitRead_eq M (M.used (Stage.flushNow_used hf) hst) (Nat.le_refl _)
    rw [hasked, hsubmit, ok_bind]
    rcases hs : (s1.asked offset len).adapter.submitRead offset (s1.asked offset len).capacity st1
      with ⟨f | r | ticket, a, st2⟩
    · rfl
    · have hcap2 : a.buffer.capacity = s.capacity := (Adapter.submitRead_same hs).capacity.trans hcap1
      have hample : Stage.Ample { s1.asked offset len with adapter := a } :=
        ample_of_one (hcap2.trans_le h) rfl ((Nat.le_of_not_lt hfits).trans_eq hcap2.symm)
      dsimp only
      rw [answer_eq hample]
      rfl
    · rfl

theorem writeAio_eq (h : s.capacity ≤ maxAllocation) (hdata : data.length ≤ maxAllocation) :
    writeAio s offset data st = .ok (s.writeAio offset data st) := by
  unfold writeAio Stage.writeAio
  rcases hend : Offset.rangeEnd offset data.length with f | stop
  · rfl
  rcases hidle : s.checkIdle with f | ⟨⟩
  · rfl
  dsimp only
  split
  · rw [stageBytes_eq (Offset.rangeEnd_eq_ok_iff.mp hend).1 hdata h, ok_bind]
    rcases s.stageBytes st offset data with ⟨f | n, s1, st1⟩
    · rfl
    dsimp only
    rw [flushNow_eq, ok_bind]
    rcases s1.flushNow st1 with ⟨f | m, s2, st2⟩
    · rfl
    · rfl
  · rename_i hfits
    rw [flushNow_eq, ok_bind]
    rcases hf : s.flushNow st with ⟨f | n, s1, st1⟩
    · rfl
    obtain ⟨htake, hbegin⟩ := take_eq (.write offset data.length) hidle hf
    have hcap1 : s1.buffer.capacity = s.capacity := (Stage.flushNow_same hf).capacity
    have hfront : data.length ≤ s1.buffer.capacity := (Nat.le_of_not_lt hfits).trans_eq hcap1.symm
    obtain ⟨b, hset, hcapb⟩ : ∃ b, (s1.buffer.invalidate.poke 0 data).setLength data.length = .ok b ∧
        b.capacity = s1.buffer.capacity :=
      ⟨_, StagingBuffer.setLength_of_le (b := s1.buffer.invalidate.poke 0 data) hfront, rfl⟩
    dsimp only
    rw [htake, ok_bind, save_eq hfront, ok_bind, load_eq hfront hset, ok_bind, hbegin]
    dsimp only
    rw [hset]
    dsimp only
    obtain ⟨s2, hs2, hcap2, hreq2⟩ : ∃ s2 : Stage,
        ({ s1 with inflight := ⟨[.write offset data.length]⟩ } : Stage).withBuffer
          { b with start := offset } = s2 ∧ s2.capacity = s1.buffer.capacity ∧
        s2.inflight = ⟨[.write offset data.length]⟩ := ⟨_, rfl, hcapb, rfl⟩
    rw [hs2, submitWrite_eq (hfront.trans_eq hcap2.symm), ok_bind]
    rcases hs : s2.adapter.submitWrite offset data.length st1 with ⟨f | r | ticket, a, st2⟩
    · have hcap3 : a.buffer.capacity = s2.capacity := (Adapter.submitWrite_same hs).capacity
      dsimp only
      rw [restored_eq (hcap2.symm.trans hcap3.symm)]
      rfl
    · have hcap3 : a.buffer.capacity = s2.capacity := (Adapter.submitWrite_same hs).capacity
      have hample : Stage.Ample { s2 with adapter := a } :=
        ample_of_one ((hcap3.trans (hcap2.trans hcap1)).trans_le h) hreq2
          (hfront.trans_eq (hcap3.trans hcap2).symm)
      dsimp only
      rw [answer_eq hample]
      rfl
    · rfl

end Calls

end Guarded

/-! ## What callers come to -/

namespace Stage

variable {σ : Type} [ObjectStore σ] {s s' : Stage} {st st' : σ} {offset len : Nat} {data : Bytes}
  {ticket : Ticket}

theorem Ample.of_asked (h : s.Ample) (hcap : s'.capacity = s.capacity)
    (hasked : ∀ request ∈ s'.inflight.requests,
      request ∈ s.inflight.requests ∨ request.len ≤ s.capacity) : s'.Ample := by
  refine ⟨hcap.trans_le h.capacity, fun request hreq => ?_⟩
  rw [hcap]
  exact (hasked request hreq).elim (h.asked request) id

theorem Same.ample (hsame : s.Same s') (h : s.Ample) : s'.Ample :=
  h.of_asked hsame.capacity fun _ hreq => .inl (hsame.inflight ▸ hreq)

/-- Only a read that fits goes out. -/
theorem readAio_asks (h : s.readAio offset len st = (.ok (.submitted ticket), s', st')) :
    len ≤ s.capacity ∧ s'.inflight.requests = [.read offset len] := by
  refine ⟨?_, ?_⟩
  · by_contra hlarge
    unfold readAio at h
    split at h
    · cases h
    · cases h
    · split at h
      · cases h
      · rw [if_pos (Nat.lt_of_not_le hlarge)] at h
        split at h
        · cases h
        · cases h
  · cases readAio_cases h with
    | submitted _ _ _ => rfl

theorem writeAio_asks (h : s.writeAio offset data st = (.ok (.submitted ticket), s', st')) :
    data.length ≤ s.capacity ∧ s'.inflight.requests = [.write offset data.length] := by
  cases writeAio_cases h with
  | submitted hfits _ hf _ => exact ⟨hfits.trans_eq (flushNow_same hf).capacity, rfl⟩

theorem Begun.ample {r : Except Failure (Started Completion)} (h : s.Begun r s') (hs : s.Ample)
    (hcap : s'.capacity = s.capacity)
    (hout : ∀ ticket, r = .ok (.submitted ticket) →
      ∃ request : AioRequest, request.len ≤ s.capacity ∧ s'.inflight.requests = [request]) :
    s'.Ample := by
  refine hs.of_asked hcap ?_
  cases h with
  | refused hnone _ =>
    rw [hnone]
    intro request hreq
    cases hreq
  | ended hnone _ =>
    rw [hnone]
    intro request hreq
    cases hreq
  | out _ _ =>
    obtain ⟨request, hlen, hone⟩ := hout _ rfl
    rw [hone]
    intro q hq
    rw [List.mem_singleton.mp hq]
    exact .inr hlen

theorem readAio_ample {r : Except Failure (Started Completion)} (hs : s.Ample)
    (h : s.readAio offset len st = (r, s', st')) : s'.Ample := by
  by_cases hidle : s.outstanding = 0
  · refine (readAio_begun (List.length_eq_zero_iff.mp hidle) h).ample hs (readAio_adapter h).capacity ?_
    rintro ticket rfl
    exact ⟨.read offset len, readAio_asks h⟩
  · obtain ⟨-, rfl, -⟩ := readAio_while_busy hidle h
    exact hs

theorem writeAio_ample {r : Except Failure (Started Completion)} (hs : s.Ample)
    (h : s.writeAio offset data st = (r, s', st')) : s'.Ample := by
  by_cases hidle : s.outstanding = 0
  · refine (writeAio_begun (List.length_eq_zero_iff.mp hidle) h).ample hs
      (writeAio_adapter h).capacity ?_
    rintro ticket rfl
    exact ⟨.write offset data.length, writeAio_asks h⟩
  · obtain ⟨-, rfl, -⟩ := writeAio_while_busy hidle h
    exact hs

theorem answer_ample {q : Except Failure Nat} {c : Completion} (hs : s.Ample)
    (h : s.answer q = (c, s')) : s'.Ample := by
  have hrest : Ample { s with inflight := s.inflight.finish } :=
    ⟨hs.capacity, fun request hreq => hs.asked request (List.mem_of_mem_drop hreq)⟩
  unfold Stage.answer at h
  dsimp only at h
  split at h
  · cases h
    exact hs
  · refine hrest.of_asked (congrArg (·.buffer.capacity) (answerRead_adapter h)) fun _ hreq => .inl ?_
    rwa [(answerRead_counts h).1] at hreq
  · refine hrest.of_asked (answerWrite_adapter h).capacity fun _ hreq => .inl ?_
    rwa [(answerWrite_counts h).1] at hreq

/-- A completion ends a request, or finds none. -/
theorem complete_ample {c answer : Completion} (hs : s.Ample) (h : s.complete c = (answer, s')) :
    s'.Ample := by
  have hfinished : ∀ {offset count : Nat} {q : Except Failure Nat} {a : Adapter},
      s.adapter.finish offset count c = (q, a) → Ample { s with adapter := a } := fun hf =>
    hs.of_asked (Adapter.finish_same hf).capacity fun _ hreq => .inl hreq
  unfold Stage.complete at h
  split at h
  · cases h
    exact hs
  · rcases hf : s.adapter.finish _ s.capacity c with ⟨q, a⟩
    rw [hf] at h
    exact answer_ample (hfinished hf) h
  · rcases hf : s.adapter.finish _ _ c with ⟨q, a⟩
    rw [hf] at h
    exact answer_ample (hfinished hf) h

end Stage

/-! ## Steps -/

/-- The bytes that an act is for. -/
def Act.size : Act → Nat
  | .read _ len => len
  | .write _ data => data.length
  | .flush => 0
  | .readAio _ len => len
  | .writeAio _ data => data.length
  | .deliver => 0

/-- A step of a caller. -/
def Guarded.step {σ : Type} [ObjectStore σ] (c : Client σ) : Act → Guarded (Reply × Client σ)
  | .read offset len => do
    let (r, stage, store) ← read c.stage offset len c.store
    return (.bytes r, { c with stage, store })
  | .write offset data => do
    let (r, stage, store) ← write c.stage offset data c.store
    return (.count r, { c with stage, store })
  | .flush => do
    let (r, stage, store) ← flush c.stage c.store
    return (.count r, { c with stage, store })
  | .readAio offset len => do
    let (r, stage, store) ← readAio c.stage offset len c.store
    return (.started r, { stage, store, due := Client.dueAfter c.due (.read offset len) r })
  | .writeAio offset data => do
    let (r, stage, store) ← writeAio c.stage offset data c.store
    return (.started r, { stage, store, due := Client.dueAfter c.due (.write offset data) r })
  | .deliver =>
    match c.due with
    | none => return (.nothing, c)
    | some (ticket, _) =>
      match ObjectStore.await ticket c.store with
      | (some done, store) => do
        let (answer, stage) ← complete c.stage done
        return (.completed answer, { stage, store })
      | (none, store) => return (.nothing, { c with store, due := none })

namespace Client

variable {σ : Type} [ObjectStore σ] {M : Modest σ} {c c' : Client σ} {act : Act} {reply : Reply}

/-- A client that callers came to, from a stage that was just built with a buffer that can be
allocated, while others did with the store what they liked. -/
inductive Arises (M : Modest σ) : Client σ → Prop where
  | built {settings : Settings} {fd : Fd} {stage : Stage} {store : σ} :
      Stage.build settings fd = .ok stage → settings.bufferSize ≤ maxAllocation →
      M.Fits store → Arises M { stage, store }
  | after {c : Client σ} (act : Act) : Arises M c → Arises M (c.step act).2
  | meanwhile {c : Client σ} {store : σ} : Arises M c → M.Fits store → Arises M { c with store }

/-- The store is as it should be, and so is the stage. -/
structure Fit (M : Modest σ) (c : Client σ) : Prop where
  store : M.Fits c.store
  stage : c.stage.Ample

theorem fit_of_build {settings : Settings} {fd : Fd} {stage : Stage} {store : σ}
    (hbuild : Stage.build settings fd = .ok stage) (hsize : settings.bufferSize ≤ maxAllocation)
    (hst : M.Fits store) : Fit M { stage, store } := by
  obtain ⟨hpos, rfl⟩ := Stage.build_eq_ok_iff.mp hbuild
  exact ⟨hst, hsize, fun _ hreq => absurd hreq List.not_mem_nil⟩

theorem Fit.step (h : Fit M c) (hstep : c.step act = (reply, c')) : Fit M c' := by
  cases act with
  | read offset len =>
    rcases hr : c.stage.read offset len c.store with ⟨r, stage, store⟩
    simp only [Client.step, hr] at hstep
    cases hstep
    exact ⟨M.used (Stage.read_used hr) h.store, (Stage.read_same hr).ample h.stage⟩
  | write offset data =>
    rcases hw : c.stage.write offset data c.store with ⟨r, stage, store⟩
    simp only [Client.step, hw] at hstep
    cases hstep
    exact ⟨M.used (Stage.write_used hw) h.store, (Stage.write_same hw).ample h.stage⟩
  | flush =>
    rcases hf : c.stage.flush c.store with ⟨r, stage, store⟩
    simp only [Client.step, hf] at hstep
    cases hstep
    exact ⟨M.used (Stage.flush_used hf) h.store, (Stage.flush_same hf).ample h.stage⟩
  | readAio offset len =>
    rcases hr : c.stage.readAio offset len c.store with ⟨r, stage, store⟩
    simp only [Client.step, hr] at hstep
    cases hstep
    exact ⟨M.used (Stage.readAio_used hr) h.store, Stage.readAio_ample h.stage hr⟩
  | writeAio offset data =>
    rcases hw : c.stage.writeAio offset data c.store with ⟨r, stage, store⟩
    simp only [Client.step, hw] at hstep
    cases hstep
    exact ⟨M.used (Stage.writeAio_used hw) h.store, Stage.writeAio_ample h.stage hw⟩
  | deliver =>
    unfold Client.step at hstep
    dsimp only at hstep
    split at hstep
    · cases hstep
      exact h
    · rename_i ticket _ _
      have hawaited : M.Fits (ObjectStore.await ticket c.store).2 :=
        M.keeps (.await ticket) trivial h.store
      split at hstep
      · rename_i done store ha
        rcases hc : c.stage.complete done with ⟨answer, stage⟩
        rw [hc] at hstep
        rw [ha] at hawaited
        cases hstep
        exact ⟨hawaited, Stage.complete_ample h.stage hc⟩
      · rename_i ha
        rw [ha] at hawaited
        cases hstep
        exact ⟨hawaited, h.stage⟩

theorem Arises.fit (h : Arises M c) : Fit M c := by
  induction h with
  | built hbuild hsize hst => exact fit_of_build hbuild hsize hst
  | after _ _ ih => exact ih.step rfl
  | meanwhile _ hst ih => exact ⟨hst, ih.stage⟩

/-- No step of an act that can be allocated is stopped. -/
theorem Fit.step_eq (h : Fit M c) (hact : act.size ≤ maxAllocation) :
    Guarded.step c act = .ok (c.step act) := by
  unfold Guarded.step Client.step
  cases act with
  | read offset len =>
    dsimp only
    rw [Guarded.read_eq M h.store h.stage.capacity]
    rfl
  | write offset data =>
    dsimp only
    rw [Guarded.write_eq h.stage.capacity hact]
    rfl
  | flush =>
    dsimp only
    rw [Guarded.flush_eq]
    rfl
  | readAio offset len =>
    have hlen : len ≤ maxAllocation := hact
    dsimp only
    rw [Guarded.readAio_eq M h.store h.stage.capacity hlen]
    rfl
  | writeAio offset data =>
    dsimp only
    rw [Guarded.writeAio_eq h.stage.capacity hact]
    rfl
  | deliver =>
    dsimp only
    rcases c.due with _ | ⟨ticket, asked⟩
    · rfl
    dsimp only
    rcases ObjectStore.await ticket c.store with ⟨_ | done, store⟩
    · rfl
    · dsimp only
      rw [Guarded.complete_eq h.stage]
      rfl

end Client

end StagedFiles
