-- Requests with their callbacks, route by route. A caller is told how its request came out
-- where the counters and the image are final and the request is out no more, and the call
-- ends there. So whatever callbacks do, a request comes to what it comes to without them.
import StagedFiles.Proofs.Client

namespace StagedFiles

/-- A stage over its store, and what its callers have besides. -/
structure World (σ ω : Type) where
  stage : Stage
  store : σ
  callers : ω

/-- What a caller does when it is told how its request came out. -/
abbrev Done (σ ω : Type) := Completion → World σ ω → World σ ω

namespace World

variable {σ ω : Type}

/-! ## The end of a request -/

/-- The request that was out is out no more. -/
def release (w : World σ ω) : World σ ω :=
  { w with stage := { w.stage with inflight := w.stage.inflight.finish } }

/-- The end of a read that went through the buffer. -/
def endRead (w : World σ ω) (offset len : Nat) (r : Except Failure Nat) (done : Done σ ω) :
    World σ ω :=
  match r with
  | .error f => done (.bytes (.error f)) w.release
  | .ok _ =>
    let bytes := w.stage.buffer.copyOut offset len
    let w := { w with stage := w.stage.countAioRead bytes.length }
    done (.bytes (.ok bytes)) w.release

/-- The end of a write of `len` bytes that went through the buffer. -/
def endWrite (w : World σ ω) (len : Nat) (r : Except Failure Nat) (done : Done σ ω) :
    World σ ω :=
  match r with
  | .error f => done (.count (.error f)) w.release
  | .ok n =>
    let w := { w with stage := w.stage.countAioWrite n }
    let w :=
      if n = len then
        { w with stage := w.stage.withBuffer { w.stage.buffer with valid := true } }
      else w
    done (.count (.ok n)) w.release

/-- The store delivers a completion. The adapter takes what it brings, and then the request
that was out ends. -/
def complete (w : World σ ω) (c : Completion) (done : Done σ ω) : World σ ω :=
  match w.stage.inflight.requests with
  | [] => done c w
  | .read offset len :: _ =>
    let (r, adapter) := w.stage.adapter.finish offset w.stage.capacity c
    { w with stage := { w.stage with adapter } }.endRead offset len r done
  | .write offset len :: _ =>
    let (r, adapter) := w.stage.adapter.finish offset len c
    { w with stage := { w.stage with adapter } }.endWrite len r done

/-! ## The start of a request -/

section Starts

variable [ObjectStore σ]

/-- Starts a read. The answer is a ticket when the store owes the completion, and none when
the caller was told before the call returns. -/
def readAio (w : World σ ω) (offset len : Nat) (done : Done σ ω) :
    Except Failure (Option Ticket) × World σ ω :=
  match Offset.rangeEnd offset len, w.stage.checkIdle with
  | .error f, _ => (.error f, w)
  | .ok _, .error f => (.error f, w)
  | .ok _, .ok () =>
    if w.stage.buffer.covers offset len then
      let bytes := Bytes.resize (w.stage.buffer.copyOut offset len) len
      (.ok none, done (.bytes (.ok bytes)) { w with stage := w.stage.countHit.countAioRead len })
    else if w.stage.capacity < len then
      match w.stage.readBytes w.store offset len with
      | (.error f, stage, store) => (.ok none, done (.bytes (.error f)) { w with stage, store })
      | (.ok bytes, stage, store) =>
        let stage := stage.countAioRead bytes.length
        (.ok none, done (.bytes (.ok bytes)) { w with stage, store })
    else
      match w.stage.flushNow w.store with
      | (.error f, stage, store) => (.error f, { w with stage, store })
      | (.ok _, stage, store) =>
        match stage.inflight.begin? (.read offset len) with
        | .error n => (.error (.inFlight stage.fd n), { w with stage, store })
        | .ok inflight =>
          let stage := { stage with inflight }.countMiss
          match stage.adapter.submitRead offset stage.capacity store with
          | (.error f, adapter, store) =>
            (.error f, { w with stage := { stage with adapter }, store }.release)
          | (.ok (.submitted ticket), adapter, store) =>
            (.ok (some ticket), { w with stage := { stage with adapter }, store })
          | (.ok (.finished r), adapter, store) =>
            (.ok none, { w with stage := { stage with adapter }, store }.endRead offset len r done)

/-- Starts a write. -/
def writeAio (w : World σ ω) (offset : Nat) (data : Bytes) (done : Done σ ω) :
    Except Failure (Option Ticket) × World σ ω :=
  match Offset.rangeEnd offset data.length, w.stage.checkIdle with
  | .error f, _ => (.error f, w)
  | .ok _, .error f => (.error f, w)
  | .ok _, .ok () =>
    if w.stage.capacity < data.length then
      match w.stage.stageBytes w.store offset data with
      | (.error f, stage, store) => (.ok none, done (.count (.error f)) { w with stage, store })
      | (.ok n, stage, store) =>
        match stage.flushNow store with
        | (.error f, stage, store) => (.ok none, done (.count (.error f)) { w with stage, store })
        | (.ok _, stage, store) =>
          (.ok none, done (.count (.ok n)) { w with stage := stage.countAioWrite n, store })
    else
      match w.stage.flushNow w.store with
      | (.error f, stage, store) => (.error f, { w with stage, store })
      | (.ok _, stage, store) =>
        match stage.inflight.begin? (.write offset data.length) with
        | .error n => (.error (.inFlight stage.fd n), { w with stage, store })
        | .ok inflight =>
          let before := SavedImage.of stage.buffer data.length
          match (stage.buffer.invalidate.poke 0 data).setLength data.length with
          | .error f => (.error f, { w with stage, store })
          | .ok b =>
            let stage := { stage with inflight }.withBuffer { b with start := offset }
            match stage.adapter.submitWrite offset data.length store with
            | (.error f, a, store) =>
              let adapter := a.restored before
              (.error f, { w with stage := { stage with adapter }, store }.release)
            | (.ok (.submitted ticket), adapter, store) =>
              (.ok (some ticket), { w with stage := { stage with adapter }, store })
            | (.ok (.finished r), adapter, store) =>
              (.ok none,
                { w with stage := { stage with adapter }, store }.endWrite data.length r done)

/-- Starts a request. -/
def request (w : World σ ω) (errand : Errand) (done : Done σ ω) :
    Except Failure (Option Ticket) × World σ ω :=
  match errand with
  | .read offset len => w.readAio offset len done
  | .write offset data => w.writeAio offset data done

/-- The store runs what it owes under a ticket. The callback of a completion that was dropped
does not run. -/
def deliver (w : World σ ω) (ticket : Ticket) (done : Done σ ω) : World σ ω :=
  match ObjectStore.await ticket w.store with
  | (some c, store) => { w with store }.complete c done
  | (none, store) => { w with store }

end Starts

/-! ## Without callbacks -/

theorem endRead_eq (w : World σ ω) (offset len : Nat) (r : Except Failure Nat)
    (done : Done σ ω) :
    w.endRead offset len r done =
      done (w.release.stage.answerRead offset len r).1
        { w with stage := (w.release.stage.answerRead offset len r).2 } := by
  cases r with
  | error f => rfl
  | ok n => rfl

theorem endWrite_eq (w : World σ ω) (len : Nat) (r : Except Failure Nat) (done : Done σ ω) :
    w.endWrite len r done =
      done (w.release.stage.answerWrite len r).1
        { w with stage := (w.release.stage.answerWrite len r).2 } := by
  cases r with
  | error f => rfl
  | ok n =>
    unfold endWrite Stage.answerWrite
    dsimp only
    split
    · rfl
    · rfl

/-- The caller is told where the request has ended, and nothing comes after. -/
theorem complete_eq {w : World σ ω} {c answer : Completion} {stage : Stage} (done : Done σ ω)
    (h : w.stage.complete c = (answer, stage)) :
    w.complete c done = done answer { w with stage } := by
  unfold Stage.complete Stage.answer at h
  unfold complete
  rcases hreq : w.stage.inflight.requests with _ | ⟨⟨offset, len⟩ | ⟨offset, len⟩, rest⟩
  · simp only [hreq, Prod.mk.injEq] at h ⊢
    obtain ⟨rfl, rfl⟩ := h
    rfl
  · simp only [hreq] at h ⊢
    rw [endRead_eq]
    unfold release
    dsimp only
    rw [h]
  · simp only [hreq] at h ⊢
    rw [endWrite_eq]
    unfold release
    dsimp only
    rw [h]

/-- A call with a callback, from what the call comes to without one: the callback runs last,
where the request is over before the call returns, and otherwise not at all. -/
def follow (w : World σ ω) (done : Done σ ω) :
    Except Failure (Started Completion) × Stage × σ → Except Failure (Option Ticket) × World σ ω
  | (.error f, stage, store) => (.error f, { w with stage, store })
  | (.ok (.submitted ticket), stage, store) => (.ok (some ticket), { w with stage, store })
  | (.ok (.finished c), stage, store) => (.ok none, done c { w with stage, store })

variable [ObjectStore σ]

theorem readAio_eq (w : World σ ω) (offset len : Nat) (done : Done σ ω) :
    w.readAio offset len done = w.follow done (w.stage.readAio offset len w.store) := by
  unfold readAio Stage.readAio
  rcases Offset.rangeEnd offset len with f | stop
  · rfl
  rcases w.stage.checkIdle with f | ⟨⟩
  · rfl
  dsimp only
  split
  · rfl
  split
  · rcases w.stage.readBytes w.store offset len with ⟨f | bytes, stage, store⟩
    · rfl
    · rfl
  rcases w.stage.flushNow w.store with ⟨f | n, stage, store⟩
  · rfl
  dsimp only
  rcases hb : stage.inflight.begin? (.read offset len) with n | inflight
  · rfl
  dsimp only
  rcases ({ stage with inflight } : Stage).countMiss.adapter.submitRead offset
    ({ stage with inflight } : Stage).countMiss.capacity store with ⟨f | r | ticket, adapter, store⟩
  · rfl
  · dsimp only
    rw [endRead_eq]
    obtain ⟨-, rfl⟩ := (InFlight.begin?_eq_ok_iff ..).mp hb
    rfl
  · rfl

theorem writeAio_eq (w : World σ ω) (offset : Nat) (data : Bytes) (done : Done σ ω) :
    w.writeAio offset data done = w.follow done (w.stage.writeAio offset data w.store) := by
  unfold writeAio Stage.writeAio
  rcases Offset.rangeEnd offset data.length with f | stop
  · rfl
  rcases w.stage.checkIdle with f | ⟨⟩
  · rfl
  dsimp only
  split
  · rcases w.stage.stageBytes w.store offset data with ⟨f | n, stage, store⟩
    · rfl
    dsimp only
    rcases stage.flushNow store with ⟨f | m, stage, store⟩
    · rfl
    · rfl
  rcases w.stage.flushNow w.store with ⟨f | n, stage, store⟩
  · rfl
  dsimp only
  rcases hb : stage.inflight.begin? (.write offset data.length) with n | inflight
  · rfl
  dsimp only
  rcases (stage.buffer.invalidate.poke 0 data).setLength data.length with f | b
  · rfl
  dsimp only
  rcases
    (({ stage with inflight } : Stage).withBuffer { b with start := offset }).adapter.submitWrite
      offset data.length store with ⟨f | r | ticket, adapter, store⟩
  · rfl
  · dsimp only
    rw [endWrite_eq]
    obtain ⟨-, rfl⟩ := (InFlight.begin?_eq_ok_iff ..).mp hb
    rfl
  · rfl

end World

/-! ## Requests of a client -/

/-- The act with which a transfer is handed in. -/
def Errand.act : Errand → Act
  | .read offset len => .readAio offset len
  | .write offset data => .writeAio offset data

namespace Client

variable {σ ω : Type} [ObjectStore σ]

/-- The client with what its callers have besides. -/
def world (c : Client σ) (callers : ω) : World σ ω := ⟨c.stage, c.store, callers⟩

variable {c c' : Client σ} {errand : Errand} {ticket : Ticket}

/-- A request is answered with how it started. -/
theorem step_started (c : Client σ) (errand : Errand) :
    ∃ r, c.step errand.act = (.started r, (c.step errand.act).2) := by
  cases errand with
  | read offset len => exact ⟨_, rfl⟩
  | write offset data => exact ⟨_, rfl⟩

theorem readAio_of_step {offset len : Nat} {r : Except Failure (Started Completion)}
    (h : c.step (Errand.read offset len).act = (.started r, c')) :
    c.stage.readAio offset len c.store = (r, c'.stage, c'.store) ∧
      c'.due = dueAfter c.due (.read offset len) r := by
  simp only [Errand.act, step, Prod.mk.injEq, Reply.started.injEq] at h
  obtain ⟨rfl, rfl⟩ := h
  exact ⟨rfl, rfl⟩

theorem writeAio_of_step {offset : Nat} {data : Bytes} {r : Except Failure (Started Completion)}
    (h : c.step (Errand.write offset data).act = (.started r, c')) :
    c.stage.writeAio offset data c.store = (r, c'.stage, c'.store) ∧
      c'.due = dueAfter c.due (.write offset data) r := by
  simp only [Errand.act, step, Prod.mk.injEq, Reply.started.injEq] at h
  obtain ⟨rfl, rfl⟩ := h
  exact ⟨rfl, rfl⟩

/-- A request with a callback is the step of the client, with the callback behind it. -/
theorem request_eq {r : Except Failure (Started Completion)}
    (h : c.step errand.act = (.started r, c')) :
    c'.due = dueAfter c.due errand r ∧ ∀ (callers : ω) (done : Done σ ω),
      (c.world callers).request errand done =
        (c.world callers).follow done (r, c'.stage, c'.store) := by
  cases errand with
  | read offset len =>
    obtain ⟨hr, hdue⟩ := readAio_of_step h
    refine ⟨hdue, fun callers done => ?_⟩
    rw [← hr]
    exact World.readAio_eq (c.world callers) offset len done
  | write offset data =>
    obtain ⟨hw, hdue⟩ := writeAio_of_step h
    refine ⟨hdue, fun callers done => ?_⟩
    rw [← hw]
    exact World.writeAio_eq (c.world callers) offset data done

/-- The callback of a request that is refused does not run, and nothing is owed to it. -/
theorem request_refused {f : Failure} (h : c.step errand.act = (.started (.error f), c')) :
    c'.due = c.due ∧ ∀ (callers : ω) (done : Done σ ω),
      (c.world callers).request errand done = (.error f, c'.world callers) := request_eq h

/-- The callback of a request that the store took in has still to run. -/
theorem request_submitted (h : c.step errand.act = (.started (.ok (.submitted ticket)), c')) :
    c'.due = some (ticket, errand) ∧ ∀ (callers : ω) (done : Done σ ω),
      (c.world callers).request errand done = (.ok (some ticket), c'.world callers) :=
  request_eq h

/-- The callback of a request that was over at once has run, last of all. -/
theorem request_finished {answer : Completion}
    (h : c.step errand.act = (.started (.ok (.finished answer)), c')) :
    c'.due = c.due ∧ ∀ (callers : ω) (done : Done σ ω),
      (c.world callers).request errand done = (.ok none, done answer (c'.world callers)) :=
  request_eq h

/-- The callback of a request that was out runs last when its completion is delivered. -/
theorem deliver_completed {answer : Completion} (hdue : c.due = some (ticket, errand))
    (h : c.step .deliver = (.completed answer, c')) :
    c'.due = none ∧ ∀ (callers : ω) (done : Done σ ω),
      (c.world callers).deliver ticket done = done answer (c'.world callers) := by
  rcases ha : ObjectStore.await ticket c.store with ⟨_ | raw, store⟩
  · simp only [step, hdue, ha] at h
    cases h
  · rcases hc : c.stage.complete raw with ⟨told, stage⟩
    simp only [step, hdue, ha, hc] at h
    cases h
    refine ⟨rfl, fun callers done => ?_⟩
    unfold World.deliver
    simp only [world, ha]
    exact World.complete_eq done hc

end Client

end StagedFiles
