-- Requests that are handed in. One that the image covers, and one larger than
-- the buffer, is over before the call returns. Any other goes through the
-- buffer: a read fills all of it, a write replaces the image, which counts
-- again only once every byte went. When a request is over, its counters and
-- the image are final and nothing is out.
import StagedFiles.Stage.Transfer

namespace StagedFiles

/-! ## The image that a write replaces -/

/-- What a write puts back when it is refused: where the image stood, and as much of its
front as the data went over. -/
structure SavedImage where
  start : Nat
  len : Nat
  head : Bytes

namespace SavedImage

/-- What data of `n` bytes go over, while the image counts. -/
def of (b : StagingBuffer) (n : Nat) : Option SavedImage :=
  if b.valid then some ⟨b.start, b.len, b.peek 0 n⟩ else none

/-- The buffer with the image back. -/
def restore (image : SavedImage) (b : StagingBuffer) : StagingBuffer :=
  let b := { b.poke 0 image.head with start := image.start }
  match b.setLength image.len with
  | .ok b => { b with valid := true }
  | .error _ => b

end SavedImage

/-- The adapter with the image back that counted before, if there was one. -/
def Adapter.restored (a : Adapter) (before : Option SavedImage) : Adapter :=
  match before with
  | some image => { a with buffer := image.restore a.buffer }
  | none => a

namespace Stage

/-! ## The end of a request -/

/-- The outcome of a read that filled the buffer, for a request of `len`
bytes at an offset. -/
def answerRead (s : Stage) (offset len : Nat) (r : Except Failure Nat) : Completion × Stage :=
  match r with
  | .ok _ =>
    let bytes := s.buffer.copyOut offset len
    (.bytes (.ok bytes), s.countAioRead bytes.length)
  | .error f => (.bytes (.error f), s)

/-- The outcome of a write of `len` bytes. The image counts again when all
of them went. -/
def answerWrite (s : Stage) (len : Nat) (r : Except Failure Nat) : Completion × Stage :=
  match r with
  | .ok n =>
    let s := s.countAioWrite n
    (.count (.ok n), if n = len then s.withBuffer { s.buffer with valid := true } else s)
  | .error f => (.count (.error f), s)

/-- Ends the oldest request with what its adapter says. -/
def answer (s : Stage) (r : Except Failure Nat) : Completion × Stage :=
  let rest := { s with inflight := s.inflight.finish }
  match s.inflight.requests with
  | [] => (.count r, s)
  | .read offset len :: _ => rest.answerRead offset len r
  | .write _ len :: _ => rest.answerWrite len r

/-- Takes the completion of the oldest request, as the store delivers it. -/
def complete (s : Stage) (c : Completion) : Completion × Stage :=
  match s.inflight.requests with
  | [] => (c, s)
  | .read offset _ :: _ =>
    let (r, a) := s.adapter.finish offset s.capacity c
    { s with adapter := a }.answer r
  | .write offset len :: _ =>
    let (r, a) := s.adapter.finish offset len c
    { s with adapter := a }.answer r

/-! ## The start of a request -/

variable {σ : Type} [ObjectStore σ]

/-- Starts a read of `len` bytes at an offset. -/
def readAio (s : Stage) (offset len : Nat) (st : σ) :
    Except Failure (Started Completion) × Stage × σ :=
  match Offset.rangeEnd offset len, s.checkIdle with
  | .error f, _ => (.error f, s, st)
  | .ok _, .error f => (.error f, s, st)
  | .ok _, .ok () =>
    if s.buffer.covers offset len then
      let bytes := Bytes.resize (s.buffer.copyOut offset len) len
      (.ok (.finished (.bytes (.ok bytes))), s.countHit.countAioRead len, st)
    else if s.capacity < len then
      match s.readBytes st offset len with
      | (.ok bytes, s, st) =>
        (.ok (.finished (.bytes (.ok bytes))), s.countAioRead bytes.length, st)
      | (.error f, s, st) => (.ok (.finished (.bytes (.error f))), s, st)
    else
      match s.flushNow st with
      | (.error f, s, st) => (.error f, s, st)
      | (.ok _, s, st) =>
        match s.inflight.begin? (.read offset len) with
        | .error n => (.error (.inFlight s.fd n), s, st)
        | .ok inflight =>
          let s := { s with inflight }.countMiss
          match s.adapter.submitRead offset s.capacity st with
          | (.error f, a, st) =>
            (.error f, { s with adapter := a, inflight := s.inflight.finish }, st)
          | (.ok (.submitted ticket), a, st) => (.ok (.submitted ticket), { s with adapter := a }, st)
          | (.ok (.finished r), a, st) =>
            let (c, s) := { s with adapter := a }.answer r
            (.ok (.finished c), s, st)

/-- Starts a write of data at an offset. A write that is refused leaves the
image that counted before. -/
def writeAio (s : Stage) (offset : Nat) (data : Bytes) (st : σ) :
    Except Failure (Started Completion) × Stage × σ :=
  match Offset.rangeEnd offset data.length, s.checkIdle with
  | .error f, _ => (.error f, s, st)
  | .ok _, .error f => (.error f, s, st)
  | .ok _, .ok () =>
    if s.capacity < data.length then
      match s.stageBytes st offset data with
      | (.error f, s, st) => (.ok (.finished (.count (.error f))), s, st)
      | (.ok n, s, st) =>
        match s.flushNow st with
        | (.error f, s, st) => (.ok (.finished (.count (.error f))), s, st)
        | (.ok _, s, st) => (.ok (.finished (.count (.ok n))), s.countAioWrite n, st)
    else
      match s.flushNow st with
      | (.error f, s, st) => (.error f, s, st)
      | (.ok _, s, st) =>
        match s.inflight.begin? (.write offset data.length) with
        | .error n => (.error (.inFlight s.fd n), s, st)
        | .ok inflight =>
          let before := SavedImage.of s.buffer data.length
          match (s.buffer.invalidate.poke 0 data).setLength data.length with
          | .error f => (.error f, s, st)
          | .ok b =>
            let s := { s with inflight }.withBuffer { b with start := offset }
            match s.adapter.submitWrite offset data.length st with
            | (.error f, a, st) =>
              (.error f, { s with adapter := a.restored before, inflight := s.inflight.finish }, st)
            | (.ok (.submitted ticket), a, st) =>
              (.ok (.submitted ticket), { s with adapter := a }, st)
            | (.ok (.finished r), a, st) =>
              let (c, s) := { s with adapter := a }.answer r
              (.ok (.finished c), s, st)

end Stage

end StagedFiles
