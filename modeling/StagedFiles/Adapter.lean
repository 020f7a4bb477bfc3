-- An adapter: a staging buffer bound to a descriptor, and how its bytes go to
-- and from the store. Counters move only after a transfer that came out well,
-- and a failed one leaves the image as it was described.
import StagedFiles.ObjectStore
import StagedFiles.Settings
import StagedFiles.StagingBuffer
import StagedFiles.Traffic

namespace StagedFiles

structure Adapter where
  kind : AdapterKind
  fd : Fd
  buffer : StagingBuffer
  traffic : TwoWayTraffic := {}

namespace Adapter

/-- Refuses a request that the buffer cannot hold. -/
def checkCount (a : Adapter) (count : Nat) : Except Failure Unit :=
  if a.buffer.capacity < count then
    .error (.invalidArgument (.requestBeyond count a.buffer.capacity))
  else .ok ()

/-! ## What a completed transfer does -/

/-- The bytes become the image of the range from `offset` on. A model has no
clock, so every latency is 0. -/
def install (a : Adapter) (offset : Nat) (bytes : Bytes) : Except Failure Nat × Adapter :=
  let filled := a.buffer.poke 0 bytes
  match filled.setLength bytes.length with
  | .error f => (.error f, { a with buffer := filled })
  | .ok b =>
    (.ok bytes.length,
      { a with
        buffer := { b with start := offset, valid := true }
        traffic := { a.traffic with read := a.traffic.read.record bytes.length 0 } })

/-- A write of `n` bytes is counted. -/
def wrote (a : Adapter) (n : Nat) : Adapter :=
  { a with traffic := { a.traffic with write := a.traffic.write.record n 0 } }

/-- The completion of a transfer of `count` bytes at `offset`. A store may
deliver more bytes than it was asked for; the rest is not taken. -/
def finish (a : Adapter) (offset count : Nat) : Completion → Except Failure Nat × Adapter
  | .bytes (.ok bytes) => a.install offset (bytes.take count)
  | .bytes (.error f) => (.error f, a)
  | .count (.ok n) => (.ok n, a.wrote n)
  | .count (.error f) => (.error f, a)

/-! ## Transfers -/

variable {σ : Type} [ObjectStore σ]

/-- A read straight into the region. What lands before a failure stays there. -/
def readNow (a : Adapter) (offset count : Nat) (st : σ) : Except Failure Nat × Adapter × σ :=
  match ObjectStore.readAt a.fd offset count st with
  | (.ok bytes, st) =>
    let (r, a) := a.install offset bytes
    (r, a, st)
  | (.error torn, st) => (.error torn.why, { a with buffer := a.buffer.poke 0 torn.landed }, st)

/-- A write of the first `count` bytes of the region. -/
def writeNow (a : Adapter) (offset count : Nat) (st : σ) : Except Failure Nat × Adapter × σ :=
  match ObjectStore.writeAt a.fd offset (a.buffer.peek 0 count) st with
  | (.ok n, st) => (.ok n, a.wrote n, st)
  | (.error f, st) => (.error f, a, st)

/-- Starts to fill the buffer with `count` bytes at `offset`. -/
def submitRead (a : Adapter) (offset count : Nat) (st : σ) :
    Except Failure (Started (Except Failure Nat)) × Adapter × σ :=
  match a.checkCount count with
  | .error f => (.error f, a, st)
  | .ok () =>
    match a.kind with
    | .sync =>
      let (r, a, st) := a.readNow offset count st
      (.ok (.finished r), a, st)
    | .async =>
      match ObjectStore.submitRead a.fd offset count st with
      | (.ok ticket, st) => (.ok (.submitted ticket), a, st)
      | (.error f, st) => (.error f, a, st)

/-- Starts to write the first `count` bytes at `offset`. The bytes are those
of this moment. -/
def submitWrite (a : Adapter) (offset count : Nat) (st : σ) :
    Except Failure (Started (Except Failure Nat)) × Adapter × σ :=
  match a.checkCount count with
  | .error f => (.error f, a, st)
  | .ok () =>
    match a.kind with
    | .sync =>
      let (r, a, st) := a.writeNow offset count st
      (.ok (.finished r), a, st)
    | .async =>
      match ObjectStore.submitWrite a.fd offset (a.buffer.peek 0 count) st with
      | (.ok ticket, st) => (.ok (.submitted ticket), a, st)
      | (.error f, st) => (.error f, a, st)

/-- The end of a request that its caller waits for. -/
def settle (a : Adapter) (direction : Direction) (offset count : Nat)
    (started : Started (Except Failure Nat)) (st : σ) : Except Failure Nat × Adapter × σ :=
  match started with
  | .finished r => (r, a, st)
  | .submitted ticket =>
    match ObjectStore.await ticket st with
    | (some c, st) =>
      let (r, a) := a.finish offset count c
      (r, a, st)
    | (none, st) => (.error (.internal (.completionDropped direction a.fd)), a, st)

/-- Fills the buffer with up to `count` bytes at `offset`. -/
def read (a : Adapter) (offset count : Nat) (st : σ) : Except Failure Nat × Adapter × σ :=
  match a.submitRead offset count st with
  | (.error f, a, st) => (.error f, a, st)
  | (.ok started, a, st) => a.settle .read offset count started st

/-- Writes the first `count` bytes of the region at `offset`. -/
def write (a : Adapter) (offset count : Nat) (st : σ) : Except Failure Nat × Adapter × σ :=
  match a.submitWrite offset count st with
  | (.error f, a, st) => (.error f, a, st)
  | (.ok started, a, st) => a.settle .write offset count started st

end Adapter

end StagedFiles
