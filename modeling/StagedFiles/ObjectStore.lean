-- What a file needs from a store. A store is a value: each call takes it and
-- gives it back changed, next to the answer. A transfer can also be handed in
-- for a ticket; its completion comes later, once, unless the store drops it.
import StagedFiles.Bytes
import StagedFiles.Failure

namespace StagedFiles

/-! ## Answers -/

/-- A read that failed after some bytes had landed. -/
structure Torn where
  landed : Bytes
  why : Failure
  deriving DecidableEq, Repr

/-- The receipt for a transfer that a store took in. -/
structure Ticket where
  serial : Nat
  deriving DecidableEq, Repr

/-- How a transfer that was handed in came out: a read with its bytes, a
write with its count. -/
inductive Completion where
  | bytes (result : Except Failure Bytes)
  | count (result : Except Failure Nat)

/-- A request that was taken: it is over already, or its completion is due. -/
inductive Started (α : Type) where
  | finished (result : α)
  | submitted (ticket : Ticket)

/-! ## The calls -/

/-- A store of objects. Offsets and lengths count bytes. -/
class ObjectStore (σ : Type) where
  /-- The kind of store. -/
  name : String
  openPath : String → Access → σ → Except Failure Fd × σ
  close : Fd → σ → Except Failure Unit × σ
  /-- Reads at most `len` bytes at an offset; fewer mean the object ended or
  the transfer was short. -/
  readAt : Fd → Nat → Nat → σ → Except Torn Bytes × σ
  /-- Writes at an offset; the answer is how many bytes went. -/
  writeAt : Fd → Nat → Bytes → σ → Except Failure Nat × σ
  submitRead : Fd → Nat → Nat → σ → Except Failure Ticket × σ
  submitWrite : Fd → Nat → Bytes → σ → Except Failure Ticket × σ
  /-- Waits for the completion of a ticket; none when it was dropped. -/
  await : Ticket → σ → Option Completion × σ
  stat : Fd → σ → Except Failure Nat × σ
  sync : Fd → σ → Except Failure Unit × σ
  truncate : Fd → Nat → σ → Except Failure Unit × σ
  statPath : String → σ → Except Failure Nat × σ
  truncatePath : String → Nat → σ → Except Failure Unit × σ
  unlinkPath : String → σ → Except Failure Unit × σ

end StagedFiles
