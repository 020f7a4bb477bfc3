-- A store seen through limits: a cap on the bytes that one read or one write
-- passes on, and bytes that a read handed in asks for on top of its length.
-- Without limits it is the store itself.
import StagedFiles.ObjectStore

namespace StagedFiles

structure Limits where
  maxRead : Option Nat := none
  maxWrite : Option Nat := none
  /-- Added to the length of a read that is handed in, after the cap. -/
  extraRead : Nat := 0
  deriving DecidableEq, Repr

/-- A length under a cap. -/
def Limits.capped (cap : Option Nat) (n : Nat) : Nat :=
  match cap with
  | some m => min m n
  | none => n

structure Throttled (σ : Type) where
  inner : σ
  limits : Limits := {}

namespace Throttled

variable {σ α : Type}

/-- A call on the store behind the limits. -/
def pass (call : σ → α × σ) (t : Throttled σ) : α × Throttled σ :=
  let (r, inner) := call t.inner
  (r, { t with inner })

instance [ObjectStore σ] : ObjectStore (Throttled σ) where
  name := ObjectStore.name σ
  openPath path access := pass (ObjectStore.openPath path access)
  close fd := pass (ObjectStore.close fd)
  readAt fd offset len t :=
    t.pass (ObjectStore.readAt fd offset (Limits.capped t.limits.maxRead len))
  writeAt fd offset data t :=
    t.pass (ObjectStore.writeAt fd offset (data.take (Limits.capped t.limits.maxWrite data.length)))
  submitRead fd offset len t :=
    t.pass (ObjectStore.submitRead fd offset
      (Limits.capped t.limits.maxRead len + t.limits.extraRead))
  submitWrite fd offset data t :=
    t.pass (ObjectStore.submitWrite fd offset
      (data.take (Limits.capped t.limits.maxWrite data.length)))
  await ticket := pass (ObjectStore.await ticket)
  stat fd := pass (ObjectStore.stat fd)
  sync fd := pass (ObjectStore.sync fd)
  truncate fd len := pass (ObjectStore.truncate fd len)
  statPath path := pass (ObjectStore.statPath path)
  truncatePath path len := pass (ObjectStore.truncatePath path len)
  unlinkPath path := pass (ObjectStore.unlinkPath path)

end Throttled

end StagedFiles
