-- What a stage may rely on in its store, and what others may do to it. A
-- keeper says that one object stands behind a descriptor and that its bytes
-- change only by the transfers of that descriptor. A shared store lets others
-- act before each call; as long as they leave what the keeper keeps, it is
-- kept through the shared store as well.
import StagedFiles.ObjectStore
import StagedFiles.Proofs.Overlay

namespace StagedFiles

/-! ## The keeper of an object -/

/-- A transfer that is asked for: to read at most `len` bytes, or to write data. -/
inductive Errand where
  | read (offset len : Nat)
  | write (offset : Nat) (data : Bytes)

/-- The object behind a descriptor, and the transfer of that descriptor that is
out. A transfer moves as many bytes as it likes, or fails. Some may have moved by
then, both of a read and of a write. -/
structure Keeper (σ : Type) [ObjectStore σ] (fd : Fd) where
  /-- The object has these bytes, and this transfer is out. -/
  Keeps : σ → Bytes → Option (Ticket × Errand) → Prop
  read_ok {st st' : σ} {b : Bytes} {out : Option (Ticket × Errand)} {offset len : Nat}
    {bytes : Bytes} :
    Keeps st b out → ObjectStore.readAt fd offset len st = (.ok bytes, st') →
      Keeps st' b out ∧ bytes.length ≤ len ∧ Bytes.HasAt b offset bytes
  read_error {st st' : σ} {b : Bytes} {out : Option (Ticket × Errand)} {offset len : Nat}
    {torn : Torn} :
    Keeps st b out → ObjectStore.readAt fd offset len st = (.error torn, st') → Keeps st' b out
  write_ok {st st' : σ} {b : Bytes} {out : Option (Ticket × Errand)} {offset n : Nat}
    {data : Bytes} :
    Keeps st b out → ObjectStore.writeAt fd offset data st = (.ok n, st') →
      n ≤ data.length ∧ Keeps st' (Bytes.overlay b offset (data.take n)) out
  write_error {st st' : σ} {b : Bytes} {out : Option (Ticket × Errand)} {offset : Nat}
    {data : Bytes} {f : Failure} :
    Keeps st b out → ObjectStore.writeAt fd offset data st = (.error f, st') →
      ∃ b', Bytes.FrontLaid b offset data b' ∧ Keeps st' b' out
  submitRead_ok {st st' : σ} {b : Bytes} {offset len : Nat} {ticket : Ticket} :
    Keeps st b none → ObjectStore.submitRead fd offset len st = (.ok ticket, st') →
      Keeps st' b (some (ticket, .read offset len))
  submitRead_error {st st' : σ} {b : Bytes} {offset len : Nat} {f : Failure} :
    Keeps st b none → ObjectStore.submitRead fd offset len st = (.error f, st') → Keeps st' b none
  submitWrite_ok {st st' : σ} {b : Bytes} {offset : Nat} {data : Bytes} {ticket : Ticket} :
    Keeps st b none → ObjectStore.submitWrite fd offset data st = (.ok ticket, st') →
      Keeps st' b (some (ticket, .write offset data))
  submitWrite_error {st st' : σ} {b : Bytes} {offset : Nat} {data : Bytes} {f : Failure} :
    Keeps st b none → ObjectStore.submitWrite fd offset data st = (.error f, st') → Keeps st' b none
  /-- A read may bring more than was asked for. -/
  await_read {st st' : σ} {b : Bytes} {ticket : Ticket} {offset len : Nat}
    {c : Option Completion} :
    Keeps st b (some (ticket, .read offset len)) → ObjectStore.await ticket st = (c, st') →
      Keeps st' b none ∧
        ((∃ f, c = some (.bytes (.error f))) ∨
          ∃ bytes, c = some (.bytes (.ok bytes)) ∧ Bytes.HasAt b offset bytes)
  await_write {st st' : σ} {b : Bytes} {ticket : Ticket} {offset : Nat} {data : Bytes}
    {c : Option Completion} :
    Keeps st b (some (ticket, .write offset data)) → ObjectStore.await ticket st = (c, st') →
      (∃ f b', c = some (.count (.error f)) ∧ Bytes.FrontLaid b offset data b' ∧
          Keeps st' b' none) ∨
        ∃ n, c = some (.count (.ok n)) ∧ n ≤ data.length ∧
          Keeps st' (Bytes.overlay b offset (data.take n)) none
  stat {st st' : σ} {b : Bytes} {out : Option (Ticket × Errand)} {r : Except Failure Nat} :
    Keeps st b out → ObjectStore.stat fd st = (r, st') → Keeps st' b out
  sync {st st' : σ} {b : Bytes} {out : Option (Ticket × Errand)} {r : Except Failure Unit} :
    Keeps st b out → ObjectStore.sync fd st = (r, st') → Keeps st' b out
  truncate_ok {st st' : σ} {b : Bytes} {out : Option (Ticket × Errand)} {len : Nat} :
    Keeps st b out → ObjectStore.truncate fd len st = (.ok (), st') →
      Keeps st' (Bytes.resize b len) out
  truncate_error {st st' : σ} {b : Bytes} {out : Option (Ticket × Errand)} {len : Nat}
    {f : Failure} :
    Keeps st b out → ObjectStore.truncate fd len st = (.error f, st') → Keeps st' b out

/-- A read that fails has moved nothing by then. -/
def Keeper.LandsNothing {σ : Type} [ObjectStore σ] {fd : Fd} (K : Keeper σ fd) : Prop :=
  ∀ ⦃st st' : σ⦄ ⦃b : Bytes⦄ ⦃out : Option (Ticket × Errand)⦄ ⦃offset len : Nat⦄ ⦃torn : Torn⦄,
    K.Keeps st b out → ObjectStore.readAt fd offset len st = (.error torn, st') → torn.landed = []

/-! ## A store that others use -/

/-- A store that others use as well. Before each call they act on it. -/
structure Shared (σ : Type) where
  inner : σ
  /-- What others do before the call of each number. -/
  others : Nat → σ → σ := fun _ st => st
  /-- The calls made so far. -/
  calls : Nat := 0
  /-- The descriptors given up by these calls, newest first. -/
  closed : List Fd := []

namespace Shared

variable {σ α : Type}

/-- The others act, and then the call is made. -/
def turn (call : σ → α × σ) (s : Shared σ) : α × Shared σ :=
  let (r, inner) := call (s.others s.calls s.inner)
  (r, { s with inner, calls := s.calls + 1 })

/-- A call in turn gives no descriptor up by itself. -/
theorem turn_closed {call : σ → α × σ} {s s' : Shared σ} {r : α} (h : s.turn call = (r, s')) :
    s'.closed = s.closed := by
  unfold turn at h
  cases h
  rfl

instance [ObjectStore σ] : ObjectStore (Shared σ) where
  name := ObjectStore.name σ
  openPath path access := turn (ObjectStore.openPath path access)
  close fd s :=
    let (r, s) := s.turn (ObjectStore.close fd)
    (r, { s with closed := fd :: s.closed })
  readAt fd offset len := turn (ObjectStore.readAt fd offset len)
  writeAt fd offset data := turn (ObjectStore.writeAt fd offset data)
  submitRead fd offset len := turn (ObjectStore.submitRead fd offset len)
  submitWrite fd offset data := turn (ObjectStore.submitWrite fd offset data)
  await ticket := turn (ObjectStore.await ticket)
  stat fd := turn (ObjectStore.stat fd)
  sync fd := turn (ObjectStore.sync fd)
  truncate fd len := turn (ObjectStore.truncate fd len)
  statPath path := turn (ObjectStore.statPath path)
  truncatePath path len := turn (ObjectStore.truncatePath path len)
  unlinkPath path := turn (ObjectStore.unlinkPath path)

end Shared

/-! ## Keeping through a shared store -/

namespace Keeper

variable {σ : Type} [ObjectStore σ] {fd : Fd}

/-- The others leave what the keeper keeps, whenever they act. -/
def Spared (K : Keeper σ fd) (others : Nat → σ → σ) : Prop :=
  ∀ n st b out, K.Keeps st b out → K.Keeps (others n st) b out

/-- What is kept in a shared store, whose others spare it. -/
structure KeepsShared (K : Keeper σ fd) (s : Shared σ) (b : Bytes)
    (out : Option (Ticket × Errand)) : Prop where
  inner : K.Keeps s.inner b out
  spared : K.Spared s.others

/-- A call through a shared store is a call on a store that is kept as well. -/
theorem KeepsShared.turn {K : Keeper σ fd} {α : Type} {s s' : Shared σ} {b : Bytes}
    {out : Option (Ticket × Errand)} {call : σ → α × σ} {r : α} (h : K.KeepsShared s b out)
    (hc : s.turn call = (r, s')) :
    ∃ st, K.Keeps st b out ∧ call st = (r, s'.inner) ∧ K.Spared s'.others := by
  refine ⟨s.others s.calls s.inner, h.spared _ _ _ _ h.inner, ?_⟩
  unfold Shared.turn at hc
  obtain ⟨rfl, rfl⟩ := Prod.mk.inj hc
  exact ⟨rfl, h.spared⟩

/-- The keeper of an object keeps it in a shared store. -/
def shared (K : Keeper σ fd) : Keeper (Shared σ) fd where
  Keeps := K.KeepsShared
  read_ok h hc := by
    obtain ⟨st, hk, hcall, hs⟩ := h.turn hc
    obtain ⟨hk', hlen, hat⟩ := K.read_ok hk hcall
    exact ⟨⟨hk', hs⟩, hlen, hat⟩
  read_error h hc := by
    obtain ⟨st, hk, hcall, hs⟩ := h.turn hc
    exact ⟨K.read_error hk hcall, hs⟩
  write_ok h hc := by
    obtain ⟨st, hk, hcall, hs⟩ := h.turn hc
    obtain ⟨hn, hk'⟩ := K.write_ok hk hcall
    exact ⟨hn, hk', hs⟩
  write_error h hc := by
    obtain ⟨st, hk, hcall, hs⟩ := h.turn hc
    obtain ⟨b', hfront, hk'⟩ := K.write_error hk hcall
    exact ⟨b', hfront, hk', hs⟩
  submitRead_ok h hc := by
    obtain ⟨st, hk, hcall, hs⟩ := h.turn hc
    exact ⟨K.submitRead_ok hk hcall, hs⟩
  submitRead_error h hc := by
    obtain ⟨st, hk, hcall, hs⟩ := h.turn hc
    exact ⟨K.submitRead_error hk hcall, hs⟩
  submitWrite_ok h hc := by
    obtain ⟨st, hk, hcall, hs⟩ := h.turn hc
    exact ⟨K.submitWrite_ok hk hcall, hs⟩
  submitWrite_error h hc := by
    obtain ⟨st, hk, hcall, hs⟩ := h.turn hc
    exact ⟨K.submitWrite_error hk hcall, hs⟩
  await_read h hc := by
    obtain ⟨st, hk, hcall, hs⟩ := h.turn hc
    obtain ⟨hk', hr⟩ := K.await_read hk hcall
    exact ⟨⟨hk', hs⟩, hr⟩
  await_write h hc := by
    obtain ⟨st, hk, hcall, hs⟩ := h.turn hc
    rcases K.await_write hk hcall with ⟨f, b', hf, hfront, hk'⟩ | ⟨n, hn, hle, hk'⟩
    · exact Or.inl ⟨f, b', hf, hfront, hk', hs⟩
    · exact Or.inr ⟨n, hn, hle, hk', hs⟩
  stat h hc := by
    obtain ⟨st, hk, hcall, hs⟩ := h.turn hc
    exact ⟨K.stat hk hcall, hs⟩
  sync h hc := by
    obtain ⟨st, hk, hcall, hs⟩ := h.turn hc
    exact ⟨K.sync hk hcall, hs⟩
  truncate_ok h hc := by
    obtain ⟨st, hk, hcall, hs⟩ := h.turn hc
    exact ⟨K.truncate_ok hk hcall, hs⟩
  truncate_error h hc := by
    obtain ⟨st, hk, hcall, hs⟩ := h.turn hc
    exact ⟨K.truncate_error hk hcall, hs⟩

/-- So it is where others use the store as well. -/
theorem LandsNothing.shared {K : Keeper σ fd} (h : K.LandsNothing) : K.shared.LandsNothing := by
  intro st st' b out offset len torn hk hc
  obtain ⟨inner, hinner, hcall, -⟩ := KeepsShared.turn hk hc
  exact h hinner hcall

end Keeper

end StagedFiles
