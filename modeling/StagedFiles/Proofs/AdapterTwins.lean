-- An adapter that blocks beside one that hands in. Over stores in which a
-- transfer comes out the same whether it is made or handed in, the two move the
-- same bytes, count the same and fail the same.
import StagedFiles.Proofs.AdapterPairs

namespace StagedFiles

/-! ## Stores that echo each other -/

/-- Two stores in which a descriptor does the same, whether a transfer is made in
the first or handed in to the second and waited for. -/
structure Echo (σ τ : Type) [ObjectStore σ] [ObjectStore τ] (fd : Fd) where
  /-- As far as the descriptor goes, the stores have come to the same. -/
  Abreast : σ → τ → Prop
  read {st : σ} {st' : τ} (offset len : Nat) : Abreast st st' →
    ∃ (r : Except Failure Bytes) (ticket : Ticket) (st1 : σ) (out st1' : τ),
      ObjectStore.readAt fd offset len st = (r.mapError (Torn.mk []), st1) ∧
      ObjectStore.submitRead fd offset len st' = (.ok ticket, out) ∧
      ObjectStore.await ticket out = (some (.bytes r), st1') ∧
      (∀ bytes, r = .ok bytes → bytes.length ≤ len) ∧ Abreast st1 st1'
  write {st : σ} {st' : τ} (offset : Nat) (data : Bytes) : Abreast st st' →
    ∃ (r : Except Failure Nat) (ticket : Ticket) (st1 : σ) (out st1' : τ),
      ObjectStore.writeAt fd offset data st = (r, st1) ∧
      ObjectStore.submitWrite fd offset data st' = (.ok ticket, out) ∧
      ObjectStore.await ticket out = (some (.count r), st1') ∧ Abreast st1 st1'

namespace Adapter

/-- An adapter that blocks and one that hands in, which have come to the same. -/
structure Twins (fd : Fd) (a a' : Adapter) : Prop where
  kind : a.kind = .sync
  kind' : a'.kind = .async
  fd_eq : a.fd = fd
  fd_eq' : a'.fd = fd
  buffer : a.buffer.Alike a'.buffer
  traffic : a'.traffic = a.traffic

variable {σ τ : Type} [ObjectStore σ] [ObjectStore τ] {fd : Fd} {a a' : Adapter} {st : σ} {st' : τ}
  {offset count : Nat}

theorem Twins.beside (h : Twins fd a a') : Beside ⟨.sync, fd⟩ ⟨.async, fd⟩ a a' := by
  refine ⟨?_, ?_, h.buffer, h.traffic⟩
  · unfold port
    rw [h.kind, h.fd_eq]
  · unfold port
    rw [h.kind', h.fd_eq']

theorem Beside.twins (h : Beside ⟨.sync, fd⟩ ⟨.async, fd⟩ a a') : Twins fd a a' :=
  ⟨h.kind, h.kind', h.fd, h.fd', h.buffer, h.traffic⟩

/-! ## Transfers -/

/-- A transfer that one adapter makes and the other hands in: both refuse it, or
the other is as it was before, and takes a completion that comes out the same. -/
inductive Echoed (E : Echo σ τ fd) (before : Adapter) (offset count : Nat) :
    Except Failure (Started (Except Failure Nat)) × Adapter × σ →
    Except Failure (Started (Except Failure Nat)) × Adapter × τ → Prop where
  | refused {f : Failure} {a a' : Adapter} {st : σ} {st' : τ} : Twins fd a a' → E.Abreast st st' →
      Echoed E before offset count (.error f, a, st) (.error f, a', st')
  | echoed {r : Except Failure Nat} {ticket : Ticket} {done : Completion} {a a' : Adapter}
      {st : σ} {out st' : τ} : ObjectStore.await ticket out = (some done, st') →
      before.finish offset count done = (r, a') → Twins fd a a' → E.Abreast st st' →
      Echoed E before offset count (.ok (.finished r), a, st) (.ok (.submitted ticket), before, out)

/-- The two come to the same, with the same answer. -/
def AsOne {α : Type} (E : Echo σ τ fd) (x : α × Adapter × σ) (x' : α × Adapter × τ) : Prop :=
  ∃ r a st a' st', x = (r, a, st) ∧ x' = (r, a', st') ∧ Twins fd a a' ∧ E.Abreast st st'

variable (E : Echo σ τ fd)

theorem submitRead_echoed (h : Twins fd a a') (hs : E.Abreast st st') (offset count : Nat) :
    Echoed E a' offset count (a.submitRead offset count st) (a'.submitRead offset count st') := by
  unfold Adapter.submitRead
  rw [h.beside.checkCount, h.kind, h.kind']
  rcases a.checkCount count with f | ⟨⟩
  · exact .refused h hs
  · obtain ⟨r, ticket, st1, out, st1', hread, hsubmit, hwait, hlen, hs1⟩ := E.read offset count hs
    rw [← h.fd_eq] at hread
    rw [← h.fd_eq'] at hsubmit
    dsimp only
    unfold readNow
    rw [hread, hsubmit]
    rcases r with f | bytes
    · -- what lands before the failure is nothing
      have hpoked : Twins fd { a with buffer := a.buffer.poke 0 [] } a' :=
        (h.beside.withBuffer h.buffer.poke_nil).twins
      exact .echoed hwait rfl hpoked hs1
    · obtain ⟨q, b, b', hinstall, hinstall', hbeside⟩ := h.beside.install offset bytes
      dsimp only [Except.mapError]
      rw [hinstall]
      refine .echoed hwait ?_ hbeside.twins hs1
      unfold Adapter.finish
      dsimp only
      rw [List.take_of_length_le (hlen bytes rfl)]
      exact hinstall'

theorem submitWrite_echoed (h : Twins fd a a') (hs : E.Abreast st st') (offset count : Nat) :
    Echoed E a' offset count (a.submitWrite offset count st) (a'.submitWrite offset count st') := by
  unfold Adapter.submitWrite
  rw [h.beside.checkCount, h.kind, h.kind']
  rcases a.checkCount count with f | ⟨⟩
  · exact .refused h hs
  · obtain ⟨r, ticket, st1, out, st1', hwrite, hsubmit, hwait, hs1⟩ :=
      E.write offset (a.buffer.peek 0 count) hs
    dsimp only
    unfold writeNow
    rw [h.fd_eq, h.fd_eq', h.buffer.peek, hwrite, hsubmit]
    rcases r with f | n
    · exact .echoed hwait rfl h hs1
    · exact .echoed hwait rfl (h.beside.wrote n).twins hs1

theorem Echoed.settled {direction : Direction}
    {x : Except Failure (Started (Except Failure Nat)) × Adapter × σ}
    {x' : Except Failure (Started (Except Failure Nat)) × Adapter × τ}
    (h : Echoed E a' offset count x x') :
    AsOne E (settled direction offset count x) (settled direction offset count x') := by
  cases h with
  | refused h hs => exact ⟨_, _, _, _, _, rfl, rfl, h, hs⟩
  | echoed hwait hfinish h hs =>
    refine ⟨_, _, _, _, _, rfl, ?_, h, hs⟩
    unfold Adapter.settled Adapter.settle
    dsimp only
    rw [hwait]
    dsimp only
    rw [hfinish]

theorem read_as_one (h : Twins fd a a') (hs : E.Abreast st st') (offset count : Nat) :
    AsOne E (a.read offset count st) (a'.read offset count st') :=
  (submitRead_echoed E h hs offset count).settled E

theorem write_as_one (h : Twins fd a a') (hs : E.Abreast st st') (offset count : Nat) :
    AsOne E (a.write offset count st) (a'.write offset count st') :=
  (submitWrite_echoed E h hs offset count).settled E

end Adapter

/-- The two kinds of adapters move the same bytes over stores that echo each other. -/
def Echo.pairing {σ τ : Type} [ObjectStore σ] [ObjectStore τ] {fd : Fd} (E : Echo σ τ fd) :
    Pairing σ τ ⟨.sync, fd⟩ ⟨.async, fd⟩ where
  Abreast := E.Abreast
  read offset count h hs := by
    obtain ⟨r, b, st1, b', st1', hr, hr', hb, hs1⟩ := Adapter.read_as_one E h.twins hs offset count
    exact ⟨r, b, st1, b', st1', hr, hr', hb.beside, hs1⟩
  write offset count h hs := by
    obtain ⟨r, b, st1, b', st1', hw, hw', hb, hs1⟩ := Adapter.write_as_one E h.twins hs offset count
    exact ⟨r, b, st1, b', st1', hw, hw', hb.beside, hs1⟩

end StagedFiles
