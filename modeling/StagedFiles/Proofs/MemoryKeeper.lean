-- The store in memory is a keeper of the object of an open descriptor, behind
-- any limits, and no read of it that fails has moved anything. Faults that are armed
-- and limits that are set between its calls leave what it keeps.
import StagedFiles.Proofs.Keeper
import StagedFiles.Proofs.KeptObject
import StagedFiles.Store.Throttled

namespace StagedFiles

/-! ## Limits -/

theorem Limits.capped_le (cap : Option Nat) (n : Nat) : Limits.capped cap n ≤ n := by
  unfold Limits.capped
  split
  · exact Nat.min_le_right ..
  · exact Nat.le_refl _

/-- A call behind the limits is a call of the store. -/
theorem Throttled.pass_eq {σ α : Type} {call : σ → α × σ} {t t' : Throttled σ} {r : α}
    (h : t.pass call = (r, t')) : call t.inner = (r, t'.inner) := by
  unfold Throttled.pass at h
  obtain ⟨rfl, rfl⟩ := Prod.mk.inj h
  rfl

/-- The transfer of a descriptor for an errand. -/
def Errand.job (fd : Fd) : Errand → Job
  | .read offset len => .read fd offset len
  | .write offset data => .write fd offset data

namespace MemoryStore

variable {fd : Fd} {o : ObjectId} {access : Access} {st st' : MemoryStore} {b : Bytes}
  {out : Option (Ticket × Job)}

/-! ## The calls -/

theorem Kept.count (h : Kept fd o access st b out) (f : CallCounts → CallCounts) :
    Kept fd o access (st.count f) b out := h.of_same rfl rfl rfl rfl rfl

theorem Kept.checkSubmit {r : Except Failure Unit} (h : Kept fd o access st b out)
    (hc : st.checkSubmit fd = (r, st')) : Kept fd o access st' b out := by
  rcases checkSubmit_cases st fd with ⟨g, faults, hs⟩ | hs
  · rw [hs] at hc
    obtain ⟨_, rfl⟩ := Prod.mk.inj hc
    exact h.of_same rfl rfl rfl rfl rfl
  · rw [hs] at hc
    obtain ⟨_, rfl⟩ := Prod.mk.inj hc
    exact h

theorem Kept.readAt_ok {offset len : Nat} {bytes : Bytes} (h : Kept fd o access st b out)
    (hc : st.readAt fd offset len = (.ok bytes, st')) :
    Kept fd o access st' b out ∧ bytes = Bytes.slice b offset len := by
  unfold MemoryStore.readAt at hc
  dsimp only at hc
  split at hc
  · rename_i hr
    obtain ⟨hbytes, rfl⟩ := Prod.mk.inj hc
    cases hbytes
    exact (h.count _).performRead_ok hr
  · simp at hc

theorem Kept.readAt_error {offset len : Nat} {torn : Torn} (h : Kept fd o access st b out)
    (hc : st.readAt fd offset len = (.error torn, st')) :
    Kept fd o access st' b out ∧ torn.landed = [] := by
  unfold MemoryStore.readAt at hc
  dsimp only at hc
  split at hc
  · simp at hc
  · rename_i hr
    obtain ⟨htorn, rfl⟩ := Prod.mk.inj hc
    cases htorn
    exact ⟨(h.count _).performRead_error hr, rfl⟩

theorem Kept.submitRead_ok {offset len : Nat} {ticket : Ticket} (h : Kept fd o access st b none)
    (hc : st.submitRead fd offset len = (.ok ticket, st')) :
    Kept fd o access st' b (some (ticket, .read fd offset len)) := by
  unfold MemoryStore.submitRead at hc
  split at hc
  · simp at hc
  · rename_i hs
    obtain ⟨hticket, rfl⟩ := Prod.mk.inj hc
    cases hticket
    exact ((h.checkSubmit hs).count _).park _

theorem Kept.submitRead_error {offset len : Nat} {f : Failure} (h : Kept fd o access st b none)
    (hc : st.submitRead fd offset len = (.error f, st')) : Kept fd o access st' b none := by
  unfold MemoryStore.submitRead at hc
  split at hc
  · rename_i hs
    obtain ⟨_, rfl⟩ := Prod.mk.inj hc
    exact h.checkSubmit hs
  · simp at hc

theorem Kept.submitWrite_ok {offset : Nat} {data : Bytes} {ticket : Ticket}
    (h : Kept fd o access st b none)
    (hc : st.submitWrite fd offset data = (.ok ticket, st')) :
    Kept fd o access st' b (some (ticket, .write fd offset data)) := by
  unfold MemoryStore.submitWrite at hc
  split at hc
  · simp at hc
  · rename_i hs
    obtain ⟨hticket, rfl⟩ := Prod.mk.inj hc
    cases hticket
    exact ((h.checkSubmit hs).count _).park _

theorem Kept.submitWrite_error {offset : Nat} {data : Bytes} {f : Failure}
    (h : Kept fd o access st b none)
    (hc : st.submitWrite fd offset data = (.error f, st')) : Kept fd o access st' b none := by
  unfold MemoryStore.submitWrite at hc
  split at hc
  · rename_i hs
    obtain ⟨_, rfl⟩ := Prod.mk.inj hc
    exact h.checkSubmit hs
  · simp at hc

theorem Kept.stat {r : Except Failure Nat} (h : Kept fd o access st b out)
    (hc : st.stat fd = (r, st')) : Kept fd o access st' b out := by
  unfold MemoryStore.stat at hc
  rw [h.handle] at hc
  obtain ⟨_, rfl⟩ := Prod.mk.inj hc
  exact h

theorem Kept.sync {r : Except Failure Unit} (h : Kept fd o access st b out)
    (hc : st.sync fd = (r, st')) : Kept fd o access st' b out := by
  obtain ⟨_, rfl⟩ := Prod.mk.inj hc
  exact h.count _

theorem Kept.truncate_ok {len : Nat} (h : Kept fd o access st b out)
    (hc : st.truncate fd len = (.ok (), st')) :
    Kept fd o access st' (Bytes.resize b len) out := by
  unfold MemoryStore.truncate at hc
  dsimp only at hc
  rw [(h.count _).handle] at hc
  dsimp only at hc
  split at hc
  · obtain ⟨_, rfl⟩ := Prod.mk.inj hc
    refine ⟨h.handle, ?_, h.parked_older, h.finished_older, h.alone⟩
    rw [content_setContent_self, SparseBytes.toBytes_resize, (h.count _).content]
  · simp at hc

theorem Kept.truncate_error {len : Nat} {f : Failure} (h : Kept fd o access st b out)
    (hc : st.truncate fd len = (.error f, st')) : Kept fd o access st' b out := by
  unfold MemoryStore.truncate at hc
  dsimp only at hc
  rw [(h.count _).handle] at hc
  dsimp only at hc
  split at hc
  · simp at hc
  · obtain ⟨_, rfl⟩ := Prod.mk.inj hc
    exact h.count _

/-! ## The keeper behind limits -/

/-- What is parked for a transfer: a read that asks for any number of bytes, a
write of some front of the data. -/
inductive Carries (fd : Fd) : Option (Ticket × Errand) → Option (Ticket × Job) → Prop where
  | nothing : Carries fd none none
  | read (t : Ticket) (offset len asked : Nat) :
      Carries fd (some (t, .read offset len)) (some (t, .read fd offset asked))
  | write (t : Ticket) (offset : Nat) (data : Bytes) (n : Nat) :
      Carries fd (some (t, .write offset data)) (some (t, .write fd offset (data.take n)))

/-- What is kept in the store behind the limits. -/
def KeptBehind (fd : Fd) (o : ObjectId) (access : Access) (t : Throttled MemoryStore) (b : Bytes)
    (out : Option (Ticket × Errand)) : Prop :=
  ∃ job, Carries fd out job ∧ Kept fd o access t.inner b job

/-- The store in memory keeps the object of an open descriptor, behind any limits. -/
def keeper (fd : Fd) (o : ObjectId) (access : Access) : Keeper (Throttled MemoryStore) fd where
  Keeps := KeptBehind fd o access
  read_ok h hc := by
    obtain ⟨job, hjob, hk⟩ := h
    obtain ⟨hk', rfl⟩ := hk.readAt_ok (Throttled.pass_eq hc)
    refine ⟨⟨job, hjob, hk'⟩, ?_, Bytes.hasAt_slice ..⟩
    rw [Bytes.length_slice]
    exact Nat.le_trans (Nat.min_le_left ..) (Limits.capped_le ..)
  read_error h hc := by
    obtain ⟨job, hjob, hk⟩ := h
    exact ⟨job, hjob, (hk.readAt_error (Throttled.pass_eq hc)).1⟩
  write_ok h hc := by
    obtain ⟨job, hjob, hk⟩ := h
    obtain ⟨rfl, hk'⟩ := (hk.count _).performWrite_ok (Throttled.pass_eq hc)
    refine ⟨List.length_take_le' .., job, hjob, ?_⟩
    rw [List.length_take, ← List.take_eq_take_min]
    exact hk'
  write_error h hc := by
    obtain ⟨job, hjob, hk⟩ := h
    exact ⟨_, .refl .., job, hjob, (hk.count _).performWrite_error (Throttled.pass_eq hc)⟩
  submitRead_ok h hc := by
    obtain ⟨job, hjob, hk⟩ := h
    cases hjob
    exact ⟨_, .read .., hk.submitRead_ok (Throttled.pass_eq hc)⟩
  submitRead_error h hc := by
    obtain ⟨job, hjob, hk⟩ := h
    cases hjob
    exact ⟨_, .nothing, hk.submitRead_error (Throttled.pass_eq hc)⟩
  submitWrite_ok h hc := by
    obtain ⟨job, hjob, hk⟩ := h
    cases hjob
    exact ⟨_, .write .., hk.submitWrite_ok (Throttled.pass_eq hc)⟩
  submitWrite_error h hc := by
    obtain ⟨job, hjob, hk⟩ := h
    cases hjob
    exact ⟨_, .nothing, hk.submitWrite_error (Throttled.pass_eq hc)⟩
  await_read h hc := by
    obtain ⟨job, hjob, hk⟩ := h
    cases hjob
    obtain ⟨ready, hready, rfl, hafter⟩ := hk.await (Throttled.pass_eq hc)
    obtain ⟨hk', hcase⟩ := hready.perform_read _ _
    refine ⟨⟨none, .nothing, hafter _ hk'⟩, ?_⟩
    rcases hcase with ⟨f, hf⟩ | ⟨bytes, hbytes, hat⟩
    · exact Or.inl ⟨f, congrArg some hf⟩
    · exact Or.inr ⟨bytes, congrArg some hbytes, hat⟩
  await_write h hc := by
    obtain ⟨job, hjob, hk⟩ := h
    cases hjob
    obtain ⟨ready, hready, rfl, hafter⟩ := hk.await (Throttled.pass_eq hc)
    rcases hready.perform_write _ _ with ⟨f, hf, hk'⟩ | ⟨hn, hk'⟩
    · exact Or.inl ⟨f, _, congrArg some hf, .refl .., none, .nothing, hafter _ hk'⟩
    · refine Or.inr ⟨_, congrArg some hn, List.length_take_le' .., none, .nothing, hafter _ ?_⟩
      rw [List.length_take, ← List.take_eq_take_min]
      exact hk'
  stat h hc := by
    obtain ⟨job, hjob, hk⟩ := h
    exact ⟨job, hjob, hk.stat (Throttled.pass_eq hc)⟩
  sync h hc := by
    obtain ⟨job, hjob, hk⟩ := h
    exact ⟨job, hjob, hk.sync (Throttled.pass_eq hc)⟩
  truncate_ok h hc := by
    obtain ⟨job, hjob, hk⟩ := h
    exact ⟨job, hjob, hk.truncate_ok (Throttled.pass_eq hc)⟩
  truncate_error h hc := by
    obtain ⟨job, hjob, hk⟩ := h
    exact ⟨job, hjob, hk.truncate_error (Throttled.pass_eq hc)⟩

/-- Its reads move all that they bring, or nothing. -/
theorem keeper_landsNothing (fd : Fd) (o : ObjectId) (access : Access) :
    (keeper fd o access).LandsNothing := by
  intro st st' b out offset len torn h hc
  obtain ⟨job, -, hk⟩ := h
  exact (hk.readAt_error (Throttled.pass_eq hc)).2

/-! ## What spares the object, and where keeping starts -/

/-- Faults that are armed and limits that are set before each call spare the object. -/
theorem spared_by_faults (fd : Fd) (o : ObjectId) (access : Access) (faults : Nat → Faults)
    (limits : Nat → Limits) :
    (keeper fd o access).Spared fun n t =>
      { inner := { t.inner with faults := faults n }, limits := limits n } := by
  intro n t b out h
  obtain ⟨job, hjob, hk⟩ := h
  exact ⟨job, hjob, hk.of_same rfl rfl rfl rfl rfl⟩

/-- A store with one object, which is open under the first descriptor. -/
def single (delivery : Delivery) (access : Access) (data : Bytes) : MemoryStore :=
  { delivery
    objects := ({} : Table ObjectId SparseBytes).insert 0 (.ofBytes data)
    handles := ({} : Table Fd Handle).insert .first ⟨0, access⟩
    nextObject := 1
    nextFd := Fd.first.next }

theorem single_kept (delivery : Delivery) (access : Access) (data : Bytes) (limits : Limits) :
    (keeper .first 0 access).Keeps { inner := single delivery access data, limits } data none := by
  refine ⟨none, .nothing, Table.find?_insert_self .., ?_, ?_, ?_, ?_⟩
  · show (((({} : Table ObjectId SparseBytes).insert 0 (.ofBytes data)).find? 0).getD {}).toBytes =
      data
    rw [Table.find?_insert_self]
    exact SparseBytes.toBytes_ofBytes data
  · intro x hx
    cases hx
  · intro x hx
    cases hx
  · intro x hx
    cases hx

end MemoryStore

/-! ## The object behind a shared store -/

namespace Shared

/-- The bytes of an object. -/
def object (o : ObjectId) (st : Shared (Throttled MemoryStore)) : Bytes :=
  (st.inner.inner.content o).toBytes

/-- What is kept is what the object holds. -/
theorem object_eq {fd : Fd} {o : ObjectId} {access : Access}
    {st : Shared (Throttled MemoryStore)} {bytes : Bytes} {out : Option (Ticket × Errand)}
    (hk : (MemoryStore.keeper fd o access).shared.Keeps st bytes out) : st.object o = bytes := by
  obtain ⟨⟨job, _, hkept⟩, _⟩ := hk
  exact hkept.content

end Shared

end StagedFiles
