-- A store that keeps an account of the calls that are made on it. It answers what the
-- store inside answers, so a file without errors stays one, and each fill of a buffer
-- and each flush of staged bytes is one transfer in the account.
import StagedFiles.Proofs.FlatFile
import StagedFiles.Proofs.StagedFlushes
import StagedFiles.Proofs.StoreCalls
import StagedFiles.Store.Memory

namespace StagedFiles

deriving instance DecidableEq for Job

/-! ## The account -/

/-- The transfer that a call asks for: a read or a write that is made at once, or one
that is handed in. -/
def StoreCall.transfer? : StoreCall → Option Job
  | .readAt fd offset len => some (.read fd offset len)
  | .submitRead fd offset len => some (.read fd offset len)
  | .writeAt fd offset data => some (.write fd offset data)
  | .submitWrite fd offset data => some (.write fd offset data)
  | .openPath .. | .close _ | .await _ | .stat _ | .sync _ | .truncate .. | .statPath _
  | .truncatePath .. | .unlinkPath _ => none

/-- The transfer is a read. -/
def Job.isRead : Job → Bool
  | .read .. => true
  | .write .. => false

/-- A store, and the calls that were made on it. -/
structure Recorded (σ : Type) where
  inner : σ
  /-- Newest first. -/
  calls : List StoreCall := []

namespace Recorded

variable {σ α : Type}

/-- The call is made and noted. -/
def pass (call : StoreCall) (made : σ → α × σ) (t : Recorded σ) : α × Recorded σ :=
  let (r, inner) := made t.inner
  (r, { inner, calls := call :: t.calls })

theorem pass_eq {call : StoreCall} {made : σ → α × σ} {t : Recorded σ} {r : α} {inner : σ}
    (h : made t.inner = (r, inner)) :
    t.pass call made = (r, { inner, calls := call :: t.calls }) := by
  unfold pass
  rw [h]

instance [ObjectStore σ] : ObjectStore (Recorded σ) where
  name := ObjectStore.name σ
  openPath path access := pass (.openPath path access) (ObjectStore.openPath path access)
  close fd := pass (.close fd) (ObjectStore.close fd)
  readAt fd offset len := pass (.readAt fd offset len) (ObjectStore.readAt fd offset len)
  writeAt fd offset data := pass (.writeAt fd offset data) (ObjectStore.writeAt fd offset data)
  submitRead fd offset len :=
    pass (.submitRead fd offset len) (ObjectStore.submitRead fd offset len)
  submitWrite fd offset data :=
    pass (.submitWrite fd offset data) (ObjectStore.submitWrite fd offset data)
  await ticket := pass (.await ticket) (ObjectStore.await ticket)
  stat fd := pass (.stat fd) (ObjectStore.stat fd)
  sync fd := pass (.sync fd) (ObjectStore.sync fd)
  truncate fd len := pass (.truncate fd len) (ObjectStore.truncate fd len)
  statPath path := pass (.statPath path) (ObjectStore.statPath path)
  truncatePath path len := pass (.truncatePath path len) (ObjectStore.truncatePath path len)
  unlinkPath path := pass (.unlinkPath path) (ObjectStore.unlinkPath path)

/-- The calls that were made, oldest first. -/
def made (t : Recorded σ) : List StoreCall := t.calls.reverse

/-- The transfers among them. -/
def transfers (t : Recorded σ) : List Job := t.made.filterMap StoreCall.transfer?

theorem made_pass (call : StoreCall) (made : σ → α × σ) (t : Recorded σ) :
    (t.pass call made).2.made = t.made ++ [call] := List.reverse_cons

theorem transfers_pass (call : StoreCall) (made : σ → α × σ) (t : Recorded σ) :
    (t.pass call made).2.transfers = t.transfers ++ call.transfer?.toList := by
  unfold transfers
  rw [made_pass, List.filterMap_append]
  rcases h : call.transfer? with _ | job
  · simp [h]
  · simp [h]

/-- From one account to another there are so many reads and so many writes at most. -/
def Costs (reads writes : Nat) (t t' : Recorded σ) : Prop :=
  ∃ made, t'.transfers = t.transfers ++ made ∧
    made.countP Job.isRead ≤ reads ∧ made.countP (!·.isRead) ≤ writes

theorem Costs.nothing (reads writes : Nat) (t : Recorded σ) : Costs reads writes t t :=
  ⟨[], (List.append_nil _).symm, Nat.zero_le _, Nat.zero_le _⟩

theorem Costs.mono {r w r' w' : Nat} {t t' : Recorded σ} (h : Costs r w t t') (hr : r ≤ r')
    (hw : w ≤ w') : Costs r' w' t t' := by
  obtain ⟨made, htransfers, hreads, hwrites⟩ := h
  exact ⟨made, htransfers, Nat.le_trans hreads hr, Nat.le_trans hwrites hw⟩

theorem Costs.andThen {r1 w1 r2 w2 : Nat} {t t' t'' : Recorded σ} (h : Costs r1 w1 t t')
    (h' : Costs r2 w2 t' t'') : Costs (r1 + r2) (w1 + w2) t t'' := by
  obtain ⟨made, htransfers, hreads, hwrites⟩ := h
  obtain ⟨made', htransfers', hreads', hwrites'⟩ := h'
  refine ⟨made ++ made', ?_, ?_, ?_⟩
  · rw [htransfers', htransfers, List.append_assoc]
  · rw [List.countP_append]
    exact Nat.add_le_add hreads hreads'
  · rw [List.countP_append]
    exact Nat.add_le_add hwrites hwrites'

/-- A call that asks for a read costs one. -/
theorem Costs.of_read {call : StoreCall} {made : σ → α × σ} {t t' : Recorded σ} {fd : Fd}
    {offset len : Nat} (h : (t.pass call made).2 = t')
    (hcall : call.transfer? = some (.read fd offset len)) : Costs 1 0 t t' := by
  refine ⟨[.read fd offset len], ?_, Nat.le_refl 1, Nat.le_refl 0⟩
  rw [← h, transfers_pass, hcall]
  rfl

/-- And one that asks for a write. -/
theorem Costs.of_write {call : StoreCall} {made : σ → α × σ} {t t' : Recorded σ} {fd : Fd}
    {offset : Nat} {data : Bytes} (h : (t.pass call made).2 = t')
    (hcall : call.transfer? = some (.write fd offset data)) : Costs 0 1 t t' := by
  refine ⟨[.write fd offset data], ?_, Nat.le_refl 0, Nat.le_refl 1⟩
  rw [← h, transfers_pass, hcall]
  rfl

end Recorded

/-! ## Transfers of an adapter and of a stage -/

variable {σ : Type} [ObjectStore σ] {fd : Fd} {t t' : Recorded σ} {offset : Nat}

/-- Data that go to a descriptor are one write in the account, whatever comes of it. -/
theorem Sent.transfers {data : Bytes} (h : Sent fd offset data t t') :
    t'.transfers = t.transfers ++ [.write fd offset data] := by
  cases h with
  | written hw =>
    cases hw
    exact Recorded.transfers_pass ..
  | refused hs =>
    obtain rfl : _ = t' := congrArg Prod.snd hs
    exact Recorded.transfers_pass ..
  | @awaited ticket c t1 _ hs hwait =>
    obtain rfl : _ = t1 := congrArg Prod.snd hs
    cases hwait
    refine (Recorded.transfers_pass ..).trans ?_
    rw [show StoreCall.transfer? (.await ticket) = none from rfl, Option.toList_none,
      List.append_nil]
    exact Recorded.transfers_pass ..

/-- A read into the buffer is one read in the account, whatever comes of it. -/
theorem Adapter.read_transfers {a a' : Adapter} {count : Nat} {r : Except Failure Nat}
    (hcap : count ≤ a.buffer.capacity) (h : a.read offset count t = (r, a', t')) :
    t'.transfers = t.transfers ++ [.read a.fd offset count] := by
  unfold Adapter.read submitRead at h
  rw [checkCount_ok hcap] at h
  rcases hkind : a.kind with _ | _
  · unfold readNow at h
    rcases hr : ObjectStore.readAt a.fd offset count t with ⟨torn | bytes, t1⟩
    · simp only [hkind, hr, settle, Prod.mk.injEq] at h
      obtain ⟨-, -, rfl⟩ := h
      obtain rfl : _ = t1 := congrArg Prod.snd hr
      exact Recorded.transfers_pass ..
    · simp only [hkind, hr, settle, Prod.mk.injEq] at h
      obtain ⟨-, -, rfl⟩ := h
      obtain rfl : _ = t1 := congrArg Prod.snd hr
      exact Recorded.transfers_pass ..
  · rcases hs : ObjectStore.submitRead a.fd offset count t with ⟨f | ticket, t1⟩
    · simp only [hkind, hs, Prod.mk.injEq] at h
      obtain ⟨-, -, rfl⟩ := h
      obtain rfl : _ = t1 := congrArg Prod.snd hs
      exact Recorded.transfers_pass ..
    · have hsubmit : t1.transfers = t.transfers ++ [.read a.fd offset count] := by
        obtain rfl : _ = t1 := congrArg Prod.snd hs
        exact Recorded.transfers_pass ..
      have hwait : (ObjectStore.await ticket t1).2.transfers = t1.transfers :=
        (Recorded.transfers_pass ..).trans (List.append_nil _)
      rcases hw : ObjectStore.await ticket t1 with ⟨_ | c, t2⟩
      · simp only [hkind, hs, settle, hw, Prod.mk.injEq] at h
        obtain ⟨-, -, rfl⟩ := h
        rw [hw] at hwait
        exact hwait.trans hsubmit
      · simp only [hkind, hs, settle, hw, Prod.mk.injEq] at h
        obtain ⟨-, -, rfl⟩ := h
        rw [hw] at hwait
        exact hwait.trans hsubmit

/-! ## Files without errors -/

/-- A file without errors is one when its calls are noted. -/
def FlatFile.recorded (F : FlatFile σ fd) : FlatFile (Recorded σ) fd where
  Holds t b := F.Holds t.inner b
  Reaches := F.Reaches
  reaches_of_le := F.reaches_of_le
  write h hne hreach := by
    obtain ⟨st', hw, hholds⟩ := F.write h hne hreach
    exact ⟨_, Recorded.pass_eq hw, hholds⟩
  submitWrite h hne hreach := by
    obtain ⟨ticket, st1, st2, hs, hwait, hholds⟩ := F.submitWrite h hne hreach
    exact ⟨ticket, _, _, Recorded.pass_eq hs, Recorded.pass_eq hwait, hholds⟩
  read offset len h := by
    obtain ⟨st', hr, hholds⟩ := F.read offset len h
    exact ⟨_, Recorded.pass_eq hr, hholds⟩
  submitRead offset len h := by
    obtain ⟨ticket, st1, st2, hs, hwait, hholds⟩ := F.submitRead offset len h
    exact ⟨ticket, _, _, Recorded.pass_eq hs, Recorded.pass_eq hwait, hholds⟩

end StagedFiles
