-- A store on a medium with a bad spot. A read is made of calls: one that starts in front
-- of the spot brings what stands there, and one that starts at it fails, so a read across
-- the spot fails with bytes moved. The object is kept all the same, and written anywhere.
import StagedFiles.Proofs.MemoryKeeper
import StagedFiles.Proofs.UnawareStores
import StagedFiles.Store.FullTransfer

namespace StagedFiles

structure Scratched (σ : Type) where
  inner : σ
  /-- The offset from which on nothing can be read. -/
  spot : Nat
  /-- Reads that were handed in and reach the spot. -/
  doomed : List Ticket := []

namespace Scratched

variable {σ α : Type}

/-- A call on the store behind it. -/
def pass (call : σ → α × σ) (s : Scratched σ) : α × Scratched σ :=
  let (r, inner) := call s.inner
  (r, { s with inner })

theorem pass_eq {call : σ → α × σ} {s s' : Scratched σ} {r : α} (h : s.pass call = (r, s')) :
    call s.inner = (r, s'.inner) := by
  unfold pass at h
  obtain ⟨rfl, rfl⟩ := Prod.mk.inj h
  rfl

/-- What a read that met the spot says. -/
def unreadable : SystemFault := .errno Errno.io

/-- The completion of a read that met the spot. -/
def spoiled : Completion → Completion
  | .bytes _ => .bytes (.error (.system unreadable))
  | .count r => .count r

variable [ObjectStore σ]

/-- One call of a read. -/
def readCall (fd : Fd) (offset len : Nat) (s : Scratched σ) : Attempt Bytes × Scratched σ :=
  if s.spot ≤ offset then (.failed unreadable, s)
  else
    match ObjectStore.readAt fd offset (min len (s.spot - offset)) s.inner with
    | (.ok bytes, inner) => (.moved bytes, { s with inner })
    | (.error _, inner) => (.failed unreadable, { s with inner })

/-- A read with all its calls. -/
def readAt (fd : Fd) (offset len : Nat) (s : Scratched σ) : Except Torn Bytes × Scratched σ :=
  match FullTransfer.read (readCall fd) (len + 1) offset len s with
  | (some (.ok bytes), s) => (.ok bytes, s)
  | (some (.error broken), s) => (.error ⟨broken.landed, .system broken.why⟩, s)
  | (none, s) => (.error ⟨[], .system unreadable⟩, s)

def submitRead (fd : Fd) (offset len : Nat) (s : Scratched σ) :
    Except Failure Ticket × Scratched σ :=
  match ObjectStore.submitRead fd offset len s.inner with
  | (.error f, inner) => (.error f, { s with inner })
  | (.ok ticket, inner) =>
    let doomed := if s.spot < offset + len then ticket :: s.doomed else s.doomed
    (.ok ticket, { s with inner, doomed })

def await (ticket : Ticket) (s : Scratched σ) : Option Completion × Scratched σ :=
  let (c, inner) := ObjectStore.await ticket s.inner
  (if ticket ∈ s.doomed then c.map spoiled else c, { s with inner })

instance : ObjectStore (Scratched σ) where
  name := ObjectStore.name σ
  openPath path access := pass (ObjectStore.openPath path access)
  close fd := pass (ObjectStore.close fd)
  readAt := readAt
  writeAt fd offset data := pass (ObjectStore.writeAt fd offset data)
  submitRead := submitRead
  submitWrite fd offset data := pass (ObjectStore.submitWrite fd offset data)
  await := await
  stat fd := pass (ObjectStore.stat fd)
  sync fd := pass (ObjectStore.sync fd)
  truncate fd len := pass (ObjectStore.truncate fd len)
  statPath path := pass (ObjectStore.statPath path)
  truncatePath path len := pass (ObjectStore.truncatePath path len)
  unlinkPath path := pass (ObjectStore.unlinkPath path)

/-! ## Reads of a kept object -/

variable {fd : Fd} {K : Keeper σ fd} {s s' : Scratched σ} {b : Bytes}
  {out : Option (Ticket × Errand)} {offset len : Nat}

/-- A call leaves the object, and what it moves is a piece of it. -/
theorem readCall_kept {outcome : Attempt Bytes} (hk : K.Keeps s.inner b out)
    (h : readCall fd offset len s = (outcome, s')) :
    K.Keeps s'.inner b out ∧
      ∀ bytes, outcome = .moved bytes → bytes.length ≤ len ∧ Bytes.HasAt b offset bytes := by
  unfold readCall at h
  split at h
  · cases h
    exact ⟨hk, nofun⟩
  · split at h
    · rename_i bytes inner hr
      obtain ⟨hk', hlen, hat⟩ := K.read_ok hk hr
      cases h
      refine ⟨hk', ?_⟩
      intro bytes' hmoved
      cases hmoved
      exact ⟨Nat.le_trans hlen (Nat.min_le_left ..), hat⟩
    · rename_i torn inner hr
      cases h
      exact ⟨K.read_error hk hr, nofun⟩

/-- So it is with any number of calls behind what they brought before. -/
theorem readFrom_kept {calls : Nat} {done : Bytes} {r : Option (Except FullTransfer.Broken Bytes)}
    (hk : K.Keeps s.inner b out) (hat : Bytes.HasAt b offset done) (hlen : done.length ≤ len)
    (h : FullTransfer.readFrom (readCall fd) calls offset len done s = (r, s')) :
    K.Keeps s'.inner b out ∧
      ∀ bytes, r = some (.ok bytes) → bytes.length ≤ len ∧ Bytes.HasAt b offset bytes := by
  fun_induction FullTransfer.readFrom (readCall fd) calls offset len done s with
  | case1 calls done s hfull =>
    cases h
    refine ⟨hk, ?_⟩
    intro bytes hbytes
    cases hbytes
    exact ⟨hlen, hat⟩
  | case2 done s hless =>
    cases h
    exact ⟨hk, nofun⟩
  | case3 done s hless calls s1 hcall =>
    cases h
    refine ⟨(readCall_kept hk hcall).1, ?_⟩
    intro bytes hbytes
    cases hbytes
    exact ⟨hlen, hat⟩
  | case4 done s hless calls piece s1 _ hcall ih =>
    obtain ⟨hk1, hpiece⟩ := readCall_kept hk hcall
    obtain ⟨hpiecelen, hpieceat⟩ := hpiece _ rfl
    have hlonger : (done ++ piece).length ≤ len := by
      rw [List.length_append]
      omega
    exact ih hk1 (hat.append hpieceat) hlonger h
  | case5 done s hless calls s1 hcall ih => exact ih (readCall_kept hk hcall).1 hat hlen h
  | case6 done s hless calls why s1 hcall =>
    cases h
    exact ⟨(readCall_kept hk hcall).1, nofun⟩

theorem readAt_kept {r : Except Torn Bytes} (hk : K.Keeps s.inner b out)
    (h : s.readAt fd offset len = (r, s')) :
    K.Keeps s'.inner b out ∧
      ∀ bytes, r = .ok bytes → bytes.length ≤ len ∧ Bytes.HasAt b offset bytes := by
  unfold readAt at h
  rcases hr : FullTransfer.read (readCall fd) (len + 1) offset len s with ⟨answer, s1⟩
  obtain ⟨hk', hok⟩ := readFrom_kept hk (Bytes.hasAt_nil ..) (Nat.zero_le _) hr
  rw [hr] at h
  rcases answer with _ | ⟨broken | bytes⟩
  · cases h
    exact ⟨hk', nofun⟩
  · cases h
    exact ⟨hk', nofun⟩
  · cases h
    refine ⟨hk', ?_⟩
    intro bytes' hbytes
    cases hbytes
    exact hok _ rfl

/-- A read that was handed in is taken in by the store behind. -/
theorem submitRead_eq {r : Except Failure Ticket} (h : s.submitRead fd offset len = (r, s')) :
    ObjectStore.submitRead fd offset len s.inner = (r, s'.inner) := by
  unfold submitRead at h
  split at h
  · rename_i hs
    cases h
    exact hs
  · rename_i hs
    cases h
    exact hs

/-- Its completion is the one of the store behind, or it is spoiled. -/
theorem await_cases {ticket : Ticket} {c : Option Completion} (h : s.await ticket = (c, s')) :
    ∃ c0, ObjectStore.await ticket s.inner = (c0, s'.inner) ∧ (c = c0 ∨ c = c0.map spoiled) := by
  unfold await at h
  rcases hw : ObjectStore.await ticket s.inner with ⟨c0, inner⟩
  rw [hw] at h
  obtain ⟨rfl, rfl⟩ := Prod.mk.inj h
  refine ⟨c0, rfl, ?_⟩
  split
  · exact .inr rfl
  · exact .inl rfl

end Scratched

/-! ## The object behind -/

variable {σ : Type} [ObjectStore σ] {fd : Fd}

/-- What a keeper keeps it keeps behind a bad spot, too. -/
def Keeper.scratched (K : Keeper σ fd) : Keeper (Scratched σ) fd where
  Keeps s := K.Keeps s.inner
  read_ok h hc := by
    obtain ⟨hk, hok⟩ := Scratched.readAt_kept h hc
    exact ⟨hk, hok _ rfl⟩
  read_error h hc := (Scratched.readAt_kept h hc).1
  write_ok h hc := K.write_ok h (Scratched.pass_eq hc)
  write_error h hc := K.write_error h (Scratched.pass_eq hc)
  submitRead_ok h hc := K.submitRead_ok h (Scratched.submitRead_eq hc)
  submitRead_error h hc := K.submitRead_error h (Scratched.submitRead_eq hc)
  submitWrite_ok h hc := K.submitWrite_ok h (Scratched.pass_eq hc)
  submitWrite_error h hc := K.submitWrite_error h (Scratched.pass_eq hc)
  await_read h hc := by
    obtain ⟨c0, hw, hc⟩ := Scratched.await_cases hc
    obtain ⟨hk, hread⟩ := K.await_read h hw
    refine ⟨hk, ?_⟩
    rcases hc with rfl | rfl
    · exact hread
    · rcases hread with ⟨f, rfl⟩ | ⟨bytes, rfl, -⟩
      · exact .inl ⟨_, rfl⟩
      · exact .inl ⟨_, rfl⟩
  await_write h hc := by
    obtain ⟨c0, hw, hc⟩ := Scratched.await_cases hc
    -- a write is never spoiled
    rcases K.await_write h hw with ⟨f, b', rfl, hfront, hk⟩ | ⟨n, rfl, hn, hk⟩
    · exact .inl ⟨f, b', hc.elim id id, hfront, hk⟩
    · exact .inr ⟨n, hc.elim id id, hn, hk⟩
  stat h hc := K.stat h (Scratched.pass_eq hc)
  sync h hc := K.sync h (Scratched.pass_eq hc)
  truncate_ok h hc := K.truncate_ok h (Scratched.pass_eq hc)
  truncate_error h hc := K.truncate_error h (Scratched.pass_eq hc)

/-- A bad spot adds nothing to the failures that have to do with requests. -/
theorem Keeper.Unaware.scratched {K : Keeper σ fd} (hK : K.Unaware) : K.scratched.Unaware where
  writeAt h hc := hK.writeAt h (Scratched.pass_eq hc)
  submitRead h hc := hK.submitRead h (Scratched.submitRead_eq hc)
  submitWrite h hc := hK.submitWrite h (Scratched.pass_eq hc)
  await_write h hc := by
    obtain ⟨c0, hw, hc⟩ := Scratched.await_cases hc
    rcases K.await_write h hw with ⟨f, b', rfl, -, -⟩ | ⟨n, rfl, -, -⟩
    · obtain rfl : f = _ := by simpa [Scratched.spoiled] using hc.elim Eq.symm Eq.symm
      exact hK.await_write h hw
    · rcases hc with hc | hc <;> cases hc

namespace Scratched

/-- Eight bytes, the last two of which cannot be read any more. -/
def disk : Scratched (Throttled MemoryStore) :=
  { inner := { inner := MemoryStore.single .deferred .readWrite [1, 2, 3, 4, 5, 6, 7, 8] }
    spot := 6 }

theorem disk_kept :
    (MemoryStore.keeper .first 0 .readWrite).scratched.Keeps disk [1, 2, 3, 4, 5, 6, 7, 8] none :=
  MemoryStore.single_kept .deferred .readWrite [1, 2, 3, 4, 5, 6, 7, 8] {}

/-- A read across the spot moves what stands in front of it, and fails. -/
theorem disk_tears :
    ¬ (MemoryStore.keeper .first 0 .readWrite).scratched.LandsNothing := by
  intro hnothing
  have hread : ObjectStore.readAt .first 4 4 disk =
      (.error ⟨[5, 6], .system unreadable⟩, (ObjectStore.readAt .first 4 4 disk).2) :=
    Prod.ext (by decide +kernel) rfl
  exact absurd (hnothing disk_kept hread) (by decide)

end Scratched

end StagedFiles
