-- The tables of a store in memory: its names and its handles. The uses of open
-- descriptors leave both, an open that comes out well puts one handle under the
-- next number, and a close takes the handle away whatever it answers.
import StagedFiles.Proofs.KeptObject
import StagedFiles.Proofs.StoreCalls

namespace StagedFiles

/-! ## Keys of a table -/

namespace Table

variable {κ α : Type} [DecidableEq κ]

theorem keys_erase (t : Table κ α) (k : κ) : (t.erase k).keys = t.keys.filter (· ≠ k) := by
  unfold keys erase
  rw [List.filter_map]
  rfl

theorem keys_insert (t : Table κ α) (k : κ) (v : α) :
    (t.insert k v).keys = k :: t.keys.filter (· ≠ k) := by
  rw [← keys_erase]
  rfl

end Table

/-! ## What the store has open -/

namespace MemoryStore

variable {st st' : MemoryStore}

/-- The same names and handles stand in both stores. -/
structure SameTables (st st' : MemoryStore) : Prop where
  names : st'.names = st.names
  handles : st'.handles = st.handles
  nextObject : st'.nextObject = st.nextObject
  nextFd : st'.nextFd = st.nextFd
  delivery : st'.delivery = st.delivery

theorem SameTables.refl (st : MemoryStore) : st.SameTables st := ⟨rfl, rfl, rfl, rfl, rfl⟩

theorem SameTables.trans {st'' : MemoryStore} (h : st.SameTables st') (h' : st'.SameTables st'') :
    st.SameTables st'' :=
  ⟨h'.names.trans h.names, h'.handles.trans h.handles, h'.nextObject.trans h.nextObject,
    h'.nextFd.trans h.nextFd, h'.delivery.trans h.delivery⟩

theorem readAt_tables (st : MemoryStore) (fd : Fd) (offset len : Nat) :
    st.SameTables (st.readAt fd offset len).2 := by
  unfold readAt
  rcases performRead_cases (st.count fun c => { c with preads := c.preads + 1 }) fd offset len
    with ⟨f, faults, hr⟩ | ⟨h, _, hr⟩
  · dsimp only
    rw [hr]
    exact ⟨rfl, rfl, rfl, rfl, rfl⟩
  · dsimp only
    rw [hr]
    exact ⟨rfl, rfl, rfl, rfl, rfl⟩

theorem writeAt_tables (st : MemoryStore) (fd : Fd) (offset : Nat) (data : Bytes) :
    st.SameTables (st.writeAt fd offset data).2 := by
  unfold writeAt
  rcases performWrite_cases (st.count fun c => { c with pwrites := c.pwrites + 1 }) fd offset data
    false with ⟨f, faults, hw⟩ | ⟨h, _, hw⟩
  · dsimp only
    rw [hw]
    exact ⟨rfl, rfl, rfl, rfl, rfl⟩
  · dsimp only
    rw [hw]
    exact ⟨rfl, rfl, rfl, rfl, rfl⟩

theorem checkSubmit_tables (st : MemoryStore) (fd : Fd) :
    st.SameTables (st.checkSubmit fd).2 := by
  unfold checkSubmit
  split
  · exact ⟨rfl, rfl, rfl, rfl, rfl⟩
  · exact .refl st

theorem submitRead_tables (st : MemoryStore) (fd : Fd) (offset len : Nat) :
    st.SameTables (st.submitRead fd offset len).2 := by
  have hcheck := checkSubmit_tables st fd
  unfold submitRead
  split
  · rename_i h
    rw [h] at hcheck
    exact hcheck
  · rename_i h
    rw [h] at hcheck
    exact hcheck.trans ⟨rfl, rfl, rfl, rfl, rfl⟩

theorem submitWrite_tables (st : MemoryStore) (fd : Fd) (offset : Nat) (data : Bytes) :
    st.SameTables (st.submitWrite fd offset data).2 := by
  have hcheck := checkSubmit_tables st fd
  unfold submitWrite
  split
  · rename_i h
    rw [h] at hcheck
    exact hcheck
  · rename_i h
    rw [h] at hcheck
    exact hcheck.trans ⟨rfl, rfl, rfl, rfl, rfl⟩

theorem await_tables (st : MemoryStore) (ticket : Ticket) :
    st.SameTables (st.await ticket).2 := by
  unfold MemoryStore.await
  split
  · unfold runOne
    split
    · exact .refl st
    · rename_i job _
      obtain ⟨faults, objects, written, hran⟩ :=
        perform_frame { st with parked := st.parked.filter (·.1 ≠ ticket) } job
      dsimp only
      rw [hran]
      exact ⟨rfl, rfl, rfl, rfl, rfl⟩
  · obtain ⟨faults, objects, written, more, hran, _⟩ :=
      performAll_ran st.parked { st with parked := [] }
    have hrun : st.runParked.2 = performAll keep st.parked { st with parked := [] } := rfl
    dsimp only
    rw [hrun, hran]
    exact ⟨rfl, rfl, rfl, rfl, rfl⟩

theorem truncate_tables (st : MemoryStore) (fd : Fd) (len : Nat) :
    st.SameTables (st.truncate fd len).2 := by
  unfold truncate
  dsimp only
  split
  · exact ⟨rfl, rfl, rfl, rfl, rfl⟩
  · split
    · exact ⟨rfl, rfl, rfl, rfl, rfl⟩
    · exact ⟨rfl, rfl, rfl, rfl, rfl⟩

theorem stat_tables (st : MemoryStore) (fd : Fd) : st.SameTables (st.stat fd).2 := by
  unfold stat
  split
  · exact .refl st
  · exact .refl st

/-- The uses of open descriptors open and close nothing. -/
theorem uses_tables (call : StoreCall) (huses : call.Uses) (st : MemoryStore) :
    st.SameTables (call.on st) := by
  cases call with
  | readAt fd offset len => exact readAt_tables st fd offset len
  | writeAt fd offset data => exact writeAt_tables st fd offset data
  | submitRead fd offset len => exact submitRead_tables st fd offset len
  | submitWrite fd offset data => exact submitWrite_tables st fd offset data
  | await ticket => exact await_tables st ticket
  | stat fd => exact stat_tables st fd
  | sync fd => exact ⟨rfl, rfl, rfl, rfl, rfl⟩
  | truncate fd len => exact truncate_tables st fd len
  | openPath path access => exact huses.elim
  | close fd => exact huses.elim
  | statPath path => exact huses.elim
  | truncatePath path len => exact huses.elim
  | unlinkPath path => exact huses.elim

/-- What an open does to the handles: nothing when it fails, and otherwise there
is one more under the next number. -/
inductive Opened (st : MemoryStore) : Except Failure Fd × MemoryStore → Prop where
  | failed {e : Failure} {st' : MemoryStore} : st'.handles = st.handles →
      st'.nextFd = st.nextFd → Opened st (.error e, st')
  | granted {h : Handle} {st' : MemoryStore} : st'.handles = st.handles.insert st.nextFd h →
      st'.nextFd = st.nextFd.next → Opened st (.ok st.nextFd, st')

theorem find_handles (st : MemoryStore) (path : String) (access : Access) :
    (st.find path access).2.handles = st.handles ∧ (st.find path access).2.nextFd = st.nextFd := by
  unfold find
  split
  · split
    · exact ⟨rfl, rfl⟩
    · exact ⟨rfl, rfl⟩
  · split
    · exact ⟨rfl, rfl⟩
    · exact ⟨rfl, rfl⟩

theorem openPath_opened (st : MemoryStore) (path : String) (access : Access) :
    st.Opened (st.openPath path access) := by
  unfold MemoryStore.openPath
  dsimp only
  split
  · exact .failed rfl rfl
  · have hfind := find_handles (st.count fun c => { c with opens := c.opens + 1 }) path access
    split
    · rename_i st1 h
      rw [h] at hfind
      exact .failed hfind.1 hfind.2
    · rename_i o st1 h
      rw [h] at hfind
      obtain ⟨hhandles, hnext⟩ := hfind
      have hgiven : (st1.grant o access).1 = st.nextFd := hnext
      have hinsert : (st1.grant o access).2.handles = st.handles.insert st.nextFd ⟨o, access⟩ := by
        show st1.handles.insert st1.nextFd ⟨o, access⟩ = _
        rw [hhandles, hnext]
        rfl
      rw [hgiven]
      exact .granted hinsert (congrArg Fd.next hnext)

theorem close_handles (st : MemoryStore) (fd : Fd) :
    (st.close fd).2.handles = st.handles.erase fd ∧ (st.close fd).2.nextFd = st.nextFd := by
  unfold MemoryStore.close
  dsimp only
  split
  · exact ⟨rfl, rfl⟩
  · exact ⟨rfl, rfl⟩

end MemoryStore

end StagedFiles
