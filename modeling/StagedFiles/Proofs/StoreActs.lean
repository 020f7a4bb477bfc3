-- What can be done with the store in memory from outside, with the answers it
-- gives. `StoreAct.effect` says once all that an act can come to, up to the counts
-- of calls and the faults, and `MemoryStore.perform_outcome` all that a transfer
-- can come to when it runs.
import StagedFiles.Proofs.KeptObject

namespace StagedFiles

/-! ## Acts and answers -/

/-- What is done with a store in memory from outside. Waiting for a transfer is
none of it: it makes parked transfers run. -/
inductive StoreAct where
  | insert (path : String) (data : Bytes)
  | fail (point : FaultPoint) (n : Nat) (errno : Int)
  | openPath (path : String) (access : Access)
  | close (fd : Fd)
  | readAt (fd : Fd) (offset len : Nat)
  | writeAt (fd : Fd) (offset : Nat) (data : Bytes)
  | submitRead (fd : Fd) (offset len : Nat)
  | submitWrite (fd : Fd) (offset : Nat) (data : Bytes)
  | stat (fd : Fd)
  | sync (fd : Fd)
  | truncate (fd : Fd) (len : Nat)
  | statPath (path : String)
  | truncatePath (path : String) (len : Nat)
  | unlinkPath (path : String)
  deriving DecidableEq, Repr

/-- What a store in memory answers. -/
inductive StoreAnswer where
  | nothing
  | opened (r : Except Failure Fd)
  | done (r : Except Failure Unit)
  | bytes (r : Except Torn Bytes)
  | count (r : Except Failure Nat)
  | ticket (r : Except Failure Ticket)

/-- The answer is an error. -/
def StoreAnswer.Failed : StoreAnswer → Prop
  | .nothing | .opened (.ok _) | .done (.ok _) | .bytes (.ok _) | .count (.ok _)
  | .ticket (.ok _) => False
  | .opened (.error _) | .done (.error _) | .bytes (.error _) | .count (.error _)
  | .ticket (.error _) => True

/-- A transfer came to an error. -/
def Completion.Failed : Completion → Prop
  | .bytes (.ok _) | .count (.ok _) => False
  | .bytes (.error _) | .count (.error _) => True

/-- The descriptor that a transfer goes through. -/
def Job.fd : Job → Fd
  | .read fd _ _ => fd
  | .write fd _ _ => fd

/-- The transfer that an act hands in. -/
def StoreAct.job? : StoreAct → Option Job
  | .submitRead fd offset len => some (.read fd offset len)
  | .submitWrite fd offset data => some (.write fd offset data)
  | .insert .. | .fail .. | .openPath .. | .close _ | .readAt .. | .writeAt .. | .stat _ | .sync _
  | .truncate .. | .statPath _ | .truncatePath .. | .unlinkPath _ => none

/-- The answer to an act, and the store after it. -/
def StoreAct.on (act : StoreAct) (st : MemoryStore) : StoreAnswer × MemoryStore :=
  match act with
  | .insert path data => (.nothing, st.insert path data)
  | .fail point n errno => (.nothing, st.failNext point n errno)
  | .openPath path access => (st.openPath path access).map .opened id
  | .close fd => (st.close fd).map .done id
  | .readAt fd offset len => (st.readAt fd offset len).map .bytes id
  | .writeAt fd offset data => (st.writeAt fd offset data).map .count id
  | .submitRead fd offset len => (st.submitRead fd offset len).map .ticket id
  | .submitWrite fd offset data => (st.submitWrite fd offset data).map .ticket id
  | .stat fd => (st.stat fd).map .count id
  | .sync fd => (st.sync fd).map .done id
  | .truncate fd len => (st.truncate fd len).map .done id
  | .statPath path => (st.statPath path).map .count id
  | .truncatePath path len => (st.truncatePath path len).map .done id
  | .unlinkPath path => (st.unlinkPath path).map .done id

/-! ## What acts come to -/

namespace MemoryStore

/-- The store with other counts of calls and other faults. -/
def charged (st : MemoryStore) (counts : CallCounts) (faults : Faults) : MemoryStore :=
  { st with counts := counts, faults := faults }

/-- The store that an open finds under a name: an object that is to be written from
its start is emptied. -/
def emptied (st : MemoryStore) (o : ObjectId) (access : Access) : MemoryStore :=
  if access.truncate ∧ access.write then st.setContent o {} else st

end MemoryStore

open MemoryStore in
/-- All that an act can come to, up to counts and faults. -/
inductive StoreAct.Effect (st : MemoryStore) : StoreAct → StoreAnswer → MemoryStore → Prop where
  | inserted {path : String} {data : Bytes} :
      Effect st (.insert path data) .nothing (st.insert path data)
  | armed {point : FaultPoint} {n : Nat} {errno : Int} : Effect st (.fail point n errno) .nothing st
  | failed {act : StoreAct} {answer : StoreAnswer} : answer.Failed → (∀ fd, act ≠ .close fd) →
      Effect st act answer st
  | opened {path : String} {access : Access} {o : ObjectId} : st.names.find? path = some o →
      Effect st (.openPath path access) (.opened (.ok st.nextFd))
        ((st.emptied o access).grant o access).2
  | created {path : String} {access : Access} : st.names.find? path = none →
      Effect st (.openPath path access) (.opened (.ok st.nextFd))
        ((st.insert path []).grant st.nextObject access).2
  /-- A close that fails gives the descriptor up, too. -/
  | closed {fd : Fd} {r : Except Failure Unit} :
      Effect st (.close fd) (.done r) { st with handles := st.handles.erase fd }
  | read {fd : Fd} {offset len : Nat} {h : Handle} : st.handles.find? fd = some h →
      Effect st (.readAt fd offset len) (.bytes (.ok ((st.content h.object).slice offset len))) st
  | wrote {fd : Fd} {offset : Nat} {data : Bytes} {h : Handle} : st.handles.find? fd = some h →
      Effect st (.writeAt fd offset data) (.count (.ok data.length))
        (st.afterWrite h.object ⟨fd, offset, data.length, false⟩ data)
  | accepted {act : StoreAct} {job : Job} {h : Handle} : act.job? = some job →
      st.handles.find? job.fd = some h →
      Effect st act (.ticket (.ok st.nextTicket)) (st.park job).2
  | statted {fd : Fd} {h : Handle} : st.handles.find? fd = some h →
      Effect st (.stat fd) (.count (.ok (st.content h.object).size)) st
  | synced {fd : Fd} : Effect st (.sync fd) (.done (.ok ())) st
  | sized {fd : Fd} {len : Nat} {h : Handle} : st.handles.find? fd = some h →
      Effect st (.truncate fd len) (.done (.ok ()))
        (st.setContent h.object ((st.content h.object).resize len))
  | stattedPath {path : String} {o : ObjectId} : st.names.find? path = some o →
      Effect st (.statPath path) (.count (.ok (st.content o).size)) st
  | sizedPath {path : String} {len : Nat} {o : ObjectId} : st.names.find? path = some o →
      Effect st (.truncatePath path len) (.done (.ok ()))
        (st.setContent o ((st.content o).resize len))
  | unlinked {path : String} :
      Effect st (.unlinkPath path) (.done (.ok ())) { st with names := st.names.erase path }

namespace MemoryStore

variable (st : MemoryStore)

/-- What an act came to, with whatever it did to counts and faults. -/
def Comes (act : StoreAct) (out : StoreAnswer × MemoryStore) : Prop :=
  ∃ st' counts faults, act.Effect st out.1 st' ∧ out.2 = st'.charged counts faults

theorem openPath_comes (path : String) (access : Access) :
    st.Comes (.openPath path access) ((st.openPath path access).map .opened id) := by
  unfold MemoryStore.openPath
  dsimp only
  split
  · exact ⟨st, _, _, .failed trivial (by simp), rfl⟩
  · rcases hname : st.names.find? path with _ | o
    · have hname' : (st.count fun c => { c with opens := c.opens + 1 }).names.find? path = none :=
        hname
      unfold MemoryStore.find
      rw [hname']
      by_cases hcreate : access.create
      · simp only [hcreate, if_true]
        exact ⟨_, _, _, .created hname, rfl⟩
      · simp only [hcreate, Bool.false_eq_true, if_false]
        exact ⟨st, _, _, .failed trivial (by simp), rfl⟩
    · have hname' : (st.count fun c => { c with opens := c.opens + 1 }).names.find? path = some o :=
        hname
      unfold MemoryStore.find
      rw [hname']
      have hopened : StoreAct.Effect st (.openPath path access) (.opened (.ok st.nextFd))
          ((st.emptied o access).grant o access).2 := .opened hname
      unfold emptied at hopened
      by_cases hempty : access.truncate ∧ access.write
      · simp only [hempty, and_self, if_true] at hopened ⊢
        exact ⟨_, _, _, hopened, rfl⟩
      · simp only [hempty, if_false] at hopened ⊢
        exact ⟨_, _, _, hopened, rfl⟩

theorem close_comes (fd : Fd) : st.Comes (.close fd) ((st.close fd).map .done id) := by
  unfold MemoryStore.close
  dsimp only
  split
  · exact ⟨_, _, _, .closed, rfl⟩
  · exact ⟨_, _, _, .closed, rfl⟩

theorem readAt_comes (fd : Fd) (offset len : Nat) :
    st.Comes (.readAt fd offset len) ((st.readAt fd offset len).map .bytes id) := by
  unfold MemoryStore.readAt
  rcases performRead_cases (st.count fun c => { c with preads := c.preads + 1 }) fd offset len
    with ⟨f, faults, hr⟩ | ⟨h, hh, hr⟩
  · dsimp only
    rw [hr]
    exact ⟨st, _, _, .failed trivial (by simp), rfl⟩
  · dsimp only
    rw [hr]
    exact ⟨st, _, _, .read hh, rfl⟩

theorem writeAt_comes (fd : Fd) (offset : Nat) (data : Bytes) :
    st.Comes (.writeAt fd offset data) ((st.writeAt fd offset data).map .count id) := by
  unfold MemoryStore.writeAt
  rcases performWrite_cases (st.count fun c => { c with pwrites := c.pwrites + 1 }) fd offset data
    false with ⟨f, faults, hw⟩ | ⟨h, hh, hw⟩
  · dsimp only
    rw [hw]
    exact ⟨st, _, _, .failed trivial (by simp), rfl⟩
  · dsimp only
    rw [hw]
    exact ⟨_, _, _, .wrote hh, rfl⟩

/-- A hand-in that is not refused leaves the store and has its descriptor open. -/
theorem checkSubmit_open_cases (fd : Fd) :
    (∃ f faults, st.checkSubmit fd = (.error f, { st with faults := faults })) ∨
      ∃ h, st.handles.find? fd = some h ∧ st.checkSubmit fd = (.ok (), st) := by
  unfold checkSubmit
  split
  · exact Or.inl ⟨_, _, rfl⟩
  · split
    · rename_i hopen
      obtain ⟨h, hh⟩ := Option.isSome_iff_exists.mp hopen
      exact Or.inr ⟨h, hh, rfl⟩
    · exact Or.inl ⟨_, st.faults, rfl⟩

theorem submitRead_comes (fd : Fd) (offset len : Nat) :
    st.Comes (.submitRead fd offset len) ((st.submitRead fd offset len).map .ticket id) := by
  unfold MemoryStore.submitRead
  rcases st.checkSubmit_open_cases fd with ⟨f, faults, hc⟩ | ⟨h, hh, hc⟩
  · rw [hc]
    exact ⟨st, _, _, .failed trivial (by simp), rfl⟩
  · rw [hc]
    exact ⟨_, _, _, .accepted rfl hh, rfl⟩

theorem submitWrite_comes (fd : Fd) (offset : Nat) (data : Bytes) :
    st.Comes (.submitWrite fd offset data) ((st.submitWrite fd offset data).map .ticket id) := by
  unfold MemoryStore.submitWrite
  rcases st.checkSubmit_open_cases fd with ⟨f, faults, hc⟩ | ⟨h, hh, hc⟩
  · rw [hc]
    exact ⟨st, _, _, .failed trivial (by simp), rfl⟩
  · rw [hc]
    exact ⟨_, _, _, .accepted rfl hh, rfl⟩

theorem stat_comes (fd : Fd) : st.Comes (.stat fd) ((st.stat fd).map .count id) := by
  unfold MemoryStore.stat
  split
  · exact ⟨st, _, _, .failed trivial (by simp), rfl⟩
  · rename_i h hh
    exact ⟨st, _, _, .statted hh, rfl⟩

theorem sync_comes (fd : Fd) : st.Comes (.sync fd) ((st.sync fd).map .done id) := by
  unfold MemoryStore.sync
  dsimp only
  split
  · exact ⟨st, _, _, .synced, rfl⟩
  · exact ⟨st, _, _, .failed trivial (by simp), rfl⟩

theorem truncate_comes (fd : Fd) (len : Nat) :
    st.Comes (.truncate fd len) ((st.truncate fd len).map .done id) := by
  unfold MemoryStore.truncate
  dsimp only
  split
  · exact ⟨st, _, _, .failed trivial (by simp), rfl⟩
  · rename_i h hh
    split
    · exact ⟨_, _, _, .sized hh, rfl⟩
    · exact ⟨st, _, _, .failed trivial (by simp), rfl⟩

theorem statPath_comes (path : String) :
    st.Comes (.statPath path) ((st.statPath path).map .count id) := by
  unfold MemoryStore.statPath
  split
  · exact ⟨st, _, _, .failed trivial (by simp), rfl⟩
  · rename_i o ho
    exact ⟨st, _, _, .stattedPath ho, rfl⟩

theorem truncatePath_comes (path : String) (len : Nat) :
    st.Comes (.truncatePath path len) ((st.truncatePath path len).map .done id) := by
  unfold MemoryStore.truncatePath
  dsimp only
  split
  · exact ⟨st, _, _, .failed trivial (by simp), rfl⟩
  · rename_i o ho
    exact ⟨_, _, _, .sizedPath ho, rfl⟩

theorem unlinkPath_comes (path : String) :
    st.Comes (.unlinkPath path) ((st.unlinkPath path).map .done id) := by
  unfold MemoryStore.unlinkPath
  split
  · exact ⟨_, _, _, .unlinked, rfl⟩
  · exact ⟨st, _, _, .failed trivial (by simp), rfl⟩

end MemoryStore

/-- Every act has one of the effects. -/
theorem StoreAct.effect (act : StoreAct) (st : MemoryStore) : st.Comes act (act.on st) := by
  cases act with
  | insert path data => exact ⟨_, _, _, .inserted, rfl⟩
  | fail point n errno => exact ⟨st, _, _, .armed, rfl⟩
  | openPath path access => exact st.openPath_comes path access
  | close fd => exact st.close_comes fd
  | readAt fd offset len => exact st.readAt_comes fd offset len
  | writeAt fd offset data => exact st.writeAt_comes fd offset data
  | submitRead fd offset len => exact st.submitRead_comes fd offset len
  | submitWrite fd offset data => exact st.submitWrite_comes fd offset data
  | stat fd => exact st.stat_comes fd
  | sync fd => exact st.sync_comes fd
  | truncate fd len => exact st.truncate_comes fd len
  | statPath path => exact st.statPath_comes path
  | truncatePath path len => exact st.truncatePath_comes path len
  | unlinkPath path => exact st.unlinkPath_comes path

/-! ## What transfers come to -/

namespace MemoryStore

/-- All that a transfer can come to when it runs. -/
inductive Outcome (st : MemoryStore) : Job → Completion × MemoryStore → Prop where
  /-- It was told to fail. -/
  | readFault {fd : Fd} {offset len : Nat} {errno : Int} {fault : Fault} :
      st.faults.reads.take = (some errno, fault) →
      Outcome st (.read fd offset len)
        (.bytes (.error (.refused .reading errno)),
          { st with faults := st.faults.arm .reads fault })
  | writeFault {fd : Fd} {offset : Nat} {data : Bytes} {errno : Int} {fault : Fault} :
      st.faults.writes.take = (some errno, fault) →
      Outcome st (.write fd offset data)
        (.count (.error (.refused .writing errno)),
          { st with faults := st.faults.arm .writes fault })
  /-- Its descriptor is not open, or not for this. -/
  | unread {fd : Fd} {offset len : Nat} :
      (∀ h, st.handles.find? fd = some h → h.access.read = false) →
      Outcome st (.read fd offset len) (.bytes (.error (.badDescriptor .reading)), st)
  | unwritten {fd : Fd} {offset : Nat} {data : Bytes} :
      (∀ h, st.handles.find? fd = some h → h.access.write = false) →
      Outcome st (.write fd offset data) (.count (.error (.badDescriptor .writing)), st)
  | read {fd : Fd} {offset len : Nat} {h : Handle} : st.handles.find? fd = some h →
      Outcome st (.read fd offset len) (.bytes (.ok ((st.content h.object).slice offset len)), st)
  | wrote {fd : Fd} {offset : Nat} {data : Bytes} {h : Handle} : st.handles.find? fd = some h →
      Outcome st (.write fd offset data)
        (.count (.ok data.length), st.afterWrite h.object ⟨fd, offset, data.length, true⟩ data)

theorem perform_outcome (st : MemoryStore) (job : Job) : st.Outcome job (st.perform job) := by
  cases job with
  | read fd offset len =>
    unfold perform performRead
    dsimp only
    split
    · rename_i errno fault htake
      exact .readFault htake
    · split
      · rename_i hnone
        exact .unread (by simp [hnone])
      · rename_i h hh
        split
        · exact .read hh
        · rename_i hread
          exact .unread (by simpa [hh] using hread)
  | write fd offset data =>
    unfold perform performWrite
    dsimp only
    split
    · rename_i errno fault htake
      exact .writeFault htake
    · split
      · rename_i hnone
        exact .unwritten (by simp [hnone])
      · rename_i h hh
        split
        · exact .wrote hh
        · rename_i hwrite
          exact .unwritten (by simpa [hh] using hwrite)

end MemoryStore

end StagedFiles
