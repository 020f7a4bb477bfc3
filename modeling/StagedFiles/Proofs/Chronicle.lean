-- A chronicle of the store in memory. It is kept from what is done and answered
-- alone: what every object has been through, which object each name leads to, what
-- each descriptor was opened on, and the writes that went through. Whatever is done,
-- what the store holds is what its chronicle tells.
import Mathlib.Logic.Function.Basic
import StagedFiles.Proofs.ObjectPasts
import StagedFiles.Proofs.StoreActs

namespace StagedFiles

/-! ## Keeping a chronicle -/

/-- What came of a store so far. -/
structure Chronicle where
  /-- What was done to each object. -/
  past : ObjectId → Past := fun _ => []
  /-- The object under each name. -/
  named : String → Option ObjectId := fun _ => none
  /-- What each descriptor that is open was opened on. -/
  denotes : Fd → Option Handle := fun _ => none
  /-- How many objects there have been. -/
  births : ObjectId := 0
  /-- The writes that went through, oldest first. -/
  log : List WriteRecord := []

namespace Chronicle

/-- One more object, under a name. -/
def born (c : Chronicle) (path : String) (past : Past) : Chronicle :=
  { c with
    past := Function.update c.past c.births past
    named := Function.update c.named path (some c.births)
    births := c.births + 1 }

/-- One more change of an object. -/
def changed (c : Chronicle) (o : ObjectId) (change : Change) : Chronicle :=
  { c with past := Function.update c.past o (change :: c.past o) }

/-- A change that is made through a descriptor. -/
def changedBy (c : Chronicle) (fd : Fd) (change : Change) : Chronicle :=
  match c.denotes fd with
  | some h => c.changed h.object change
  | none => c

/-- A change that is made under a name. -/
def changedAt (c : Chronicle) (path : String) (change : Change) : Chronicle :=
  match c.named path with
  | some o => c.changed o change
  | none => c

/-- A write that went through. -/
def wrote (c : Chronicle) (fd : Fd) (offset : Nat) (data : Bytes) (aio : Bool) : Chronicle :=
  { c.changedBy fd (.laid offset data) with log := c.log ++ [⟨fd, offset, data.length, aio⟩] }

/-- The object that an open finds: one that is to be written from its start ends
at 0, and a name without an object gets one. -/
def found (c : Chronicle) (path : String) (access : Access) : Chronicle :=
  match c.named path with
  | some o => if access.truncate ∧ access.write then c.changed o (.sized 0) else c
  | none => c.born path []

/-- A descriptor denotes the object that the path names when it is opened. -/
def opened (c : Chronicle) (path : String) (access : Access) (fd : Fd) : Chronicle :=
  { c with denotes := Function.update c.denotes fd ((c.named path).map fun o => ⟨o, access⟩) }

/-- The chronicle after an act that was answered. Of what failed it notes that a
descriptor was given up, and nothing else. -/
def note (c : Chronicle) : StoreAct → StoreAnswer → Chronicle
  | .insert path data, .nothing => c.born path [.laid 0 data]
  | .openPath path access, .opened (.ok fd) => (c.found path access).opened path access fd
  | .close fd, _ => { c with denotes := Function.update c.denotes fd none }
  | .writeAt fd offset data, .count (.ok _) => c.wrote fd offset data false
  | .truncate fd len, .done (.ok _) => c.changedBy fd (.sized len)
  | .truncatePath path len, .done (.ok _) => c.changedAt path (.sized len)
  | .unlinkPath path, .done (.ok _) => { c with named := Function.update c.named path none }
  | _, _ => c

/-- The chronicle after a transfer that ran. -/
def ran (c : Chronicle) : Job → Completion → Chronicle
  | .write fd offset data, .count (.ok _) => c.wrote fd offset data true
  | _, _ => c

/-! ## What a chronicle tells -/

/-- The store is as the chronicle has it. Objects and descriptors have numbers below
the next ones. -/
structure Tells (c : Chronicle) (st : MemoryStore) : Prop where
  names : ∀ path, st.names.find? path = c.named path
  handles : ∀ fd, st.handles.find? fd = c.denotes fd
  shows : ∀ o, (c.past o).Shows (st.content o).toBytes
  log : st.log = c.log
  births : st.nextObject = c.births
  older_names : ∀ path o, c.named path = some o → o < c.births
  older_handles : ∀ fd h, c.denotes fd = some h → h.object < c.births
  older_fds : ∀ fd, st.nextFd.number ≤ fd.number → c.denotes fd = none

variable {c : Chronicle} {st st' : MemoryStore}

theorem tells_fresh (delivery : Delivery) : Tells {} { delivery } := by
  refine ⟨fun _ => rfl, fun _ => rfl, fun _ => Past.shows_nothing, rfl, rfl, ?_, ?_, fun _ _ => rfl⟩
  · intro path o ho
    cases ho
  · intro fd h hh
    cases hh

/-- Counts, faults and what is parked are not told of. -/
theorem Tells.of_same (h : c.Tells st) (hnames : st'.names = st.names)
    (hhandles : st'.handles = st.handles) (hcontent : st'.content = st.content)
    (hlog : st'.log = st.log) (hobject : st'.nextObject = st.nextObject)
    (hfd : st'.nextFd = st.nextFd) : c.Tells st' := by
  refine ⟨?_, ?_, ?_, hlog.trans h.log, hobject.trans h.births, h.older_names, h.older_handles, ?_⟩
  · rw [hnames]
    exact h.names
  · rw [hhandles]
    exact h.handles
  · rw [hcontent]
    exact h.shows
  · rw [hfd]
    exact h.older_fds

/-! ## One change -/

/-- A content that shows one more change. -/
theorem Tells.changed (h : c.Tells st) {o : ObjectId} {change : Change} {content : SparseBytes}
    (hshows : Past.Shows (change :: c.past o) content.toBytes) :
    (c.changed o change).Tells (st.setContent o content) := by
  refine ⟨h.names, h.handles, ?_, h.log, h.births, h.older_names, h.older_handles, h.older_fds⟩
  intro p
  show Past.Shows (Function.update c.past o (change :: c.past o) p) _
  by_cases hp : p = o
  · subst hp
    rw [Function.update_self, MemoryStore.content_setContent_self]
    exact hshows
  · rw [Function.update_of_ne hp, MemoryStore.content_setContent_of_ne st content hp]
    exact h.shows p

theorem Tells.overlay (h : c.Tells st) (o : ObjectId) (offset : Nat) (data : Bytes) :
    (c.changed o (.laid offset data)).Tells
      (st.setContent o ((st.content o).overlay offset data)) := by
  apply h.changed
  rw [SparseBytes.toBytes_overlay]
  exact (h.shows o).overlay offset data

theorem Tells.resize (h : c.Tells st) (o : ObjectId) (len : Nat) :
    (c.changed o (.sized len)).Tells (st.setContent o ((st.content o).resize len)) := by
  apply h.changed
  rw [SparseBytes.toBytes_resize]
  exact (h.shows o).resize len

/-- A write through a descriptor that is open. -/
theorem Tells.wrote (h : c.Tells st) {fd : Fd} {handle : Handle}
    (hfd : st.handles.find? fd = some handle) (offset : Nat) (data : Bytes) (aio : Bool) :
    (c.wrote fd offset data aio).Tells
      (st.afterWrite handle.object ⟨fd, offset, data.length, aio⟩ data) := by
  have hdenotes : c.denotes fd = some handle := (h.handles fd).symm.trans hfd
  have hchanged : c.changedBy fd (.laid offset data) =
      c.changed handle.object (.laid offset data) := by
    unfold changedBy
    rw [hdenotes]
  have hover := h.overlay handle.object offset data
  unfold Chronicle.wrote
  rw [hchanged]
  refine ⟨hover.names, hover.handles, hover.shows, ?_, hover.births, hover.older_names,
    hover.older_handles, hover.older_fds⟩
  show (_ :: st.written).reverse = c.log ++ _
  rw [List.reverse_cons]
  exact congrArg (· ++ _) h.log

/-! ## Names and descriptors -/

/-- A new object under a name. -/
theorem Tells.born (h : c.Tells st) (path : String) {past : Past} {data : Bytes}
    (hshows : past.Shows data) : (c.born path past).Tells (st.insert path data) := by
  refine ⟨?_, h.handles, ?_, h.log, congrArg (· + 1) h.births, ?_, ?_, h.older_fds⟩
  · intro q
    show (st.names.insert path st.nextObject).find? q =
      Function.update c.named path (some c.births) q
    rw [Table.find?_insert, Function.update_apply, h.births, h.names q]
  · intro o
    show Past.Shows (Function.update c.past c.births past o)
      (((st.objects.insert st.nextObject (.ofBytes data)).find? o).getD {}).toBytes
    rw [h.births]
    by_cases ho : o = c.births
    · subst ho
      rw [Function.update_self, Table.find?_insert_self, Option.getD_some,
        SparseBytes.toBytes_ofBytes]
      exact hshows
    · rw [Function.update_of_ne ho, Table.find?_insert_of_ne _ _ ho]
      exact h.shows o
  · intro q o ho
    show o < c.births + 1
    replace ho : Function.update c.named path (some c.births) q = some o := ho
    rw [Function.update_apply] at ho
    split at ho
    · cases ho
      exact Nat.lt_succ_self _
    · exact Nat.lt_succ_of_lt (h.older_names q o ho)
  · intro fd handle hfd
    exact Nat.lt_succ_of_lt (h.older_handles fd handle hfd)

/-- A descriptor that is given out on the object under the path. -/
theorem Tells.opened (h : c.Tells st) {path : String} {o : ObjectId}
    (hpath : c.named path = some o) (access : Access) :
    (c.opened path access st.nextFd).Tells (st.grant o access).2 := by
  refine ⟨h.names, ?_, h.shows, h.log, h.births, h.older_names, ?_, ?_⟩
  · intro fd
    show (st.handles.insert st.nextFd ⟨o, access⟩).find? fd =
      Function.update c.denotes st.nextFd ((c.named path).map fun o => ⟨o, access⟩) fd
    rw [Table.find?_insert, Function.update_apply, h.handles fd, hpath]
    rfl
  · intro fd handle hfd
    replace hfd : Function.update c.denotes st.nextFd
        ((c.named path).map fun o => ⟨o, access⟩) fd = some handle := hfd
    rw [Function.update_apply, hpath] at hfd
    split at hfd
    · cases hfd
      exact h.older_names path o hpath
    · exact h.older_handles fd handle hfd
  · intro fd hfd
    have hnext : st.nextFd.number + 1 ≤ fd.number := hfd
    have hne : fd ≠ st.nextFd := by
      rintro rfl
      omega
    show Function.update c.denotes st.nextFd _ fd = none
    rw [Function.update_of_ne hne]
    exact h.older_fds fd (by omega)

theorem Tells.emptied (h : c.Tells st) {path : String} {o : ObjectId}
    (hpath : c.named path = some o) (access : Access) :
    (c.found path access).Tells (st.emptied o access) ∧
      (c.found path access).named path = some o := by
  unfold Chronicle.found MemoryStore.emptied
  rw [hpath]
  dsimp only
  split
  · refine ⟨?_, hpath⟩
    apply h.changed
    exact (h.shows o).resize 0
  · exact ⟨h, hpath⟩

theorem Tells.closed (h : c.Tells st) (fd : Fd) :
    Tells { c with denotes := Function.update c.denotes fd none }
      { st with handles := st.handles.erase fd } := by
  refine ⟨h.names, ?_, h.shows, h.log, h.births, h.older_names, ?_, ?_⟩
  · intro fd'
    show (st.handles.erase fd).find? fd' = Function.update c.denotes fd none fd'
    rw [Table.find?_erase, Function.update_apply, h.handles fd']
  · intro fd' handle hfd'
    replace hfd' : Function.update c.denotes fd none fd' = some handle := hfd'
    rw [Function.update_apply] at hfd'
    split at hfd'
    · cases hfd'
    · exact h.older_handles fd' handle hfd'
  · intro fd' hfd'
    show Function.update c.denotes fd none fd' = none
    rw [Function.update_apply, h.older_fds fd' hfd', ite_self]

theorem Tells.unlinked (h : c.Tells st) (path : String) :
    Tells { c with named := Function.update c.named path none }
      { st with names := st.names.erase path } := by
  refine ⟨?_, h.handles, h.shows, h.log, h.births, ?_, h.older_handles, h.older_fds⟩
  · intro q
    show (st.names.erase path).find? q = Function.update c.named path none q
    rw [Table.find?_erase, Function.update_apply, h.names q]
  · intro q o ho
    replace ho : Function.update c.named path none q = some o := ho
    rw [Function.update_apply] at ho
    split at ho
    · cases ho
    · exact h.older_names q o ho

/-! ## Whatever is done -/

/-- Of an act that failed a chronicle notes nothing, unless it was a close. -/
theorem note_failed (c : Chronicle) {act : StoreAct} {answer : StoreAnswer}
    (hfailed : answer.Failed) (hclose : ∀ fd, act ≠ .close fd) : c.note act answer = c := by
  unfold note
  split
  · exact hfailed.elim
  · exact hfailed.elim
  · exact (hclose _ rfl).elim
  · exact hfailed.elim
  · exact hfailed.elim
  · exact hfailed.elim
  · exact hfailed.elim
  · rfl

/-- Of a transfer that is handed in a chronicle notes nothing yet. -/
theorem note_ticket (c : Chronicle) {act : StoreAct} {job : Job} (hjob : act.job? = some job)
    (answer : StoreAnswer) : c.note act answer = c := by
  cases act with
  | submitRead fd offset len => rfl
  | submitWrite fd offset data => rfl
  | _ => cases hjob

/-- An act and its answer take the chronicle to the one of the store after it. -/
theorem Tells.act (h : c.Tells st) (act : StoreAct) :
    (c.note act (act.on st).1).Tells (act.on st).2 := by
  obtain ⟨st', counts, faults, heffect, hst⟩ := act.effect st
  rw [hst]
  suffices hst' : (c.note act (act.on st).1).Tells st' from hst'.of_same rfl rfl rfl rfl rfl rfl
  generalize (act.on st).1 = answer at heffect
  cases heffect with
  | inserted => exact h.born _ (Past.shows_born _)
  | armed => exact h
  | failed hfailed hclose =>
    rw [note_failed c hfailed hclose]
    exact h
  | @opened path access o hname =>
    obtain ⟨hfound, hpath⟩ := h.emptied ((h.names path).symm.trans hname) access
    have hfd : (st.emptied o access).nextFd = st.nextFd := by
      unfold MemoryStore.emptied
      split
      · rfl
      · rfl
    have hopened := hfound.opened hpath access
    rw [hfd] at hopened
    exact hopened
  | @created path access hname =>
    have hnone : c.named path = none := (h.names path).symm.trans hname
    have hborn := h.born path Past.shows_nothing
    have hpath : (c.born path []).named path = some st.nextObject := by
      show Function.update c.named path (some c.births) path = _
      rw [Function.update_self, h.births]
    have hopened := hborn.opened hpath access
    have hfound : c.found path access = c.born path [] := by
      unfold found
      rw [hnone]
    show ((c.found path access).opened path access st.nextFd).Tells _
    rw [hfound]
    exact hopened
  | closed => exact h.closed _
  | read hh => exact h
  | wrote hh => exact h.wrote hh _ _ _
  | accepted hjob hh =>
    rw [note_ticket c hjob]
    exact h.of_same rfl rfl rfl rfl rfl rfl
  | statted hh => exact h
  | synced => exact h
  | @sized fd len handle hh =>
    have hchanged : c.changedBy fd (.sized len) = c.changed handle.object (.sized len) := by
      unfold changedBy
      rw [(h.handles fd).symm.trans hh]
    show (c.changedBy fd (.sized len)).Tells _
    rw [hchanged]
    exact h.resize handle.object len
  | stattedPath ho => exact h
  | @sizedPath path len o ho =>
    have hchanged : c.changedAt path (.sized len) = c.changed o (.sized len) := by
      unfold changedAt
      rw [(h.names path).symm.trans ho]
    show (c.changedAt path (.sized len)).Tells _
    rw [hchanged]
    exact h.resize o len
  | unlinked => exact h.unlinked _

/-- So do a transfer and its completion. -/
theorem Tells.perform (h : c.Tells st) (job : Job) :
    (c.ran job (st.perform job).1).Tells (st.perform job).2 := by
  have hout := st.perform_outcome job
  generalize st.perform job = out at hout
  cases hout with
  | readFault htake => exact h.of_same rfl rfl rfl rfl rfl rfl
  | writeFault htake => exact h.of_same rfl rfl rfl rfl rfl rfl
  | unread hbad => exact h
  | unwritten hbad => exact h
  | read hh => exact h
  | wrote hh => exact h.wrote hh _ _ _

end Chronicle

end StagedFiles
