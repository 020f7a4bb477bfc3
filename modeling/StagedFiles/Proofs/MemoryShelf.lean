-- A store in memory without faults, as a shelf: what stands under each name.
-- Opening, writing and closing do to the shelf what they say, and a descriptor
-- that is open to read and to write is a file without errors.
import Mathlib.Logic.Function.Basic
import StagedFiles.Proofs.FlatFile
import StagedFiles.Proofs.KeptObject

namespace StagedFiles

/-! ## No faults -/

/-- No call is told to fail. -/
structure Faults.Quiet (f : Faults) : Prop where
  opens : f.opens.remaining = 0
  closes : f.closes.remaining = 0
  reads : f.reads.remaining = 0
  writes : f.writes.remaining = 0
  submits : f.submits.remaining = 0

theorem Fault.take_of_spent {f : Fault} (h : f.remaining = 0) : f.take = (none, f) := by
  unfold Fault.take
  rw [h]

namespace MemoryStore

/-! ## A transfer that is alone in the store -/

/-- A transfer that is handed in to a store with nothing parked is what the
store does when its ticket is waited for. -/
theorem await_alone {st : MemoryStore} {ticket : Ticket} {job : Job}
    (hparked : st.parked = [(ticket, job)]) (hfinished : st.finished = []) :
    st.await ticket = (some ({ st with parked := [] }.perform job).1,
      ({ st with parked := [] }.perform job).2) := by
  unfold MemoryStore.await
  split
  · have hrest : st.parked.filter (·.1 ≠ ticket) = [] := by
      rw [hparked]
      simp
    unfold runOne
    rw [hrest, hparked]
    simp
  · obtain ⟨faults, objects, written, hran⟩ := perform_frame { st with parked := [] } job
    have hkept : st.runParked.2 = keep ticket ({ st with parked := [] }.perform job).1
        ({ st with parked := [] }.perform job).2 := by
      show performAll keep st.parked { st with parked := [] } = _
      rw [hparked]
      rfl
    rw [hkept, hran]
    simp [keep, hfinished]

/-- The same for a transfer that was just parked. -/
theorem await_park {st : MemoryStore} (hparked : st.parked = []) (hfinished : st.finished = [])
    (job : Job) :
    (st.park job).2.await st.nextTicket =
      (some ({ (st.park job).2 with parked := [] }.perform job).1,
        ({ (st.park job).2 with parked := [] }.perform job).2) := by
  have halone : (st.park job).2.parked = [(st.nextTicket, job)] := by
    show st.parked ++ [(st.nextTicket, job)] = _
    rw [hparked]
    rfl
  exact await_alone halone hfinished

/-- A hand-in for a descriptor that is open is taken. -/
theorem checkSubmit_open {st : MemoryStore} {fd : Fd} (hspent : st.faults.submits.remaining = 0)
    (hopen : st.handles.contains fd = true) : st.checkSubmit fd = (.ok (), st) := by
  unfold MemoryStore.checkSubmit
  rw [Fault.take_of_spent hspent]
  dsimp only
  rw [if_pos hopen]

/-! ## Transfers through an open descriptor -/

theorem performRead_open {st : MemoryStore} {fd : Fd} {o : ObjectId} {access : Access}
    (hhandle : st.handles.find? fd = some ⟨o, access⟩)
    (hread : access.read = true) (hspent : st.faults.reads.remaining = 0) (offset len : Nat) :
    st.performRead fd offset len = (.ok ((st.content o).slice offset len), st) := by
  unfold performRead
  rw [Fault.take_of_spent hspent, hhandle]
  dsimp only
  rw [if_pos hread]

theorem performWrite_open {st : MemoryStore} {fd : Fd} {o : ObjectId} {access : Access}
    (hhandle : st.handles.find? fd = some ⟨o, access⟩)
    (hwrite : access.write = true) (hspent : st.faults.writes.remaining = 0) (offset : Nat)
    (data : Bytes) (aio : Bool) :
    st.performWrite fd offset data aio =
      (.ok data.length, st.afterWrite o ⟨fd, offset, data.length, aio⟩ data) := by
  unfold performWrite
  rw [Fault.take_of_spent hspent, hhandle]
  dsimp only
  rw [if_pos hwrite]
  rfl

/-! ## Names -/

/-- An object that is new has no other name. -/
theorem apart_insert {st : MemoryStore}
    (hapart : ∀ p q o, st.names.find? p = some o → st.names.find? q = some o → p = q)
    (hgiven : ∀ p o, st.names.find? p = some o → o < st.nextObject) (path : String)
    (data : Bytes) (p q : String) (o : ObjectId)
    (hp : (st.insert path data).names.find? p = some o)
    (hq : (st.insert path data).names.find? q = some o) : p = q := by
  have hfind : ∀ p, (st.insert path data).names.find? p =
      if p = path then some st.nextObject else st.names.find? p :=
    fun p => Table.find?_insert ..
  rw [hfind] at hp hq
  split at hp
  · rename_i hpath
    split at hq
    · rename_i hqath
      exact hpath.trans hqath.symm
    · cases hp
      exact absurd (hgiven q _ hq) (Nat.lt_irrefl _)
  · split at hq
    · cases hq
      exact absurd (hgiven p _ hp) (Nat.lt_irrefl _)
    · exact hapart p q o hp hq

theorem given_insert {st : MemoryStore}
    (hgiven : ∀ p o, st.names.find? p = some o → o < st.nextObject) (path : String)
    (data : Bytes) (p : String) (o : ObjectId)
    (hp : (st.insert path data).names.find? p = some o) :
    o < (st.insert path data).nextObject := by
  have hfind : (st.insert path data).names.find? p =
      if p = path then some st.nextObject else st.names.find? p := Table.find?_insert ..
  rw [hfind] at hp
  split at hp
  · cases hp
    exact Nat.lt_succ_self _
  · exact Nat.lt_succ_of_lt (hgiven p o hp)

/-! ## The shelf -/

/-- These bytes stand under these names. Each name has an object of its own, no
call is told to fail, and nothing that was handed in is still to come. -/
structure Shelf (objects : String → Option Bytes) (next : Fd) (st : MemoryStore) : Prop where
  shows : ∀ path, st.object? path = objects path
  apart : ∀ p q o, st.names.find? p = some o → st.names.find? q = some o → p = q
  given : ∀ p o, st.names.find? p = some o → o < st.nextObject
  next_eq : st.nextFd = next
  quiet : st.faults.Quiet
  parked : st.parked = []
  finished : st.finished = []

variable {objects : String → Option Bytes} {next fd : Fd} {st st' : MemoryStore} {path : String}
  {o : ObjectId} {access : Access}

theorem shelf_empty (delivery : Delivery) : Shelf (fun _ => none) .first { delivery } := by
  refine ⟨fun _ => rfl, ?_, ?_, rfl, ⟨rfl, rfl, rfl, rfl, rfl⟩, rfl, rfl⟩
  · intro p q o hp
    cases hp
  · intro p o hp
    cases hp

/-- Handles, counts and the log are of no account to the shelf. -/
theorem Shelf.of_same (h : Shelf objects next st) (ho : st'.objects = st.objects)
    (hn : st'.names = st.names) (hobject : st'.nextObject = st.nextObject)
    (hfd : st'.nextFd = st.nextFd) (hf : st'.faults = st.faults) (hp : st'.parked = st.parked)
    (hfin : st'.finished = st.finished) : Shelf objects next st' := by
  refine ⟨?_, ?_, ?_, hfd.trans h.next_eq, hf ▸ h.quiet, hp.trans h.parked, hfin.trans h.finished⟩
  · intro p
    rw [← h.shows p]
    unfold object? content
    rw [hn, ho]
  · rw [hn]
    exact h.apart
  · rw [hn, hobject]
    exact h.given

/-- What stands under a name is what its object holds. -/
theorem Shelf.content (h : Shelf objects next st) (hname : st.names.find? path = some o) :
    objects path = some (st.content o).toBytes := by
  rw [← h.shows path]
  unfold object?
  rw [hname]
  rfl

/-- An object that gets another content has it under its name. -/
theorem Shelf.setContent (h : Shelf objects next st) (hname : st.names.find? path = some o)
    (c : SparseBytes) :
    Shelf (Function.update objects path (some c.toBytes)) next (st.setContent o c) := by
  refine ⟨?_, h.apart, h.given, h.next_eq, h.quiet, h.parked, h.finished⟩
  intro p
  by_cases hp : p = path
  · subst hp
    rw [Function.update_self]
    show (st.names.find? p).map (fun o' => ((st.setContent o c).content o').toBytes) = _
    rw [hname, Option.map_some, content_setContent_self]
  · rw [Function.update_of_ne hp, ← h.shows p]
    unfold object?
    show (st.names.find? p).map (fun o' => ((st.setContent o c).content o').toBytes) = _
    rcases hother : st.names.find? p with _ | o'
    · rfl
    · have hne : o' ≠ o := by
        rintro rfl
        exact hp (h.apart p path o' hother hname)
      rw [Option.map_some, content_setContent_of_ne st c hne]
      rfl

/-- A new object stands under its name. -/
theorem Shelf.insert (h : Shelf objects next st) (path : String) (data : Bytes) :
    Shelf (Function.update objects path (some data)) next (st.insert path data) := by
  have hfind : ∀ p, (st.insert path data).names.find? p =
      if p = path then some st.nextObject else st.names.find? p :=
    fun p => Table.find?_insert ..
  refine ⟨?_, ?_, ?_, h.next_eq, h.quiet, h.parked, h.finished⟩
  · intro p
    by_cases hp : p = path
    · subst hp
      rw [Function.update_self]
      unfold object? MemoryStore.content
      rw [hfind, if_pos rfl, Option.map_some]
      show some (((st.objects.insert st.nextObject (.ofBytes data)).find?
        st.nextObject).getD {}).toBytes = _
      rw [Table.find?_insert_self]
      exact congrArg some (SparseBytes.toBytes_ofBytes data)
    · rw [Function.update_of_ne hp, ← h.shows p]
      unfold object?
      rw [hfind, if_neg hp]
      rcases hother : st.names.find? p with _ | o
      · rfl
      · have hne : o ≠ st.nextObject := Nat.ne_of_lt (h.given p o hother)
        show some (((st.objects.insert st.nextObject (.ofBytes data)).find? o).getD {}).toBytes = _
        rw [Table.find?_insert_of_ne _ _ hne]
        rfl
  · exact apart_insert h.apart h.given path data
  · exact given_insert h.given path data

theorem Shelf.count (h : Shelf objects next st) (f : CallCounts → CallCounts) :
    Shelf objects next (st.count f) := h.of_same rfl rfl rfl rfl rfl rfl rfl

theorem Shelf.grant (h : Shelf objects next st) (o : ObjectId) (access : Access) :
    Shelf objects next.next (st.grant o access).2 :=
  ⟨h.shows, h.apart, h.given, congrArg Fd.next h.next_eq, h.quiet, h.parked, h.finished⟩

/-- A name has an object when something stands under it. -/
theorem Shelf.find?_of_some {b : Bytes} (h : Shelf objects next st) (hb : objects path = some b) :
    ∃ o, st.names.find? path = some o ∧ (st.content o).toBytes = b := by
  rw [← h.shows path] at hb
  exact Option.map_eq_some_iff.mp hb

theorem Shelf.find?_of_none (h : Shelf objects next st) (hnone : objects path = none) :
    st.names.find? path = none := by
  rw [← h.shows path] at hnone
  exact Option.map_eq_none_iff.mp hnone

/-- The size under a name, and what is said of a name with nothing under it. -/
theorem Shelf.statPath (h : Shelf objects next st) (path : String) :
    (ObjectStore.statPath path st).1 =
      match objects path with
      | none => .error (.notFound path)
      | some b => .ok b.length := by
  show (MemoryStore.statPath path st).1 = _
  unfold MemoryStore.statPath
  rcases hobject : objects path with _ | b
  · rw [h.find?_of_none hobject]
  · obtain ⟨o, hname, hcontent⟩ := h.find?_of_some hobject
    rw [hname, ← hcontent]
    exact congrArg Except.ok (SparseBytes.length_toBytes _).symm

/-! ## An object that is open -/

/-- The descriptor is open on what stands under a name, and that has these bytes. -/
structure OpenAt (objects : String → Option Bytes) (next : Fd) (path : String) (fd : Fd)
    (access : Access) (st : MemoryStore) (b : Bytes) : Prop where
  shelf : Shelf (Function.update objects path (some b)) next st
  handle : ∃ o, st.names.find? path = some o ∧ st.handles.find? fd = some ⟨o, access⟩

variable {b data : Bytes} {offset : Nat}

/-- The object that is open. -/
theorem OpenAt.object (h : OpenAt objects next path fd access st b) :
    ∃ o, st.names.find? path = some o ∧ st.handles.find? fd = some ⟨o, access⟩ ∧
      (st.content o).toBytes = b := by
  obtain ⟨o, hname, hhandle⟩ := h.handle
  have hcontent := h.shelf.content hname
  rw [Function.update_self] at hcontent
  exact ⟨o, hname, hhandle, (Option.some.inj hcontent).symm⟩

theorem OpenAt.read (h : OpenAt objects next path fd access st b) (hread : access.read = true)
    (offset len : Nat) : st.performRead fd offset len = (.ok (Bytes.slice b offset len), st) := by
  obtain ⟨o, _, hhandle, hb⟩ := h.object
  rw [performRead_open hhandle hread h.shelf.quiet.reads, SparseBytes.slice_eq, hb]

theorem OpenAt.write (h : OpenAt objects next path fd access st b) (hwrite : access.write = true)
    (offset : Nat) (data : Bytes) (aio : Bool) :
    ∃ st', st.performWrite fd offset data aio = (.ok data.length, st') ∧
      OpenAt objects next path fd access st' (Bytes.overlay b offset data) := by
  obtain ⟨o, hname, hhandle, hb⟩ := h.object
  have hw := performWrite_open hhandle hwrite h.shelf.quiet.writes offset data aio
  have hlaid := h.shelf.setContent hname ((st.content o).overlay offset data)
  rw [Function.update_idem, SparseBytes.toBytes_overlay, hb] at hlaid
  exact ⟨_, hw, hlaid.of_same rfl rfl rfl rfl rfl rfl rfl, o, hname, hhandle⟩

/-- What stands on the shelf is all there is to a descriptor that is open. -/
theorem OpenAt.of_same (h : OpenAt objects next path fd access st b)
    (ho : st'.objects = st.objects) (hn : st'.names = st.names)
    (hobject : st'.nextObject = st.nextObject) (hh : st'.handles = st.handles)
    (hfd : st'.nextFd = st.nextFd) (hf : st'.faults = st.faults) (hp : st'.parked = st.parked)
    (hfin : st'.finished = st.finished) : OpenAt objects next path fd access st' b := by
  refine ⟨h.shelf.of_same ho hn hobject hfd hf hp hfin, ?_⟩
  rw [hn, hh]
  exact h.handle

theorem OpenAt.count (h : OpenAt objects next path fd access st b)
    (f : CallCounts → CallCounts) : OpenAt objects next path fd access (st.count f) b :=
  h.of_same rfl rfl rfl rfl rfl rfl rfl rfl

theorem OpenAt.checkSubmit (h : OpenAt objects next path fd access st b) :
    st.checkSubmit fd = (.ok (), st) := by
  obtain ⟨o, _, hhandle⟩ := h.handle
  apply checkSubmit_open h.shelf.quiet.submits
  unfold Table.contains
  rw [hhandle]
  rfl

/-- A transfer that is parked runs on the object as it was. -/
theorem OpenAt.park (h : OpenAt objects next path fd access st b) (job : Job) :
    OpenAt objects next path fd access { (st.park job).2 with parked := [] } b :=
  h.of_same rfl rfl rfl rfl rfl rfl h.shelf.parked.symm rfl

/-- A write the caller waits for lays its data over the object, also when there
are none: the object then grows up to the offset. -/
theorem OpenAt.writeAt (h : OpenAt objects next path fd access st b)
    (hwrite : access.write = true) (offset : Nat) (data : Bytes) :
    ∃ st', ObjectStore.writeAt fd offset data st = (.ok data.length, st') ∧
      OpenAt objects next path fd access st' (Bytes.overlay b offset data) :=
  (h.count fun c => { c with pwrites := c.pwrites + 1 }).write hwrite offset data false

/-- A read the caller waits for brings what the object holds there. -/
theorem OpenAt.readAt (h : OpenAt objects next path fd access st b) (hread : access.read = true)
    (offset len : Nat) :
    ∃ st', ObjectStore.readAt fd offset len st = (.ok (Bytes.slice b offset len), st') ∧
      OpenAt objects next path fd access st' b := by
  let counted := st.count fun c => { c with preads := c.preads + 1 }
  have hcounted : OpenAt objects next path fd access counted b := h.count _
  refine ⟨counted, ?_, hcounted⟩
  show MemoryStore.readAt fd offset len st = _
  unfold MemoryStore.readAt
  dsimp only
  rw [hcounted.read hread]

/-- So does a read that is handed in, when it is waited for. -/
theorem OpenAt.submitRead (h : OpenAt objects next path fd access st b)
    (hread : access.read = true) (offset len : Nat) :
    ∃ ticket st1 st2, ObjectStore.submitRead fd offset len st = (.ok ticket, st1) ∧
      ObjectStore.await ticket st1 = (some (.bytes (.ok (Bytes.slice b offset len))), st2) ∧
      OpenAt objects next path fd access st2 b := by
  let counted := st.count fun c => { c with aioReads := c.aioReads + 1 }
  have hcounted : OpenAt objects next path fd access counted b := h.count _
  have hready := hcounted.park (.read fd offset len)
  have hr := hready.read hread offset len
  refine ⟨counted.nextTicket, (counted.park (.read fd offset len)).2,
    { (counted.park (.read fd offset len)).2 with parked := [] }, ?_, ?_, hready⟩
  · show MemoryStore.submitRead fd offset len st = _
    unfold MemoryStore.submitRead
    rw [h.checkSubmit]
    rfl
  · show MemoryStore.await counted.nextTicket (counted.park (.read fd offset len)).2 = _
    rw [await_park hcounted.shelf.parked hcounted.shelf.finished]
    unfold perform
    dsimp only
    rw [hr]

/-- A descriptor that is open to read and to write is a file without errors. -/
def shelfFile (objects : String → Option Bytes) (next : Fd) (path : String) (fd : Fd)
    (access : Access) (hread : access.read = true) (hwrite : access.write = true) :
    FlatFile MemoryStore fd where
  Holds := OpenAt objects next path fd access
  Reaches _ := True
  reaches_of_le _ _ := trivial
  write h _ _ := h.writeAt hwrite _ _
  submitWrite := by
    intro st b data offset h _ _
    let counted := st.count fun c => { c with aioWrites := c.aioWrites + 1 }
    have hcounted : OpenAt objects next path fd access counted b := h.count _
    obtain ⟨st', hw, hopen⟩ := (hcounted.park (.write fd offset data)).write hwrite offset data true
    refine ⟨counted.nextTicket, (counted.park (.write fd offset data)).2, st', ?_, ?_, hopen⟩
    · show MemoryStore.submitWrite fd offset data st = _
      unfold MemoryStore.submitWrite
      rw [h.checkSubmit]
      rfl
    · show MemoryStore.await counted.nextTicket (counted.park (.write fd offset data)).2 = _
      rw [await_park hcounted.shelf.parked hcounted.shelf.finished]
      unfold perform
      dsimp only
      rw [hw]
  read offset len h := h.readAt hread offset len
  submitRead offset len h := h.submitRead hread offset len

/-! ## Open and close -/

/-- What an open leaves under a name where this stood, if it opens at all. -/
def left (access : Access) : Option Bytes → Option Bytes
  | some b => some (if access.truncate then [] else b)
  | none => if access.create then some [] else none

/-- An open of a name that is not there, and may not be made, is refused. -/
theorem Shelf.open_missing (h : Shelf objects next st) (hleft : left access (objects path) = none) :
    ∃ st', st.openPath path access = (.error (.notFound path), st') ∧ Shelf objects next st' := by
  let counted := st.count fun c => { c with opens := c.opens + 1 }
  have hnone : objects path = none := by
    rcases hobject : objects path with _ | b
    · rfl
    · rw [hobject] at hleft
      cases hleft
  have hcreate : access.create = false := by
    rw [hnone] at hleft
    unfold left at hleft
    simpa using hleft
  refine ⟨counted, ?_, h.count _⟩
  unfold MemoryStore.openPath
  dsimp only
  rw [Fault.take_of_spent (h.count _).quiet.opens]
  dsimp only
  unfold MemoryStore.find
  rw [(h.count _).find?_of_none hnone, hcreate]
  rfl

/-- Any other open finds, makes or empties the object. -/
theorem Shelf.find (h : Shelf objects next st)
    (hwrite : access.truncate = true → access.write = true)
    (hleft : left access (objects path) = some b) :
    ∃ o found, st.find path access = (.ok o, found) ∧
      Shelf (Function.update objects path (some b)) next found ∧
      found.names.find? path = some o := by
  rcases hobject : objects path with _ | old
  · rw [hobject] at hleft
    dsimp only [left] at hleft
    rw [Option.ite_none_right_eq_some] at hleft
    obtain ⟨hcreate, hb⟩ := hleft
    cases hb
    refine ⟨st.nextObject, st.insert path [], ?_, h.insert path [], Table.find?_insert_self ..⟩
    unfold MemoryStore.find
    rw [h.find?_of_none hobject]
    dsimp only
    rw [if_pos hcreate]
  · rw [hobject] at hleft
    dsimp only [left] at hleft
    obtain ⟨o, hname, hcontent⟩ := h.find?_of_some hobject
    by_cases hcut : access.truncate = true
    · rw [if_pos hcut] at hleft
      cases hleft
      refine ⟨o, st.setContent o {}, ?_, h.setContent hname {}, hname⟩
      unfold MemoryStore.find
      rw [hname]
      dsimp only
      rw [if_pos ⟨hcut, hwrite hcut⟩]
    · rw [if_neg hcut] at hleft
      cases hleft
      refine ⟨o, st, ?_, ?_, hname⟩
      · unfold MemoryStore.find
        rw [hname]
        dsimp only
        rw [if_neg fun hboth => hcut hboth.1]
      · rw [← hobject, Function.update_eq_self]
        exact h

/-- It gives the next descriptor on that. -/
theorem Shelf.open_present (h : Shelf objects next st)
    (hwrite : access.truncate = true → access.write = true)
    (hleft : left access (objects path) = some b) :
    ∃ st', st.openPath path access = (.ok next, st') ∧
      OpenAt objects next.next path next access st' b := by
  let counted := st.count fun c => { c with opens := c.opens + 1 }
  have hcounted : Shelf objects next counted := h.count _
  obtain ⟨o, found, hfind, hshelf, hname⟩ := hcounted.find hwrite hleft
  refine ⟨(found.grant o access).2, ?_, hshelf.grant o access, o, hname, ?_⟩
  · have hspent : counted.faults.opens.take = (none, counted.faults.opens) :=
      Fault.take_of_spent hcounted.quiet.opens
    have hgiven : (found.grant o access).1 = next := hshelf.next_eq
    unfold MemoryStore.openPath
    dsimp only
    rw [hspent]
    dsimp only
    rw [hfind]
    dsimp only
    rw [hgiven]
  · show (found.handles.insert found.nextFd ⟨o, access⟩).find? next = _
    rw [hshelf.next_eq, Table.find?_insert_self]

/-- A close of an open descriptor comes out well and leaves the shelf. -/
theorem OpenAt.close (h : OpenAt objects next path fd access st b) :
    ∃ st', st.close fd = (.ok (), st') ∧
      Shelf (Function.update objects path (some b)) next st' := by
  let counted := st.count fun c => { c with closes := c.closes + 1 }
  obtain ⟨o, _, hhandle⟩ := h.handle
  refine ⟨{ counted with handles := counted.handles.erase fd }, ?_,
    h.shelf.of_same rfl rfl rfl rfl rfl rfl rfl⟩
  have hknown : counted.handles.contains fd = true := by
    unfold Table.contains
    rw [show counted.handles.find? fd = _ from hhandle]
    rfl
  have hspent : counted.faults.closes.take = (none, counted.faults.closes) :=
    Fault.take_of_spent h.shelf.quiet.closes
  unfold MemoryStore.close
  dsimp only
  rw [hspent]
  dsimp only
  rw [if_pos hknown]

/-- A truncation through a descriptor that may write cuts or extends the object. -/
theorem OpenAt.truncate (h : OpenAt objects next path fd access st b)
    (hwrite : access.write = true) (len : Nat) :
    ∃ st', ObjectStore.truncate fd len st = (.ok (), st') ∧
      OpenAt objects next path fd access st' (Bytes.resize b len) := by
  let counted := st.count fun c => { c with truncates := c.truncates + 1 }
  have hcounted : OpenAt objects next path fd access counted b := h.count _
  obtain ⟨o, hname, hhandle, hb⟩ := hcounted.object
  refine ⟨counted.setContent o ((counted.content o).resize len), ?_, ?_, o, hname, hhandle⟩
  · show MemoryStore.truncate fd len st = _
    unfold MemoryStore.truncate
    dsimp only
    rw [hhandle]
    dsimp only
    rw [if_pos hwrite]
  · have hcut := hcounted.shelf.setContent hname ((counted.content o).resize len)
    rw [Function.update_idem, SparseBytes.toBytes_resize, hb] at hcut
    exact hcut

/-- The size that an open descriptor tells. -/
theorem OpenAt.stat (h : OpenAt objects next path fd access st b) :
    st.stat fd = (.ok b.length, st) := by
  obtain ⟨o, _, hhandle, hb⟩ := h.object
  unfold MemoryStore.stat
  rw [hhandle, ← hb, SparseBytes.length_toBytes]

end MemoryStore

end StagedFiles
