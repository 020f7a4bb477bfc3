-- One object on its own, with one descriptor at most: what a store in memory without
-- faults is to a single file. The descriptor has the first number, and what is handed
-- in the first ticket.
import StagedFiles.Proofs.MemoryKeeper
import StagedFiles.Proofs.MemoryShelf

namespace StagedFiles

/-! ## The cell -/

/-- An object, the access of the descriptor that is open on it, and what is out. -/
structure Cell where
  content : Option Bytes := none
  access : Option Access := none
  parked : Option Errand := none

namespace Cell

/-- What an access reads. -/
def reads (access : Access) (b : Bytes) (offset len : Nat) : Except Failure Bytes :=
  if access.read then .ok (Bytes.slice b offset len) else .error (.badDescriptor .reading)

/-- What comes of a write with an access, and the bytes after it. -/
def writes (access : Access) (b : Bytes) (offset : Nat) (data : Bytes) :
    Except Failure Nat × Bytes :=
  if access.write then (.ok data.length, Bytes.overlay b offset data)
  else (.error (.badDescriptor .writing), b)

/-- What comes of a transfer that was handed in, and the bytes after it. -/
def outcome (access : Access) (b : Bytes) : Errand → Completion × Bytes
  | .read offset len => (.bytes (reads access b offset len), b)
  | .write offset data => (.count (writes access b offset data).1, (writes access b offset data).2)

/-- What an open finds, makes or empties. -/
def found (access : Access) : Option Bytes → Option Bytes
  | some b => some (if access.truncate ∧ access.write then [] else b)
  | none => if access.create then some [] else none

/-! ## The calls -/

def openPath (path : String) (access : Access) (c : Cell) : Except Failure Fd × Cell :=
  match found access c.content with
  | none => (.error (.notFound path), c)
  | some b => (.ok .first, { content := some b, access := some access })

def close (c : Cell) : Except Failure Unit × Cell :=
  (if c.access.isSome then .ok () else .error (.badDescriptor .closing), { c with access := none })

def readAt (offset len : Nat) (c : Cell) : Except Torn Bytes × Cell :=
  match c.content, c.access with
  | some b, some access => ((reads access b offset len).mapError (Torn.mk []), c)
  | _, _ => (.error ⟨[], .badDescriptor .reading⟩, c)

def writeAt (offset : Nat) (data : Bytes) (c : Cell) : Except Failure Nat × Cell :=
  match c.content, c.access with
  | some b, some access =>
    ((writes access b offset data).1, { c with content := some (writes access b offset data).2 })
  | _, _ => (.error (.badDescriptor .writing), c)

def submit (errand : Errand) (c : Cell) : Except Failure Ticket × Cell :=
  if c.access.isSome then (.ok ⟨0⟩, { c with parked := some errand })
  else (.error (.badDescriptor .submitting), c)

def await (c : Cell) : Option Completion × Cell :=
  match c.content, c.access, c.parked with
  | some b, some access, some errand =>
    (some (outcome access b errand).1,
      { c with content := some (outcome access b errand).2, parked := none })
  | _, _, _ => (none, c)

def stat (c : Cell) : Except Failure Nat × Cell :=
  match c.content, c.access with
  | some b, some _ => (.ok b.length, c)
  | _, _ => (.error (.badDescriptor .stating), c)

def sync (c : Cell) : Except Failure Unit × Cell :=
  (if c.access.isSome then .ok () else .error (.badDescriptor .syncing), c)

def truncate (len : Nat) (c : Cell) : Except Failure Unit × Cell :=
  match c.content, c.access with
  | some b, some access =>
    if access.write then (.ok (), { c with content := some (Bytes.resize b len) })
    else (.error (.badDescriptor .truncating), c)
  | _, _ => (.error (.badDescriptor .truncating), c)

def statPath (path : String) (c : Cell) : Except Failure Nat × Cell :=
  match c.content with
  | some b => (.ok b.length, c)
  | none => (.error (.notFound path), c)

def truncatePath (path : String) (len : Nat) (c : Cell) : Except Failure Unit × Cell :=
  match c.content with
  | some b => (.ok (), { c with content := some (Bytes.resize b len) })
  | none => (.error (.notFound path), c)

def unlinkPath (path : String) (c : Cell) : Except Failure Unit × Cell :=
  match c.content with
  | some _ => (.ok (), { c with content := none })
  | none => (.error (.notFound path), c)

/-- Any number leads to the one descriptor. -/
instance : ObjectStore Cell where
  name := "cell"
  openPath := openPath
  close _ := close
  readAt _ := readAt
  writeAt _ := writeAt
  submitRead _ offset len := submit (.read offset len)
  submitWrite _ offset data := submit (.write offset data)
  await _ := await
  stat _ := stat
  sync _ := sync
  truncate _ := truncate
  statPath := statPath
  truncatePath := truncatePath
  unlinkPath := unlinkPath

end Cell

namespace MemoryStore

/-! ## Transfers without faults -/

/-- Nothing but the content of an object differs that a later call could tell. -/
structure SameBut (o : ObjectId) (st st' : MemoryStore) : Prop where
  names : st'.names = st.names
  handles : st'.handles = st.handles
  nextObject : st'.nextObject = st.nextObject
  nextFd : st'.nextFd = st.nextFd
  faults : st'.faults = st.faults
  parked : st'.parked = st.parked
  finished : st'.finished = st.finished
  nextTicket : st'.nextTicket = st.nextTicket
  delivery : st'.delivery = st.delivery
  content : ∀ p, p ≠ o → st'.content p = st.content p

variable {st : MemoryStore} {fd : Fd} {o : ObjectId} {access : Access} {b : Bytes}

theorem sameBut_count (o : ObjectId) (st : MemoryStore) (f : CallCounts → CallCounts) :
    SameBut o st (st.count f) :=
  ⟨rfl, rfl, rfl, rfl, rfl, rfl, rfl, rfl, rfl, fun _ _ => rfl⟩

theorem sameBut_setContent (o : ObjectId) (st : MemoryStore) (c : SparseBytes) :
    SameBut o st (st.setContent o c) :=
  ⟨rfl, rfl, rfl, rfl, rfl, rfl, rfl, rfl, rfl, fun _ hp => content_setContent_of_ne st c hp⟩

/-- A read is what the access reads of the object. -/
theorem performRead_quiet (hq : st.faults.Quiet) (hh : st.handles.find? fd = some ⟨o, access⟩)
    (hb : (st.content o).toBytes = b) (offset len : Nat) :
    st.performRead fd offset len = (Cell.reads access b offset len, st) := by
  unfold performRead Cell.reads
  rw [Fault.take_of_spent hq.reads, hh]
  dsimp only
  split
  · rw [SparseBytes.slice_eq, hb]
  · rfl

/-- So is a write. -/
theorem performWrite_quiet (hq : st.faults.Quiet) (hh : st.handles.find? fd = some ⟨o, access⟩)
    (hb : (st.content o).toBytes = b) (offset : Nat) (data : Bytes) (aio : Bool) :
    ∃ st', st.performWrite fd offset data aio = ((Cell.writes access b offset data).1, st') ∧
      (st'.content o).toBytes = (Cell.writes access b offset data).2 ∧ SameBut o st st' := by
  unfold performWrite Cell.writes
  rw [Fault.take_of_spent hq.writes, hh]
  dsimp only
  split
  · refine ⟨_, rfl, ?_, ?_⟩
    · show ((st.setContent o _).content o).toBytes = _
      rw [content_setContent_self, SparseBytes.toBytes_overlay, hb]
    · exact ⟨rfl, rfl, rfl, rfl, rfl, rfl, rfl, rfl, rfl,
        fun _ hp => content_setContent_of_ne st _ hp⟩
  · exact ⟨st, rfl, hb, rfl, rfl, rfl, rfl, rfl, rfl, rfl, rfl, rfl, fun _ _ => rfl⟩

/-- And a transfer that was handed in, whenever it runs. -/
theorem perform_quiet (hq : st.faults.Quiet) (hh : st.handles.find? fd = some ⟨o, access⟩)
    (hb : (st.content o).toBytes = b) (errand : Errand) :
    ∃ st', st.perform (errand.job fd) = ((Cell.outcome access b errand).1, st') ∧
      (st'.content o).toBytes = (Cell.outcome access b errand).2 ∧ SameBut o st st' := by
  cases errand with
  | read offset len =>
    refine ⟨st, ?_, hb, rfl, rfl, rfl, rfl, rfl, rfl, rfl, rfl, rfl, fun _ _ => rfl⟩
    unfold Errand.job perform
    dsimp only
    rw [performRead_quiet hq hh hb]
    rfl
  | write offset data =>
    obtain ⟨st', hw, hcontent, hsame⟩ := performWrite_quiet hq hh hb offset data true
    refine ⟨st', ?_, hcontent, hsame⟩
    unfold Errand.job perform
    dsimp only
    rw [hw]
    rfl

end MemoryStore

end StagedFiles
