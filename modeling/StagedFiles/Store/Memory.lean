-- A store in memory. An object is a run of bytes that one name may lead to; a
-- handle leads to the object itself, so a name that is taken away or given to
-- another object changes nothing for a handle. The store counts its calls,
-- keeps a log of its writes, and can be told to fail the next calls of a kind.
-- A transfer that was handed in runs when it is waited for, or with all that
-- are parked, in the order they came.
import StagedFiles.ObjectStore
import StagedFiles.SparseBytes
import StagedFiles.Table
import StagedFiles.Text.Record
import StagedFiles.Traffic

namespace StagedFiles

/-! ## Faults -/

/-- Calls still to fail, and the error number they fail with. -/
structure Fault where
  remaining : Nat := 0
  errno : Int := 0
  deriving DecidableEq, Repr

/-- The error number for this call, if it is to fail, and the fault after it. -/
def Fault.take (f : Fault) : Option Int × Fault :=
  match f.remaining with
  | 0 => (none, f)
  | n + 1 => (some f.errno, { f with remaining := n })

/-- The calls that can be told to fail. -/
inductive FaultPoint where
  | opens | closes | reads | writes | submits
  deriving DecidableEq, Repr

structure Faults where
  opens : Fault := {}
  closes : Fault := {}
  reads : Fault := {}
  writes : Fault := {}
  submits : Fault := {}
  deriving DecidableEq, Repr

def Faults.arm (f : Faults) (point : FaultPoint) (fault : Fault) : Faults :=
  match point with
  | .opens => { f with opens := fault }
  | .closes => { f with closes := fault }
  | .reads => { f with reads := fault }
  | .writes => { f with writes := fault }
  | .submits => { f with submits := fault }

/-! ## The store -/

/-- When a transfer that was handed in runs. -/
inductive Delivery where
  /-- Each on its own, without being asked. -/
  | threaded
  /-- Parked until someone runs what is parked. -/
  | deferred
  deriving DecidableEq, Repr

def Delivery.name : Delivery → String
  | .threaded => "Threaded"
  | .deferred => "Deferred"

/-- How often each call was made. -/
structure CallCounts where
  opens : Counter := 0
  closes : Counter := 0
  preads : Counter := 0
  pwrites : Counter := 0
  aioReads : Counter := 0
  aioWrites : Counter := 0
  fsyncs : Counter := 0
  truncates : Counter := 0
  deriving DecidableEq, Repr

/-- A write that went through. -/
structure WriteRecord where
  fd : Fd
  offset : Nat
  len : Nat
  /-- It was handed in. -/
  aio : Bool
  deriving DecidableEq, Repr

/-- A transfer that was handed in. -/
inductive Job where
  | read (fd : Fd) (offset len : Nat)
  | write (fd : Fd) (offset : Nat) (data : Bytes)

/-- The identity of an object, under whatever name. -/
abbrev ObjectId := Nat

structure Handle where
  object : ObjectId
  access : Access
  deriving DecidableEq, Repr

structure MemoryStore where
  delivery : Delivery := .threaded
  objects : Table ObjectId SparseBytes := {}
  names : Table String ObjectId := {}
  handles : Table Fd Handle := {}
  nextObject : ObjectId := 0
  nextFd : Fd := .first
  counts : CallCounts := {}
  /-- The writes that went through, newest first. -/
  written : List WriteRecord := []
  faults : Faults := {}
  /-- The transfers still to run, oldest first. -/
  parked : List (Ticket × Job) := []
  /-- How transfers came out that ran while another was waited for. -/
  finished : List (Ticket × Completion) := []
  nextTicket : Ticket := ⟨0⟩

namespace MemoryStore

/-! ## Objects by name -/

/-- Puts a new object under a name. -/
def insert (st : MemoryStore) (path : String) (data : Bytes) : MemoryStore :=
  { st with
    objects := st.objects.insert st.nextObject (.ofBytes data)
    names := st.names.insert path st.nextObject
    nextObject := st.nextObject + 1 }

/-- The content of an object. -/
def content (st : MemoryStore) (o : ObjectId) : SparseBytes := (st.objects.find? o).getD {}

/-- The bytes under a name. -/
def object? (st : MemoryStore) (path : String) : Option Bytes :=
  (st.names.find? path).map fun o => (st.content o).toBytes

def setContent (st : MemoryStore) (o : ObjectId) (c : SparseBytes) : MemoryStore :=
  { st with objects := st.objects.insert o c }

def openFds (st : MemoryStore) : Nat := st.handles.size

/-- The writes that went through, oldest first. -/
def log (st : MemoryStore) : List WriteRecord := st.written.reverse

/-- Fails the next `n` calls at a point. -/
def failNext (st : MemoryStore) (point : FaultPoint) (n : Nat) (errno : Int) : MemoryStore :=
  { st with faults := st.faults.arm point ⟨n, errno⟩ }

/-! ## Counting -/

def count (st : MemoryStore) (f : CallCounts → CallCounts) : MemoryStore :=
  { st with counts := f st.counts }

/-! ## Open and close -/

/-- A handle on an object, under the next number. -/
def grant (st : MemoryStore) (o : ObjectId) (access : Access) : Fd × MemoryStore :=
  (st.nextFd,
    { st with
      handles := st.handles.insert st.nextFd ⟨o, access⟩
      nextFd := st.nextFd.next })

/-- The object that an open leads to. A name that is not there gets a new
object only when the open may create. -/
def find (st : MemoryStore) (path : String) (access : Access) :
    Except Failure ObjectId × MemoryStore :=
  match st.names.find? path with
  | some o => (.ok o, if access.truncate ∧ access.write then st.setContent o {} else st)
  | none =>
    if access.create then (.ok st.nextObject, st.insert path [])
    else (.error (.notFound path), st)

def openPath (path : String) (access : Access) (st : MemoryStore) :
    Except Failure Fd × MemoryStore :=
  let st := st.count fun c => { c with opens := c.opens + 1 }
  match st.faults.opens.take with
  | (some errno, fault) =>
    (.error (.refused .opening errno), { st with faults := st.faults.arm .opens fault })
  | (none, _) =>
    match st.find path access with
    | (.error f, st) => (.error f, st)
    | (.ok o, st) =>
      let (fd, st) := st.grant o access
      (.ok fd, st)

/-- Gives the descriptor up, also when the call is told to fail. -/
def close (fd : Fd) (st : MemoryStore) : Except Failure Unit × MemoryStore :=
  let st := st.count fun c => { c with closes := c.closes + 1 }
  let known := st.handles.contains fd
  let st := { st with handles := st.handles.erase fd }
  match st.faults.closes.take with
  | (some errno, fault) =>
    (.error (.refused .closing errno), { st with faults := st.faults.arm .closes fault })
  | (none, _) => (if known then .ok () else .error (.badDescriptor .closing), st)

/-! ## Transfers -/

/-- The bytes a descriptor reads, none past the end of its object. -/
def performRead (fd : Fd) (offset len : Nat) (st : MemoryStore) :
    Except Failure Bytes × MemoryStore :=
  match st.faults.reads.take with
  | (some errno, fault) =>
    (.error (.refused .reading errno), { st with faults := st.faults.arm .reads fault })
  | (none, _) =>
    match st.handles.find? fd with
    | none => (.error (.badDescriptor .reading), st)
    | some h =>
      if h.access.read then (.ok ((st.content h.object).slice offset len), st)
      else (.error (.badDescriptor .reading), st)

/-- Lays data over an object, which grows with zeros up to the offset. -/
def performWrite (fd : Fd) (offset : Nat) (data : Bytes) (aio : Bool) (st : MemoryStore) :
    Except Failure Nat × MemoryStore :=
  match st.faults.writes.take with
  | (some errno, fault) =>
    (.error (.refused .writing errno), { st with faults := st.faults.arm .writes fault })
  | (none, _) =>
    match st.handles.find? fd with
    | none => (.error (.badDescriptor .writing), st)
    | some h =>
      if h.access.write then
        let st := st.setContent h.object ((st.content h.object).overlay offset data)
        (.ok data.length, { st with written := ⟨fd, offset, data.length, aio⟩ :: st.written })
      else (.error (.badDescriptor .writing), st)

def readAt (fd : Fd) (offset len : Nat) (st : MemoryStore) : Except Torn Bytes × MemoryStore :=
  let st := st.count fun c => { c with preads := c.preads + 1 }
  match st.performRead fd offset len with
  | (.ok bytes, st) => (.ok bytes, st)
  | (.error f, st) => (.error ⟨[], f⟩, st)

def writeAt (fd : Fd) (offset : Nat) (data : Bytes) (st : MemoryStore) :
    Except Failure Nat × MemoryStore :=
  let st := st.count fun c => { c with pwrites := c.pwrites + 1 }
  st.performWrite fd offset data false

/-! ## Transfers that are handed in -/

/-- Refuses a hand-in that is told to fail, or whose descriptor is not open. -/
def checkSubmit (fd : Fd) (st : MemoryStore) : Except Failure Unit × MemoryStore :=
  match st.faults.submits.take with
  | (some errno, fault) =>
    (.error (.refused .submitting errno), { st with faults := st.faults.arm .submits fault })
  | (none, _) =>
    (if st.handles.contains fd then .ok () else .error (.badDescriptor .submitting), st)

/-- Parks a transfer for the next ticket. -/
def park (st : MemoryStore) (job : Job) : Ticket × MemoryStore :=
  (st.nextTicket,
    { st with
      parked := st.parked ++ [(st.nextTicket, job)]
      nextTicket := ⟨st.nextTicket.serial + 1⟩ })

def submitRead (fd : Fd) (offset len : Nat) (st : MemoryStore) :
    Except Failure Ticket × MemoryStore :=
  match st.checkSubmit fd with
  | (.error f, st) => (.error f, st)
  | (.ok (), st) =>
    let st := st.count fun c => { c with aioReads := c.aioReads + 1 }
    let (ticket, st) := st.park (.read fd offset len)
    (.ok ticket, st)

def submitWrite (fd : Fd) (offset : Nat) (data : Bytes) (st : MemoryStore) :
    Except Failure Ticket × MemoryStore :=
  match st.checkSubmit fd with
  | (.error f, st) => (.error f, st)
  | (.ok (), st) =>
    let st := st.count fun c => { c with aioWrites := c.aioWrites + 1 }
    let (ticket, st) := st.park (.write fd offset data)
    (.ok ticket, st)

/-- Runs one transfer. -/
def perform (job : Job) (st : MemoryStore) : Completion × MemoryStore :=
  match job with
  | .read fd offset len =>
    let (r, st) := st.performRead fd offset len
    (.bytes r, st)
  | .write fd offset data =>
    let (r, st) := st.performWrite fd offset data true
    (.count r, st)

/-- Runs transfers in order, each followed by what its owner does then. -/
def performAll (react : Ticket → Completion → MemoryStore → MemoryStore)
    (jobs : List (Ticket × Job)) (st : MemoryStore) : MemoryStore :=
  jobs.foldl
    (fun st e =>
      let (c, st) := st.perform e.2
      react e.1 c st)
    st

/-- Runs all that is parked at this moment; what is handed in meanwhile stays
parked. The answer is how many ran. -/
def runParkedWith (react : Ticket → Completion → MemoryStore → MemoryStore)
    (st : MemoryStore) : Nat × MemoryStore :=
  (st.parked.length, performAll react st.parked { st with parked := [] })

/-- Keeps a completion for its owner. -/
def keep (ticket : Ticket) (c : Completion) (st : MemoryStore) : MemoryStore :=
  { st with finished := st.finished ++ [(ticket, c)] }

def runParked (st : MemoryStore) : Nat × MemoryStore := st.runParkedWith keep

/-- The completions kept for their owners, oldest first. -/
def takeFinished (st : MemoryStore) : List (Ticket × Completion) × MemoryStore :=
  (st.finished, { st with finished := [] })

/-- Runs the transfer of one ticket, which is none of the others' business. -/
def runOne (ticket : Ticket) (st : MemoryStore) : Option Completion × MemoryStore :=
  match st.parked.find? (·.1 = ticket) with
  | none => (none, st)
  | some (_, job) =>
    let (c, st) := { st with parked := st.parked.filter (·.1 ≠ ticket) }.perform job
    (some c, st)

/-- Waits for one ticket. Parked transfers run in order, so all that are
older run first. -/
def await (ticket : Ticket) (st : MemoryStore) : Option Completion × MemoryStore :=
  match st.delivery with
  | .threaded => st.runOne ticket
  | .deferred =>
    let st := st.runParked.2
    ((st.finished.find? (·.1 = ticket)).map (·.2),
      { st with finished := st.finished.filter (·.1 ≠ ticket) })

/-! ## The rest -/

def stat (fd : Fd) (st : MemoryStore) : Except Failure Nat × MemoryStore :=
  match st.handles.find? fd with
  | none => (.error (.badDescriptor .stating), st)
  | some h => (.ok (st.content h.object).size, st)

def sync (fd : Fd) (st : MemoryStore) : Except Failure Unit × MemoryStore :=
  let st := st.count fun c => { c with fsyncs := c.fsyncs + 1 }
  (if st.handles.contains fd then .ok () else .error (.badDescriptor .syncing), st)

def truncate (fd : Fd) (len : Nat) (st : MemoryStore) : Except Failure Unit × MemoryStore :=
  let st := st.count fun c => { c with truncates := c.truncates + 1 }
  match st.handles.find? fd with
  | none => (.error (.badDescriptor .truncating), st)
  | some h =>
    if h.access.write then
      (.ok (), st.setContent h.object ((st.content h.object).resize len))
    else (.error (.badDescriptor .truncating), st)

def statPath (path : String) (st : MemoryStore) : Except Failure Nat × MemoryStore :=
  match st.names.find? path with
  | none => (.error (.notFound path), st)
  | some o => (.ok (st.content o).size, st)

def truncatePath (path : String) (len : Nat) (st : MemoryStore) :
    Except Failure Unit × MemoryStore :=
  let st := st.count fun c => { c with truncates := c.truncates + 1 }
  match st.names.find? path with
  | none => (.error (.notFound path), st)
  | some o => (.ok (), st.setContent o ((st.content o).resize len))

/-- Takes a name away; handles keep its object. -/
def unlinkPath (path : String) (st : MemoryStore) : Except Failure Unit × MemoryStore :=
  if st.names.contains path then (.ok (), { st with names := st.names.erase path })
  else (.error (.notFound path), st)

def shown (st : MemoryStore) : String :=
  Record.render "MemoryStore"
    [ ("objects", toString st.names.size),
      ("open_fds", toString st.openFds),
      ("mode", st.delivery.name) ]

instance : ObjectStore MemoryStore where
  name := "memory"
  openPath := openPath
  close := close
  readAt := readAt
  writeAt := writeAt
  submitRead := submitRead
  submitWrite := submitWrite
  await := await
  stat := stat
  sync := sync
  truncate := truncate
  statPath := statPath
  truncatePath := truncatePath
  unlinkPath := unlinkPath

end MemoryStore

end StagedFiles
