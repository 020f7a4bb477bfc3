-- A store of files below a root directory. A transfer that was handed in
-- keeps the open file it was meant for, so it runs also after a close. Once
-- the workers are stopped, transfers are still taken in and never run.
import StagedFiles.Store.FileTree
import StagedFiles.Store.ObjectPath
import StagedFiles.Text.Record

namespace StagedFiles

/-- A transfer that was handed in, bound to its open file. -/
inductive FileJob where
  | read (file : OpenNode) (offset len : Nat)
  | write (file : OpenNode) (offset : Nat) (data : Bytes)

structure DirectoryStore where
  root : String
  tree : FileTree := {}
  files : Table Fd OpenNode := {}
  nextFd : Fd := .first
  /-- Transfers that are handed in find a worker. -/
  running : Bool := true
  parked : List (Ticket × FileJob) := []
  nextTicket : Ticket := ⟨0⟩

namespace DirectoryStore

def openFds (st : DirectoryStore) : Nat := st.files.size

/-- From now on no transfer that is handed in runs. -/
def stopWorkers (st : DirectoryStore) : DirectoryStore := { st with running := false }

/-- A path that leads nowhere is an object that is not there. -/
def missing (path : String) (e : SystemFault) : Failure :=
  if e = .errno Errno.noEntry then .notFound path else .system e

/-- The open file of a descriptor. -/
def file (st : DirectoryStore) (fd : Fd) (op : Operation) : Except Failure OpenNode :=
  match st.files.find? fd with
  | some f => .ok f
  | none => .error (.badDescriptor op)

/-! ## Open and close -/

/-- Makes the directories above a place that is to be created. -/
def prepare (st : DirectoryStore) (place : String) (a : Access) :
    Except SystemFault Unit × FileTree :=
  if a.create then st.tree.makeParents place else (.ok (), st.tree)

def openPath (path : String) (a : Access) (st : DirectoryStore) :
    Except Failure Fd × DirectoryStore :=
  match ObjectPath.resolve st.root path with
  | .error f => (.error f, st)
  | .ok place =>
    match st.prepare place a with
    | (.error e, tree) => (.error (.system e), { st with tree })
    | (.ok (), tree) =>
      let st := { st with tree }
      match tree.openPath place a with
      | .error e => (.error (missing path e), st)
      | .ok (f, tree) =>
        (.ok st.nextFd,
          { st with tree, files := st.files.insert st.nextFd f, nextFd := st.nextFd.next })

def close (fd : Fd) (st : DirectoryStore) : Except Failure Unit × DirectoryStore :=
  match st.file fd .closing with
  | .error f => (.error f, st)
  | .ok _ => (.ok (), { st with files := st.files.erase fd })

/-! ## Transfers -/

/-- What a transfer says when its calls ran out. -/
def gaveUp : SystemFault := .errno Errno.io

/-- Reads an open file as far as it goes. No call of a tree is interrupted,
so each one moves a byte or is the last. -/
def readFile (f : OpenNode) (offset len : Nat) (tree : FileTree) : Except Torn Bytes × FileTree :=
  match FullTransfer.read (FileTree.readAt f) (len + 1) offset len tree with
  | (some (.ok bytes), tree) => (.ok bytes, tree)
  | (some (.error b), tree) => (.error ⟨b.landed, .system b.why⟩, tree)
  | (none, tree) => (.error ⟨[], .system gaveUp⟩, tree)

/-- Writes all of the data to an open file. -/
def writeFile (f : OpenNode) (offset : Nat) (data : Bytes) (tree : FileTree) :
    Except Failure Nat × FileTree :=
  match FullTransfer.write (FileTree.writeAt f) (data.length + 1) offset data tree with
  | (some (.ok n), tree) => (.ok n, tree)
  | (some (.error e), tree) => (.error (.system e), tree)
  | (none, tree) => (.error (.system gaveUp), tree)

def readAt (fd : Fd) (offset len : Nat) (st : DirectoryStore) :
    Except Torn Bytes × DirectoryStore :=
  match st.file fd .reading with
  | .error f => (.error ⟨[], f⟩, st)
  | .ok f =>
    let (r, tree) := readFile f offset len st.tree
    (r, { st with tree })

def writeAt (fd : Fd) (offset : Nat) (data : Bytes) (st : DirectoryStore) :
    Except Failure Nat × DirectoryStore :=
  match st.file fd .writing with
  | .error f => (.error f, st)
  | .ok f =>
    let (r, tree) := writeFile f offset data st.tree
    (r, { st with tree })

/-! ## Transfers that are handed in -/

/-- Takes a transfer in for the next ticket; without workers it is lost. -/
def park (st : DirectoryStore) (job : FileJob) : Ticket × DirectoryStore :=
  (st.nextTicket,
    { st with
      parked := if st.running then st.parked ++ [(st.nextTicket, job)] else st.parked
      nextTicket := ⟨st.nextTicket.serial + 1⟩ })

def submitRead (fd : Fd) (offset len : Nat) (st : DirectoryStore) :
    Except Failure Ticket × DirectoryStore :=
  match st.file fd .submitting with
  | .error f => (.error f, st)
  | .ok f =>
    let (ticket, st) := st.park (.read f offset len)
    (.ok ticket, st)

def submitWrite (fd : Fd) (offset : Nat) (data : Bytes) (st : DirectoryStore) :
    Except Failure Ticket × DirectoryStore :=
  match st.file fd .submitting with
  | .error f => (.error f, st)
  | .ok f =>
    let (ticket, st) := st.park (.write f offset data)
    (.ok ticket, st)

/-- Runs one transfer. -/
def perform (job : FileJob) (st : DirectoryStore) : Completion × DirectoryStore :=
  match job with
  | .read f offset len =>
    match readFile f offset len st.tree with
    | (.ok bytes, tree) => (.bytes (.ok bytes), { st with tree })
    | (.error torn, tree) => (.bytes (.error torn.why), { st with tree })
  | .write f offset data =>
    let (r, tree) := writeFile f offset data st.tree
    (.count r, { st with tree })

/-- Waits for one ticket; there is nothing to wait for when it was lost. -/
def await (ticket : Ticket) (st : DirectoryStore) : Option Completion × DirectoryStore :=
  match st.parked.find? (·.1 = ticket) with
  | none => (none, st)
  | some (_, job) =>
    let (c, st) := { st with parked := st.parked.filter (·.1 ≠ ticket) }.perform job
    (some c, st)

/-! ## The rest -/

def stat (fd : Fd) (st : DirectoryStore) : Except Failure Nat × DirectoryStore :=
  match st.file fd .stating with
  | .error f => (.error f, st)
  | .ok f => (.ok (st.tree.size f.node), st)

def sync (fd : Fd) (st : DirectoryStore) : Except Failure Unit × DirectoryStore :=
  match st.file fd .syncing with
  | .error f => (.error f, st)
  | .ok _ => (.ok (), st)

/-- Cuts or extends an open file. -/
def setSize (f : OpenNode) (len : Nat) (st : DirectoryStore) :
    Except Failure Unit × DirectoryStore :=
  match FileTree.setSize f len st.tree with
  | .error e => (.error (.system e), st)
  | .ok tree => (.ok (), { st with tree })

def truncate (fd : Fd) (len : Nat) (st : DirectoryStore) : Except Failure Unit × DirectoryStore :=
  match st.file fd .truncating with
  | .error f => (.error f, st)
  | .ok f => st.setSize f len

def statPath (path : String) (st : DirectoryStore) : Except Failure Nat × DirectoryStore :=
  match ObjectPath.resolve st.root path with
  | .error f => (.error f, st)
  | .ok place =>
    match st.tree.find place with
    | .error e => (.error (missing path e), st)
    | .ok id => (.ok (st.tree.size id), st)

def truncatePath (path : String) (len : Nat) (st : DirectoryStore) :
    Except Failure Unit × DirectoryStore :=
  match ObjectPath.resolve st.root path with
  | .error f => (.error f, st)
  | .ok place =>
    match st.tree.openPath place { write := true } with
    | .error e => (.error (missing path e), st)
    | .ok (f, tree) => { st with tree }.setSize f len

def unlinkPath (path : String) (st : DirectoryStore) : Except Failure Unit × DirectoryStore :=
  match ObjectPath.resolve st.root path with
  | .error f => (.error f, st)
  | .ok place =>
    match st.tree.unlink place with
    | .error e => (.error (missing path e), st)
    | .ok tree => (.ok (), { st with tree })

def shown (st : DirectoryStore) : String :=
  Record.render "PosixStore"
    [ ("root", Letter.quote st.root),
      ("open_fds", toString st.openFds) ]

instance : ObjectStore DirectoryStore where
  name := "posix"
  openPath := openPath
  close := close
  readAt := readAt
  writeAt := writeAt
  submitRead := submitRead
  submitWrite := submitWrite
  await := await
  stat := stat
  sync := sync
  truncate := truncate
  statPath := statPath
  truncatePath := truncatePath
  unlinkPath := unlinkPath

end DirectoryStore

end StagedFiles
