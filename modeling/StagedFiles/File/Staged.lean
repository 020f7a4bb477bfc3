-- A file with a stage. Opening it opens the raw file first. Closing it writes
-- the staged bytes when the file was opened for writing, closes the raw file
-- in any case and keeps a summary. It refuses to close while a request is out.
-- A file without write access takes no writes, since it would never flush them.
import StagedFiles.File.Raw
import StagedFiles.Stage.Async

namespace StagedFiles

/-! ## Sessions and their summaries -/

/-- Bytes that went through the calls of a session that wait. -/
structure SessionBytes where
  read : Counter := 0
  readv : Counter := 0
  write : Counter := 0
  deriving DecidableEq, Repr

/-- A session, from an open to its close. -/
structure Session where
  fd : Fd
  path : String
  access : Access
  stage : Stage

/-- What a session did. -/
structure Summary where
  fd : Fd
  path : String
  adapter : AdapterKind
  bufferSize : Nat
  /-- The session is closed. -/
  ended : Bool
  bytes : SessionBytes
  cache : CacheStats
  io : TwoWayTraffic
  deriving DecidableEq

structure StagedFile where
  raw : RawFile
  settings : Settings
  session : Option Session := none
  bytes : SessionBytes := {}
  lastSummary : Option Summary := none

namespace StagedFile

variable {σ : Type} [ObjectStore σ]

def ofSettings (settings : Settings) : StagedFile :=
  { raw := { grouping := settings.grouping }, settings }

def fd (f : StagedFile) : Option Fd := f.session.map (·.fd)

def summarize (f : StagedFile) (s : Session) (ended : Bool) : Summary :=
  { fd := s.fd
    path := s.path
    adapter := s.stage.adapter.kind
    bufferSize := s.stage.capacity
    ended
    bytes := f.bytes
    cache := s.stage.stats
    io := s.stage.adapter.traffic }

/-- The summary of the open session, else of the last one. -/
def summary (f : StagedFile) : Option Summary :=
  match f.session with
  | some s => some (f.summarize s false)
  | none => f.lastSummary

def withStage (f : StagedFile) (s : Session) (stage : Stage) : StagedFile :=
  { f with session := some { s with stage } }

/-! ## Open and close -/

def openPath (f : StagedFile) (path : String) (access : Access) (st : σ) :
    Except Failure Fd × StagedFile × σ :=
  match f.session with
  | some s => (.error (.invalidArgument (.alreadyOpen s.fd)), f, st)
  | none =>
    match f.settings.check with
    | .error e => (.error e, f, st)
    | .ok () =>
      match f.raw.openPath path access st with
      | (.error e, raw, st) => (.error e, { f with raw }, st)
      | (.ok fd, raw, st) =>
        match Stage.build f.settings fd with
        | .error e =>
          let (_, raw, st) := raw.close st
          (.error e, { f with raw }, st)
        | .ok stage =>
          (.ok fd, { f with raw, session := some { fd, path, access, stage }, bytes := {} }, st)

/-- Closes the file. A flush that fails is reported in place of what the
raw close says. -/
def close (f : StagedFile) (st : σ) : Except Failure Unit × StagedFile × σ :=
  match f.session with
  | none => (.error .notOpen, f, st)
  | some s =>
    if s.stage.outstanding ≠ 0 then (.error (.inFlight s.fd s.stage.outstanding), f, st)
    else
      let (flushed, stage, st) : Except Failure Nat × Stage × σ :=
        if s.access.write then s.stage.flush st else (.ok 0, s.stage, st)
      let last := f.summarize { s with stage } true
      let (closed, raw, st) := f.raw.close st
      let f := { f with raw, session := none, lastSummary := some last }
      match flushed with
      | .error e => (.error (.flushOnClose s.fd e), f, st)
      | .ok _ => (closed, f, st)

/-- Lets go of the file. It is closed first, whatever comes of that, and then
its raw file is let go. -/
def drop (f : StagedFile) (st : σ) : StagedFile × σ :=
  let (_, f, st) := f.close st
  ({ f with raw := { f.raw with fd := none } }, f.raw.drop st)

/-! ## Calls through the stage -/

/-- The session, when the file is open. -/
def opened (f : StagedFile) : Except Failure Session :=
  match f.session with
  | some s => .ok s
  | none => .error .notOpen

/-- The session, when the file is open for writing. -/
def writable (f : StagedFile) : Except Failure Session :=
  match f.session with
  | some s => if s.access.write then .ok s else .error (.badDescriptor .writing)
  | none => .error .notOpen

def read (f : StagedFile) (offset len : Nat) (st : σ) : Except Failure Bytes × StagedFile × σ :=
  match f.opened with
  | .error e => (.error e, f, st)
  | .ok s =>
    match s.stage.read offset len st with
    | (.error e, stage, st) => (.error e, f.withStage s stage, st)
    | (.ok bytes, stage, st) =>
      let f := f.withStage s stage
      (.ok bytes, { f with bytes := { f.bytes with read := Counter.plus f.bytes.read bytes.length } },
        st)

def write (f : StagedFile) (offset : Nat) (data : Bytes) (st : σ) :
    Except Failure Nat × StagedFile × σ :=
  match f.writable with
  | .error e => (.error e, f, st)
  | .ok s =>
    match s.stage.write offset data st with
    | (.error e, stage, st) => (.error e, f.withStage s stage, st)
    | (.ok n, stage, st) =>
      let f := f.withStage s stage
      (.ok n, { f with bytes := { f.bytes with write := Counter.plus f.bytes.write n } }, st)

def flush (f : StagedFile) (st : σ) : Except Failure Nat × StagedFile × σ :=
  match f.opened with
  | .error e => (.error e, f, st)
  | .ok s =>
    let (r, stage, st) := s.stage.flush st
    (r, f.withStage s stage, st)

def readAio (f : StagedFile) (offset len : Nat) (st : σ) :
    Except Failure (Started Completion) × StagedFile × σ :=
  match f.opened with
  | .error e => (.error e, f, st)
  | .ok s =>
    let (r, stage, st) := s.stage.readAio offset len st
    (r, f.withStage s stage, st)

def writeAio (f : StagedFile) (offset : Nat) (data : Bytes) (st : σ) :
    Except Failure (Started Completion) × StagedFile × σ :=
  match f.writable with
  | .error e => (.error e, f, st)
  | .ok s =>
    let (r, stage, st) := s.stage.writeAio offset data st
    (r, f.withStage s stage, st)

/-- Takes a completion for the open session. -/
def complete (f : StagedFile) (c : Completion) : Completion × StagedFile :=
  match f.session with
  | none => (c, f)
  | some s =>
    let (c, stage) := s.stage.complete c
    (c, f.withStage s stage)

/-! ## Calls past the stage -/

/-- A call on the raw file, refused while the file is not open. -/
def pass {α : Type} (f : StagedFile) (call : RawFile → σ → Except Failure α × σ) (st : σ) :
    Except Failure α × StagedFile × σ :=
  match f.session with
  | none => (.error .notOpen, f, st)
  | some _ =>
    let (r, st) := call f.raw st
    (r, f, st)

def readv (f : StagedFile) (extents : List Extent) (st : σ) :
    Except Failure (List Bytes) × StagedFile × σ :=
  match f.pass (fun raw st => raw.readv extents st) st with
  | (.error e, f, st) => (.error e, f, st)
  | (.ok pieces, f, st) =>
    let n := pieces.flatten.length
    (.ok pieces, { f with bytes := { f.bytes with readv := Counter.plus f.bytes.readv n } }, st)

end StagedFile

end StagedFiles
