-- A file over a store: raw, or with a stage. The two answer the same calls,
-- and a caller that holds one need not know which it is.
import StagedFiles.File.Staged

namespace StagedFiles

inductive ObjectFile where
  | raw (file : RawFile)
  | staged (file : StagedFile)

namespace ObjectFile

variable {σ : Type} [ObjectStore σ]

/-- A new file, not open, as the settings ask. -/
def ofSettings (settings : Settings) : ObjectFile :=
  if settings.enabled then .staged (StagedFile.ofSettings settings)
  else .raw { grouping := settings.grouping }

def fd : ObjectFile → Option Fd
  | .raw f => f.fd
  | .staged f => f.fd

/-- The summary of the open session, else of the last one; a raw file keeps none. -/
def summary : ObjectFile → Option Summary
  | .raw _ => none
  | .staged f => f.summary

/-- The stage of the open session. -/
def stage? : ObjectFile → Option Stage
  | .raw _ => none
  | .staged f => f.session.map (·.stage)

/-! ## The calls -/

def openPath (f : ObjectFile) (path : String) (access : Access) (st : σ) :
    Except Failure Fd × ObjectFile × σ :=
  match f with
  | .raw f => let (r, f, st) := f.openPath path access st; (r, .raw f, st)
  | .staged f => let (r, f, st) := f.openPath path access st; (r, .staged f, st)

def close (f : ObjectFile) (st : σ) : Except Failure Unit × ObjectFile × σ :=
  match f with
  | .raw f => let (r, f, st) := f.close st; (r, .raw f, st)
  | .staged f => let (r, f, st) := f.close st; (r, .staged f, st)

/-- Lets go of the file; one that is open closes itself. -/
def drop (f : ObjectFile) (st : σ) : ObjectFile × σ :=
  match f with
  | .raw f => (.raw { f with fd := none }, f.drop st)
  | .staged f => let (f, st) := f.drop st; (.staged f, st)

def read (f : ObjectFile) (offset len : Nat) (st : σ) : Except Failure Bytes × ObjectFile × σ :=
  match f with
  | .raw f => let (r, st) := f.read offset len st; (r, .raw f, st)
  | .staged f => let (r, f, st) := f.read offset len st; (r, .staged f, st)

def write (f : ObjectFile) (offset : Nat) (data : Bytes) (st : σ) :
    Except Failure Nat × ObjectFile × σ :=
  match f with
  | .raw f => let (r, st) := f.write offset data st; (r, .raw f, st)
  | .staged f => let (r, f, st) := f.write offset data st; (r, .staged f, st)

def readAio (f : ObjectFile) (offset len : Nat) (st : σ) :
    Except Failure (Started Completion) × ObjectFile × σ :=
  match f with
  | .raw f => let (r, st) := f.readAio offset len st; (r, .raw f, st)
  | .staged f => let (r, f, st) := f.readAio offset len st; (r, .staged f, st)

def writeAio (f : ObjectFile) (offset : Nat) (data : Bytes) (st : σ) :
    Except Failure (Started Completion) × ObjectFile × σ :=
  match f with
  | .raw f => let (r, st) := f.writeAio offset data st; (r, .raw f, st)
  | .staged f => let (r, f, st) := f.writeAio offset data st; (r, .staged f, st)

/-- Takes the completion of a request that is out. -/
def complete (f : ObjectFile) (c : Completion) : Completion × ObjectFile :=
  match f with
  | .raw f => (c, .raw f)
  | .staged f => let (c, f) := f.complete c; (c, .staged f)

/-- A read past any stage. -/
def readRaw (f : ObjectFile) (offset len : Nat) (st : σ) :
    Except Failure Bytes × ObjectFile × σ :=
  match f with
  | .raw f => let (r, st) := f.read offset len st; (r, .raw f, st)
  | .staged f => let (r, f, st) := f.pass (fun raw st => raw.read offset len st) st; (r, .staged f, st)

/-- The bytes for each extent, in the order they came. -/
def readv (f : ObjectFile) (extents : List Extent) (st : σ) :
    Except Failure (List Bytes) × ObjectFile × σ :=
  match f with
  | .raw f => let (r, st) := f.readv extents st; (r, .raw f, st)
  | .staged f => let (r, f, st) := f.readv extents st; (r, .staged f, st)

def stat (f : ObjectFile) (st : σ) : Except Failure Nat × ObjectFile × σ :=
  match f with
  | .raw f => let (r, st) := f.stat st; (r, .raw f, st)
  | .staged f => let (r, f, st) := f.pass (fun raw st => raw.stat st) st; (r, .staged f, st)

def sync (f : ObjectFile) (st : σ) : Except Failure Unit × ObjectFile × σ :=
  match f with
  | .raw f => let (r, st) := f.sync st; (r, .raw f, st)
  | .staged f => let (r, f, st) := f.pass (fun raw st => raw.sync st) st; (r, .staged f, st)

def truncate (f : ObjectFile) (len : Nat) (st : σ) : Except Failure Unit × ObjectFile × σ :=
  match f with
  | .raw f => let (r, st) := f.truncate len st; (r, .raw f, st)
  | .staged f => let (r, f, st) := f.pass (fun raw st => raw.truncate len st) st; (r, .staged f, st)

end ObjectFile

end StagedFiles
