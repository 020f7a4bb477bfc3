-- A file whose every call goes straight to the store. A vectored read is
-- served group by group, each with one read over its span when that is short
-- enough; each buffer then gets the bytes a read of its own would have brought.
import StagedFiles.Grouping
import StagedFiles.ObjectStore

namespace StagedFiles

structure RawFile where
  grouping : Grouping
  fd : Option Fd := none

namespace RawFile

variable {σ : Type} [ObjectStore σ]

/-- The greatest span of a group that is read with one call. -/
def maxGroupSpan : Nat := Grouping.defaultMaxSpan

def requireFd (f : RawFile) : Except Failure Fd :=
  match f.fd with
  | some fd => .ok fd
  | none => .error .notOpen

/-! ## Open and close -/

def openPath (f : RawFile) (path : String) (access : Access) (st : σ) :
    Except Failure Fd × RawFile × σ :=
  match f.fd with
  | some fd => (.error (.invalidArgument (.alreadyOpen fd)), f, st)
  | none =>
    match ObjectStore.openPath path access st with
    | (.ok fd, st) => (.ok fd, { f with fd := some fd }, st)
    | (.error e, st) => (.error e, f, st)

def close (f : RawFile) (st : σ) : Except Failure Unit × RawFile × σ :=
  match f.fd with
  | none => (.error .notOpen, f, st)
  | some fd =>
    let (r, st) := ObjectStore.close fd st
    (r, { f with fd := none }, st)

/-- Lets go of the file; a descriptor still open is closed. -/
def drop (f : RawFile) (st : σ) : σ :=
  match f.fd with
  | none => st
  | some fd => (ObjectStore.close fd st).2

/-! ## Single transfers -/

/-- The descriptor, when the file is open and the range ends at an offset. -/
def checked (f : RawFile) (offset len : Nat) : Except Failure Fd :=
  match f.requireFd, Offset.rangeEnd offset len with
  | .error e, _ => .error e
  | .ok _, .error e => .error e
  | .ok fd, .ok _ => .ok fd

def read (f : RawFile) (offset len : Nat) (st : σ) : Except Failure Bytes × σ :=
  match f.checked offset len with
  | .error e => (.error e, st)
  | .ok fd =>
    match ObjectStore.readAt fd offset len st with
    | (.ok bytes, st) => (.ok bytes, st)
    | (.error torn, st) => (.error torn.why, st)

def write (f : RawFile) (offset : Nat) (data : Bytes) (st : σ) : Except Failure Nat × σ :=
  match f.checked offset data.length with
  | .error e => (.error e, st)
  | .ok fd => ObjectStore.writeAt fd offset data st

def readAio (f : RawFile) (offset len : Nat) (st : σ) :
    Except Failure (Started Completion) × σ :=
  match f.checked offset len with
  | .error e => (.error e, st)
  | .ok fd =>
    match ObjectStore.submitRead fd offset len st with
    | (.ok ticket, st) => (.ok (.submitted ticket), st)
    | (.error e, st) => (.error e, st)

def writeAio (f : RawFile) (offset : Nat) (data : Bytes) (st : σ) :
    Except Failure (Started Completion) × σ :=
  match f.checked offset data.length with
  | .error e => (.error e, st)
  | .ok fd =>
    match ObjectStore.submitWrite fd offset data st with
    | (.ok ticket, st) => (.ok (.submitted ticket), st)
    | (.error e, st) => (.error e, st)

/-! ## Vectored reads -/

/-- Each extent with a read of its own; an empty one asks for nothing. -/
def readEach (fd : Fd) (st : σ) : List Extent → Except Failure (List Bytes) × σ
  | [] => (.ok [], st)
  | e :: es =>
    let here : Except Failure Bytes × σ :=
      if e.len = 0 then (.ok [], st)
      else
        match ObjectStore.readAt fd e.start e.len st with
        | (.ok bytes, st) => (.ok bytes, st)
        | (.error torn, st) => (.error torn.why, st)
    match here with
    | (.error f, st) => (.error f, st)
    | (.ok bytes, st) =>
      match readEach fd st es with
      | (.error f, st) => (.error f, st)
      | (.ok rest, st) => (.ok (bytes :: rest), st)

/-- What one read over the span holds for each extent. -/
def scatter (low : Nat) (bytes : Bytes) (group : List Extent) : List Bytes :=
  group.map fun e => Bytes.slice bytes (e.start - low) e.len

/-- One group, with one read over its span or, past the greatest span, with a
read for each extent. -/
def readGroup (fd : Fd) (group : List Extent) (st : σ) : Except Failure (List Bytes) × σ :=
  let low := Extent.lowest group
  let span := Extent.span group
  if maxGroupSpan < span then readEach fd st group
  else if span = 0 then (.ok (scatter low [] group), st)
  else
    match ObjectStore.readAt fd low span st with
    | (.ok bytes, st) => (.ok (scatter low bytes group), st)
    | (.error torn, st) => (.error torn.why, st)

/-- All groups in order. -/
def readGroups (fd : Fd) (st : σ) : List (List Extent) → Except Failure (List Bytes) × σ
  | [] => (.ok [], st)
  | group :: groups =>
    match readGroup fd group st with
    | (.error f, st) => (.error f, st)
    | (.ok bytes, st) =>
      match readGroups fd st groups with
      | (.error f, st) => (.error f, st)
      | (.ok rest, st) => (.ok (bytes ++ rest), st)

/-- The first extent that ends past the last offset refuses the whole read. -/
def checkExtents : List Extent → Except Failure Unit
  | [] => .ok ()
  | e :: es =>
    match Offset.rangeEnd e.start e.len with
    | .error f => .error f
    | .ok _ => checkExtents es

/-- What each extent gets, in the order they came. -/
def readv (f : RawFile) (extents : List Extent) (st : σ) : Except Failure (List Bytes) × σ :=
  match f.requireFd, checkExtents extents with
  | .error e, _ => (.error e, st)
  | .ok _, .error e => (.error e, st)
  | .ok fd, .ok () => readGroups fd st (f.grouping.groups extents)

/-! ## The rest passes through -/

def stat (f : RawFile) (st : σ) : Except Failure Nat × σ :=
  match f.requireFd with
  | .error e => (.error e, st)
  | .ok fd => ObjectStore.stat fd st

def sync (f : RawFile) (st : σ) : Except Failure Unit × σ :=
  match f.requireFd with
  | .error e => (.error e, st)
  | .ok fd => ObjectStore.sync fd st

def truncate (f : RawFile) (len : Nat) (st : σ) : Except Failure Unit × σ :=
  match f.requireFd with
  | .error e => (.error e, st)
  | .ok fd => ObjectStore.truncate fd len st

end RawFile

end StagedFiles
