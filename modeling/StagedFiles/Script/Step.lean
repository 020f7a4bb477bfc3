-- Scripts: steps that work on files, stages and adapters held under names,
-- and on the store under them. A step answers with a value, and what can be
-- seen of the named holder afterwards is a view.
import StagedFiles.Shown

namespace StagedFiles.Script

/-! ## Actions -/

/-- How a file is made. -/
inductive FileKind where
  /-- As the front makes it. -/
  | front
  | raw
  | staged
  deriving DecidableEq, Repr

/-- What is made on a descriptor that is opened for it. -/
inductive OpenedKind where
  | stage
  | adapter
  deriving DecidableEq, Repr

/-- What a step asks of a named holder. -/
inductive Action where
  | openPath (path : String) (access : Access)
  | close
  | stat
  | sync
  | truncate (len : Nat)
  | read (offset len : Nat)
  /-- A file or stage writes the data; an adapter writes `len` bytes of its buffer. -/
  | write (offset : Nat) (data : Bytes) (len : Nat)
  | flush
  | readAio (offset len : Nat)
  | writeAio (offset : Nat) (data : Bytes)
  | readRaw (offset len : Nat)
  | readv (extents : List Extent)
  | submitRead (offset len : Nat)
  | submitWrite (offset len : Nat)
  /-- Lays data over the buffer of an adapter. -/
  | fill (place : Nat) (data : Bytes)
  | summary
  | shown
  | idle
  | kind
  /-- Something that no holder does. -/
  | unknown

/-! ## Answers -/

/-- What a step answers. -/
inductive Answer where
  | done
  | number (n : Nat)
  | descriptor (fd : Fd)
  | flag (b : Bool)
  | text (s : String)
  | content (bytes : Option Bytes)
  /-- Bytes with their count. -/
  | read (bytes : Bytes)
  /-- The count of all bytes, and each buffer of a vectored read whole. -/
  | buffers (n : Nat) (bytes : List Bytes)
  | summary (s : Option Summary)
  | settings (enabled : Bool) (bufferSize : Nat) (adapter : AdapterKind) (store : String)
  | stageKind (adapter : AdapterKind) (capacity : Nat)
  | submitted
  /-- Taken in, and the completion was lost. -/
  | lost
  | failed (f : Failure)
  /-- Nothing is held under the name. -/
  | noHolder
  /-- What is held there does not do this. -/
  | unsuited

def Answer.ofResult {α : Type} (answer : α → Answer) : Except Failure α → Answer
  | .ok x => answer x
  | .error f => .failed f

/-! ## Steps -/

/-- A step; `Own` holds the steps that only one kind of store knows. -/
inductive Step (Own : Type) where
  | newFile (holder : String) (kind : FileKind) (settings : Option Settings)
  | newOpened (holder : String) (kind : OpenedKind) (settings : Option Settings) (path : String)
      (access : Access)
  | drop (holder : String)
  | use (holder : String) (action : Action)
  | storeOpen (path : String) (access : Access)
  | storeClose (fd : Fd)
  | storeRead (fd : Fd) (offset len : Nat)
  | storeWrite (fd : Fd) (offset : Nat) (data : Bytes)
  | storeSubmitRead (fd : Fd) (offset len : Nat)
  | storeSubmitWrite (fd : Fd) (offset : Nat) (data : Bytes)
  | storeStat (fd : Fd)
  | storeSync (fd : Fd)
  | storeTruncate (fd : Fd) (len : Nat)
  | storeName
  | statPath (path : String)
  | truncatePath (path : String) (len : Nat)
  | unlinkPath (path : String)
  | frontShown
  | frontSettings
  | own (step : Own)
  /-- A step that is settled before it runs. -/
  | settled (answer : Answer)

/-- A line of a script: a step, and the name whose holder is shown after it. -/
structure Line (Own : Type) where
  step : Step Own
  watched : String

/-! ## Views -/

/-- The counters of a session. -/
structure SessionCounters where
  cache : CacheStats
  io : TwoWayTraffic
  deriving DecidableEq

/-- What can be seen of a holder. -/
inductive View where
  | raw (fd : Option Fd)
  | front (fd : Option Fd) (counters : Option SessionCounters)
  | staged (fd : Option Fd) (counters : Option SessionCounters) (outstanding : Nat)
      (state : Option CacheState)
  | adapter (fd : Fd) (io : TwoWayTraffic) (buffer : StagingBuffer)

/-- The byte in a buffer of the caller where nothing was read to. -/
def untouched : UInt8 := 0xEE

/-- The caller's buffer of an extent after a read of these bytes. -/
def callerBuffer (e : Extent) (bytes : Bytes) : Bytes :=
  bytes ++ List.replicate (e.len - bytes.length) untouched

end StagedFiles.Script
