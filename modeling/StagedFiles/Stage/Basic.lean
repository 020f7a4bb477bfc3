-- The stage of one open file: its adapter, whether the buffer holds bytes the
-- store has not seen, the request that is out, and the counters.
import StagedFiles.Adapter
import StagedFiles.InFlight

namespace StagedFiles

/-! ## The state -/

/-- How well the image served. -/
structure CacheStats where
  hits : Counter := 0
  misses : Counter := 0
  flushes : Counter := 0
  flushedBytes : Counter := 0
  /-- Bytes handed to requests that completed. -/
  aioReadBytes : Counter := 0
  aioWriteBytes : Counter := 0
  deriving DecidableEq, Repr

/-- A request that was handed in. -/
inductive AioRequest where
  | read (offset len : Nat)
  | write (offset len : Nat)
  deriving DecidableEq, Repr

/-- What the buffer of a file holds, as seen from outside. -/
inductive CacheState where
  | idle | cached | writePending | aioInFlight
  deriving DecidableEq, Repr

def CacheState.word : CacheState → String
  | .idle => "idle"
  | .cached => "cached"
  | .writePending => "write-pending"
  | .aioInFlight => "aio-in-flight"

/-- The name of the state where a value is shown. -/
def CacheState.name : CacheState → String
  | .idle => "Idle"
  | .cached => "CachedValid"
  | .writePending => "WritePending"
  | .aioInFlight => "AioInFlight"

structure Stage where
  adapter : Adapter
  /-- The buffer holds writes that the store has not seen. -/
  dirty : Bool := false
  inflight : InFlight AioRequest := {}
  stats : CacheStats := {}

namespace Stage

def buffer (s : Stage) : StagingBuffer := s.adapter.buffer

def capacity (s : Stage) : Nat := s.adapter.buffer.capacity

def fd (s : Stage) : Fd := s.adapter.fd

/-- Requests that are out. -/
def outstanding (s : Stage) : Nat := s.inflight.count

def state (s : Stage) : CacheState :=
  if 0 < s.outstanding then .aioInFlight
  else if s.dirty then .writePending
  else if s.buffer.valid then .cached
  else .idle

/-- A stage over an open descriptor, as the settings ask. -/
def build (settings : Settings) (fd : Fd) : Except Failure Stage :=
  match StagingBuffer.ofCapacity settings.bufferSize with
  | .ok buffer => .ok { adapter := { kind := settings.adapter, fd, buffer } }
  | .error f => .error f

def withBuffer (s : Stage) (b : StagingBuffer) : Stage :=
  { s with adapter := { s.adapter with buffer := b } }

/-- Refuses while a request is out. -/
def checkIdle (s : Stage) : Except Failure Unit :=
  if s.outstanding = 0 then .ok () else .error (.inFlight s.fd s.outstanding)

/-! ## The counters -/

def countHit (s : Stage) : Stage := { s with stats := { s.stats with hits := s.stats.hits + 1 } }

def countMiss (s : Stage) : Stage :=
  { s with stats := { s.stats with misses := s.stats.misses + 1 } }

def countFlush (s : Stage) (n : Nat) : Stage :=
  { s with stats := { s.stats with
      flushes := s.stats.flushes + 1
      flushedBytes := Counter.plus s.stats.flushedBytes n } }

def countAioRead (s : Stage) (n : Nat) : Stage :=
  { s with stats := { s.stats with aioReadBytes := Counter.plus s.stats.aioReadBytes n } }

def countAioWrite (s : Stage) (n : Nat) : Stage :=
  { s with stats := { s.stats with aioWriteBytes := Counter.plus s.stats.aioWriteBytes n } }

end Stage

end StagedFiles
