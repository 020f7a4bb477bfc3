-- The settings of the layer, their defaults and their checks.
import StagedFiles.Grouping
import StagedFiles.Text.Letter

namespace StagedFiles

/-! ## The adapter -/

/-- How bytes go between a buffer and a store. -/
inductive AdapterKind where
  /-- Each transfer blocks its caller. -/
  | sync
  /-- Each transfer is handed in and completes later. -/
  | async
  deriving DecidableEq, Repr

namespace AdapterKind

def word : AdapterKind → String
  | .sync => "sync"
  | .async => "async"

/-- The name of the kind where a value is shown. -/
def name : AdapterKind → String
  | .sync => "Sync"
  | .async => "Async"

/-- The kind for a word, in letters of any case. -/
def ofWord (s : String) : Except Failure AdapterKind :=
  let word := Letter.lower s
  if word = "sync" then .ok .sync
  else if word = "async" ∨ word = "aio" then .ok .async
  else .error (.settings (.unknownAdapter word))

end AdapterKind

/-! ## The settings -/

structure Settings where
  /-- Files have a staging buffer. -/
  enabled : Bool := true
  bufferSize : Nat := 16 * 1024 * 1024
  adapter : AdapterKind := .async
  grouping : Grouping := .default
  /-- A blocking wait warns each time it passes this many milliseconds. -/
  waitWarnMs : Nat := 5000
  /-- A close waits this many milliseconds for the requests still out. -/
  closeWaitMs : Nat := 30000

/-- The first rule that the settings break, if any. -/
def Settings.check (s : Settings) : Except Failure Unit :=
  if s.bufferSize = 0 then .error (.invalidArgument .zeroBufferSize)
  else if s.waitWarnMs = 0 then .error (.settings .zeroWaitWarning)
  else s.grouping.check

end StagedFiles
