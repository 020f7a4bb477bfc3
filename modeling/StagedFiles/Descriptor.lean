-- Descriptors, the access a descriptor was opened with, and the calls a
-- store can refuse.

namespace StagedFiles

/-- The number a store gives to an open object. -/
structure Fd where
  number : Int
  deriving DecidableEq, Repr

namespace Fd

/-- The first number given out; 0, 1 and 2 stay with the standard streams. -/
def first : Fd := ⟨3⟩

def next (fd : Fd) : Fd := ⟨fd.number + 1⟩

def text (fd : Fd) : String := toString fd.number

end Fd

/-- The kinds of calls to a store. -/
inductive Operation where
  | opening | closing | reading | writing | submitting | syncing | truncating | stating | unlinking
  deriving DecidableEq, Repr

/-- The word for a call in the text of a failure. -/
def Operation.word : Operation → String
  | .opening => "open"
  | .closing => "close"
  | .reading => "read"
  | .writing => "write"
  | .submitting => "aio-submit"
  | .syncing => "fsync"
  | .truncating => "truncate"
  | .stating => "stat"
  | .unlinking => "unlink"

/-- What an open asks for. -/
structure Access where
  read : Bool := false
  write : Bool := false
  create : Bool := false
  truncate : Bool := false
  deriving DecidableEq, Repr

namespace Access

def readOnly : Access := { read := true }

def readWrite : Access := { read := true, write := true }

/-- Write a new object, or an old one from its start. -/
def createTruncate : Access := { write := true, create := true, truncate := true }

end Access

/-- The way bytes go between a buffer and a store. -/
inductive Direction where
  | read | write
  deriving DecidableEq, Repr

def Direction.word : Direction → String
  | .read => "read"
  | .write => "write"

end StagedFiles
