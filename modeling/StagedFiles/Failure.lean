-- What can go wrong, as causes. `Failure.message` is the one place with the
-- wording, `Failure.errno` the one place with the numbers.
import StagedFiles.Descriptor
import StagedFiles.Errno
import StagedFiles.Text.Decimal

namespace StagedFiles

/-! ## The causes -/

/-- A request that no state of the file could serve. -/
inductive ArgumentFault where
  | pastLastOffset (len offset : Nat)
  | zeroCapacity
  | lengthBeyond (len capacity : Nat)
  | requestBeyond (count capacity : Nat)
  | zeroBufferSize
  | alreadyOpen (fd : Fd)
  | escapesRoot (path : String)
  | stated (text : String)
  deriving DecidableEq, Repr

/-- A setting that is out of range or cannot be read. A density is kept as
its bits. -/
inductive SettingsFault where
  | zeroWaitWarning
  | zeroMaxSpan
  | spansCrossed (minSpan maxSpan : Nat)
  | densityOutside (bits : UInt64)
  | unknownAdapter (word : String)
  | unreadable (path why : String)
  | malformed
  | stated (text : String)
  deriving DecidableEq, Repr

/-- A refusal of the operating system, or a call that never reached it. -/
inductive SystemFault where
  | errno (number : Int)
  | nulInName
  | lengthTooLarge
  | createNeedsWrite
  | noAccessAsked
  | nothingWritten
  | stated (text : String)
  deriving DecidableEq, Repr

/-- A broken promise between two parts of the library. -/
inductive InternalFault where
  | completionDropped (direction : Direction) (fd : Fd)
  | stated (text : String)
  deriving DecidableEq, Repr

/-- Why a call failed. -/
inductive Failure where
  | system (why : SystemFault)
  | invalidArgument (why : ArgumentFault)
  | transport (op : Operation) (errno : Int)
  | flushOnClose (fd : Fd) (source : Failure)
  | inFlight (fd : Fd) (outstanding : Nat)
  | notOpen
  | notFound (path : String)
  | settings (why : SettingsFault)
  | internal (why : InternalFault)
  deriving DecidableEq, Repr

/-! ## The wording -/

def ArgumentFault.text : ArgumentFault → String
  | .pastLastOffset len offset => s!"{len} bytes at offset {offset} overflow the file offset"
  | .zeroCapacity => "buffer capacity must be non-zero"
  | .lengthBeyond len capacity => s!"length {len} exceeds buffer capacity {capacity}"
  | .requestBeyond count capacity => s!"request of {count} bytes exceeds buffer capacity {capacity}"
  | .zeroBufferSize => "buffer_size must be > 0"
  | .alreadyOpen fd => s!"file already open as fd {fd.text}"
  | .escapesRoot path => s!"object path escapes store root: {path}"
  | .stated text => text

def SettingsFault.text : SettingsFault → String
  | .zeroWaitWarning => "aio_wait_warn_ms must be > 0"
  | .zeroMaxSpan => "readv max_span must be > 0"
  | .spansCrossed lo hi => s!"readv min_span {lo} exceeds max_span {hi}"
  | .densityOutside bits =>
    let density := Decimal.plain.render (Float.ofBits bits)
    s!"readv min_density {density} outside [0, 1]"
  | .unknownAdapter word => s!"unknown adapter: {word}"
  | .unreadable path why => s!"failed to read {path}: {why}"
  | .malformed => "malformed document"
  | .stated text => text

def SystemFault.text : SystemFault → String
  | .errno n =>
    let what := Errno.text n
    s!"{what} (os error {n})"
  | .nulInName => "file name contained an unexpected NUL byte"
  | .lengthTooLarge => "number too large to fit in target type"
  | .createNeedsWrite => "creating or truncating a file requires write or append access"
  | .noAccessAsked => "must specify at least one of read, write, or append access"
  | .nothingWritten => "failed to write whole buffer"
  | .stated text => text

def InternalFault.text : InternalFault → String
  | .completionDropped direction fd =>
    let word := direction.word
    let number := fd.text
    s!"completion for aio {word} on fd {number} dropped without result"
  | .stated text => text

namespace Failure

/-- The text of a failure. -/
def message : Failure → String
  | .system why => "I/O error: " ++ why.text
  | .invalidArgument why => "Invalid argument: " ++ why.text
  | .transport op errno =>
    let word := op.word
    s!"Transport {word} failed with errno {errno}"
  | .flushOnClose fd source => "Flush on close failed for fd " ++ fd.text ++ ": " ++ source.message
  | .inFlight fd outstanding =>
    let number := fd.text
    s!"Asynchronous I/O still in flight on fd {number} ({outstanding} outstanding)"
  | .notOpen => "File is not open"
  | .notFound path => "Object not found: " ++ path
  | .settings why => "Configuration error: " ++ why.text
  | .internal why => "Internal error: " ++ why.text

/-- The negative error number a failure stands for. -/
def errno : Failure → Int
  | .system (.errno n) => -(n.natAbs : Int)
  | .system _ => -Errno.io
  | .invalidArgument _ | .settings _ => -Errno.invalid
  | .transport _ errno => errno
  | .flushOnClose _ source => source.errno
  | .inFlight _ _ => -Errno.busy
  | .notOpen => -Errno.badDescriptor
  | .notFound _ => -Errno.noEntry
  | .internal _ => -Errno.io

def isInvalidArgument (f : Failure) : Bool := f.errno = -Errno.invalid

/-- The texts of the causes under a failure, nearest first. -/
def causes : Failure → List String
  | .system why => [why.text]
  | .flushOnClose _ source => source.message :: source.causes
  | _ => []

/-- A refusal by a store, from an error number of either sign. -/
def refused (op : Operation) (errno : Int) : Failure := .transport op (-(errno.natAbs : Int))

/-- A refusal because the descriptor is not open, or not for this use. -/
def badDescriptor (op : Operation) : Failure := refused op Errno.badDescriptor

@[simp] theorem errno_refused (op : Operation) (n : Int) :
    (refused op n).errno = -(n.natAbs : Int) := rfl

@[simp] theorem errno_flushOnClose (fd : Fd) (f : Failure) : (flushOnClose fd f).errno = f.errno := rfl

end Failure

end StagedFiles
