-- Whole transfers from partial ones. A call of the operating system may move
-- fewer bytes than it was asked for, or be interrupted before it moves any.
-- A whole read goes on until it has all bytes or a call brings none, a whole
-- write until all bytes went. Each call is made where the last one stopped.
import StagedFiles.ObjectStore

namespace StagedFiles

/-- How one call came out. -/
inductive Attempt (α : Type) where
  | moved (x : α)
  | interrupted
  | failed (why : SystemFault)
  deriving DecidableEq, Repr

namespace FullTransfer

variable {τ : Type}

/-- A read that failed, with the bytes that had come by then. -/
structure Broken where
  landed : Bytes
  why : SystemFault
  deriving DecidableEq, Repr

/-- Reads `len` bytes at an offset with at most `calls` calls, behind the
bytes that came before. There is no answer when the calls run out. -/
def readFrom (call : Nat → Nat → τ → Attempt Bytes × τ) (calls offset len : Nat) (done : Bytes)
    (t : τ) : Option (Except Broken Bytes) × τ :=
  if len ≤ done.length then (some (.ok done), t)
  else
    match calls with
    | 0 => (none, t)
    | calls + 1 =>
      match call (offset + done.length) (len - done.length) t with
      | (.moved [], t) => (some (.ok done), t)
      | (.moved bytes, t) => readFrom call calls offset len (done ++ bytes) t
      | (.interrupted, t) => readFrom call calls offset len done t
      | (.failed why, t) => (some (.error ⟨done, why⟩), t)

/-- Reads `len` bytes at an offset, fewer when the file ends. -/
def read (call : Nat → Nat → τ → Attempt Bytes × τ) (calls offset len : Nat) (t : τ) :
    Option (Except Broken Bytes) × τ :=
  readFrom call calls offset len [] t

/-- Writes the data behind the `done` bytes that went before it. -/
def writeFrom (call : Nat → Bytes → τ → Attempt Nat × τ) (calls offset : Nat) (data : Bytes)
    (done : Nat) (t : τ) : Option (Except SystemFault Nat) × τ :=
  if data = [] then (some (.ok done), t)
  else
    match calls with
    | 0 => (none, t)
    | calls + 1 =>
      match call (offset + done) data t with
      | (.moved 0, t) => (some (.error .nothingWritten), t)
      | (.moved n, t) => writeFrom call calls offset (data.drop n) (done + n) t
      | (.interrupted, t) => writeFrom call calls offset data done t
      | (.failed why, t) => (some (.error why), t)

/-- Writes all of the data at an offset. -/
def write (call : Nat → Bytes → τ → Attempt Nat × τ) (calls offset : Nat) (data : Bytes) (t : τ) :
    Option (Except SystemFault Nat) × τ :=
  writeFrom call calls offset data 0 t

/-- Nothing to read takes no call. -/
theorem read_zero (call : Nat → Nat → τ → Attempt Bytes × τ) (calls offset : Nat) (t : τ) :
    read call calls offset 0 t = (some (.ok []), t) := by
  unfold read readFrom
  simp

/-- Nothing to write takes no call. -/
theorem write_nil (call : Nat → Bytes → τ → Attempt Nat × τ) (calls offset : Nat) (t : τ) :
    write call calls offset [] t = (some (.ok 0), t) := by
  unfold write writeFrom
  simp

end FullTransfer

end StagedFiles
