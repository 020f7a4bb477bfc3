-- Copying bytes into an object, and reading the object back to compare. Both
-- go through a file of the front, chunk by chunk, with calls that wait or with
-- requests that are handed in and then waited for. Whatever happens, the file
-- is let go of at the end.
import StagedFiles.Front
import StagedFiles.Report

namespace StagedFiles

/-- Why a copy or a comparison stopped. -/
inductive CopyFault where
  | opening (dest : String) (why : Failure)
  | transfer (why : Failure)
  /-- The completion of a request was lost. -/
  | lost (direction : Direction)
  | shortWrite (offset taken wanted : Nat)
  | closing (dest : String) (why : Failure)
  | sizeMismatch (object source : Nat)
  | contentMismatch (offset stop : Nat)
  | endedEarly (offset wanted : Nat)
  deriving DecidableEq, Repr

/-- What is said of a request whose completion was lost. -/
def CopyFault.lostCause : String := "receiving on an empty and disconnected channel"

def CopyFault.chain : CopyFault → Chain
  | .opening dest why => .during s!"failed to open {dest}" why
  | .transfer why => .ofFailure why
  | .lost direction =>
    let word := direction.word
    ⟨s!"aio {word} completion dropped", [lostCause]⟩
  | .shortWrite offset taken wanted =>
    ⟨s!"short write at offset {offset}: {taken} of {wanted} bytes", []⟩
  | .closing dest why => .during s!"failed to close {dest}" why
  | .sizeMismatch object source =>
    ⟨s!"size mismatch: object has {object} bytes, source has {source}", []⟩
  | .contentMismatch offset stop => ⟨s!"content mismatch in [{offset}, {stop})", []⟩
  | .endedEarly offset wanted => ⟨s!"object ended after {offset} of {wanted} bytes", []⟩

/-- How a copy goes. -/
structure CopyPlan where
  dest : String
  /-- The size of a chunk; it is not 0. -/
  chunk : Nat
  /-- Requests are handed in. -/
  aio : Bool
  chunk_pos : 0 < chunk

namespace Copy

variable {σ : Type} [ObjectStore σ]

/-! ## One chunk -/

/-- Waits for a request that was taken. -/
def settle (f : ObjectFile) (direction : Direction) (started : Started Completion) (st : σ) :
    Except CopyFault Completion × ObjectFile × σ :=
  match started with
  | .finished c => (.ok c, f, st)
  | .submitted ticket =>
    match ObjectStore.await ticket st with
    | (some c, st) =>
      let (c, f) := f.complete c
      (.ok c, f, st)
    | (none, st) => (.error (.lost direction), f, st)

def countOf : Completion → Except CopyFault Nat
  | .count (.ok n) => .ok n
  | .bytes (.ok b) => .ok b.length
  | .count (.error e) | .bytes (.error e) => .error (.transfer e)

def bytesOf : Completion → Except CopyFault Bytes
  | .bytes (.ok b) => .ok b
  | .count (.ok _) => .ok []
  | .count (.error e) | .bytes (.error e) => .error (.transfer e)

def writeChunk (aio : Bool) (f : ObjectFile) (offset : Nat) (data : Bytes) (st : σ) :
    Except CopyFault Nat × ObjectFile × σ :=
  if aio then
    match f.writeAio offset data st with
    | (.error e, f, st) => (.error (.transfer e), f, st)
    | (.ok started, f, st) =>
      match settle f .write started st with
      | (.error e, f, st) => (.error e, f, st)
      | (.ok c, f, st) => (countOf c, f, st)
  else
    match f.write offset data st with
    | (.error e, f, st) => (.error (.transfer e), f, st)
    | (.ok n, f, st) => (.ok n, f, st)

def readChunk (aio : Bool) (f : ObjectFile) (offset len : Nat) (st : σ) :
    Except CopyFault Bytes × ObjectFile × σ :=
  if aio then
    match f.readAio offset len st with
    | (.error e, f, st) => (.error (.transfer e), f, st)
    | (.ok started, f, st) =>
      match settle f .read started st with
      | (.error e, f, st) => (.error e, f, st)
      | (.ok c, f, st) => (bytesOf c, f, st)
  else
    match f.read offset len st with
    | (.error e, f, st) => (.error (.transfer e), f, st)
    | (.ok b, f, st) => (.ok b, f, st)

/-! ## All chunks -/

/-- Writes the data at an offset, chunk by chunk. -/
def writeAll (plan : CopyPlan) (f : ObjectFile) (offset : Nat) (data : Bytes) (st : σ) :
    Except CopyFault Unit × ObjectFile × σ :=
  if _hd : data = [] then (.ok (), f, st)
  else
    let chunk := data.take plan.chunk
    match writeChunk plan.aio f offset chunk st with
    | (.error e, f, st) => (.error e, f, st)
    | (.ok n, f, st) =>
      if n ≠ chunk.length then (.error (.shortWrite offset n chunk.length), f, st)
      else writeAll plan f (offset + n) (data.drop plan.chunk) st
termination_by data.length
decreasing_by
  have := List.length_pos_iff.mpr _hd
  have := plan.chunk_pos
  rw [List.length_drop]
  omega

/-- Reads from an offset on, chunk by chunk, and compares with what is left of
the expected bytes there. The answer is where the object ended. -/
def compareFrom (plan : CopyPlan) (f : ObjectFile) (offset : Nat) (left : Bytes) (st : σ) :
    Except CopyFault Nat × ObjectFile × σ :=
  match readChunk plan.aio f offset plan.chunk st with
  | (.error e, f, st) => (.error e, f, st)
  | (.ok b, f, st) =>
    if _hb : b = [] then (.ok offset, f, st)
    else if _hl : b ≠ left.take b.length then
      (.error (.contentMismatch offset (offset + b.length)), f, st)
    else compareFrom plan f (offset + b.length) (left.drop b.length) st
termination_by left.length
decreasing_by
  have hb := List.length_pos_iff.mpr _hb
  have hl : b.length = (left.take b.length).length := by
    have := Decidable.not_not.mp _hl
    exact congrArg List.length this
  rw [List.length_take] at hl
  rw [List.length_drop]
  omega

/-! ## Whole files -/

/-- Lets go of a file when the work on it is over; work that came out well
leaves the summary of the file, if it keeps one. -/
def releasing (r : Except CopyFault Unit) (f : ObjectFile) (st : σ) :
    Except CopyFault (Option Summary) × σ :=
  let (_, st) := f.drop st
  match r with
  | .ok () => (.ok f.summary, st)
  | .error e => (.error e, st)

/-- Writes the data to the object, which is created or cut first. -/
def copyIn (front : Front) (plan : CopyPlan) (data : Bytes) (st : σ) :
    Except CopyFault (Option Summary) × σ :=
  match front.newFile.openPath plan.dest .createTruncate st with
  | (.error e, f, st) => releasing (.error (.opening plan.dest e)) f st
  | (.ok _, f, st) =>
    match writeAll plan f 0 data st with
    | (.error e, f, st) => releasing (.error e) f st
    | (.ok (), f, st) =>
      match f.close st with
      | (.error e, f, st) => releasing (.error (.closing plan.dest e)) f st
      | (.ok (), f, st) => releasing (.ok ()) f st

/-- Compares an open object with the expected bytes and closes it. -/
def compareOpen (plan : CopyPlan) (f : ObjectFile) (expected : Bytes) (st : σ) :
    Except CopyFault (Option Summary) × σ :=
  match compareFrom plan f 0 expected st with
  | (.error e, f, st) => releasing (.error e) f st
  | (.ok stop, f, st) =>
    if stop ≠ expected.length then releasing (.error (.endedEarly stop expected.length)) f st
    else
      match f.close st with
      | (.error e, f, st) => releasing (.error (.transfer e)) f st
      | (.ok (), f, st) => releasing (.ok ()) f st

/-- Compares the object with the expected bytes, its size first. -/
def verify (front : Front) (plan : CopyPlan) (expected : Bytes) (st : σ) :
    Except CopyFault (Option Summary) × σ :=
  match ObjectStore.statPath plan.dest st with
  | (.error e, st) => (.error (.transfer e), st)
  | (.ok size, st) =>
    if size ≠ expected.length then (.error (.sizeMismatch size expected.length), st)
    else
      match front.newFile.openPath plan.dest .readOnly st with
      | (.error e, f, st) => releasing (.error (.opening plan.dest e)) f st
      | (.ok _, f, st) => compareOpen plan f expected st

/-- Copies and, if asked to, compares. The answer holds the summaries of the
sessions that keep one, in order. -/
def run (front : Front) (plan : CopyPlan) (comparing : Bool) (data : Bytes) (st : σ) :
    Except CopyFault (List Summary) × σ :=
  match copyIn front plan data st with
  | (.error e, st) => (.error e, st)
  | (.ok first, st) =>
    if comparing then
      match verify front plan data st with
      | (.error e, st) => (.error e, st)
      | (.ok second, st) => (.ok (first.toList ++ second.toList), st)
    else (.ok first.toList, st)

end Copy

end StagedFiles
