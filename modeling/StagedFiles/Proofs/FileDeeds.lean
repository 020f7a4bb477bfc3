-- What is done with a file by whoever has it, from one open to the next, and what is
-- heard and seen of it then. Without the numbers of descriptors and tickets, answers
-- and summaries tell nothing of the other files of the store.
import StagedFiles.Proofs.FileSession

namespace StagedFiles

/-! ## Without numbers -/

/-- The failure with the first number in place of any descriptor. -/
def Failure.unnumbered : Failure → Failure
  | .invalidArgument (.alreadyOpen _) => .invalidArgument (.alreadyOpen .first)
  | .flushOnClose _ source => .flushOnClose .first source.unnumbered
  | .inFlight _ outstanding => .inFlight .first outstanding
  | .internal (.completionDropped direction _) => .internal (.completionDropped direction .first)
  | f => f

def Completion.unnumbered : Completion → Completion
  | .bytes r => .bytes (r.mapError Failure.unnumbered)
  | .count r => .count (r.mapError Failure.unnumbered)

def Started.unnumbered : Started Completion → Started Completion
  | .finished c => .finished c.unnumbered
  | .submitted _ => .submitted ⟨0⟩

def Reply.unnumbered : Reply → Reply
  | .bytes r => .bytes (r.mapError Failure.unnumbered)
  | .count r => .count (r.mapError Failure.unnumbered)
  | .started r => .started ((r.mapError Failure.unnumbered).map Started.unnumbered)
  | .completed c => .completed c.unnumbered
  | .nothing => .nothing

def Summary.unnumbered (m : Summary) : Summary := { m with fd := .first }

/-! ## Deeds and sights -/

/-- What is done with a file. -/
inductive Deed where
  | openPath (access : Access)
  /-- Through the stage. -/
  | ask (act : Act)
  | readv (extents : List Extent)
  | truncate (len : Nat)
  | close

/-- It goes past the stage of an open file. -/
def Deed.passes : Deed → Bool
  | .readv _ => true
  | .truncate _ => true
  | _ => false

/-- What is heard. -/
inductive Heard where
  | opened (r : Except Failure Fd)
  | replied (reply : Reply)
  | pieces (r : Except Failure (List Bytes))
  | done (r : Except Failure Unit)

def Heard.unnumbered : Heard → Heard
  | .opened r => .opened ((r.mapError Failure.unnumbered).map fun _ => .first)
  | .replied reply => .replied reply.unnumbered
  | .pieces r => .pieces (r.mapError Failure.unnumbered)
  | .done r => .done (r.mapError Failure.unnumbered)

/-- What is heard, and what is seen of the file then. -/
structure Sight where
  heard : Heard
  /-- The state of the stage, when the file is open. -/
  state : Option CacheState
  summary : Option Summary

namespace FileClient

variable {σ : Type} [ObjectStore σ]

/-- What a caller of the stage hears. -/
def hear (c : FileClient σ) : Act → Reply
  | .read offset len => .bytes (c.file.read offset len c.store).1
  | .write offset data => .count (c.file.write offset data c.store).1
  | .flush => .count (c.file.flush c.store).1
  | .readAio offset len => .started (c.file.readAio offset len c.store).1
  | .writeAio offset data => .started (c.file.writeAio offset data c.store).1
  | .deliver =>
    match c.due with
    | none => .nothing
    | some (ticket, _) =>
      match (ObjectStore.await ticket c.store).1 with
      | some done => .completed (c.file.complete done).1
      | none => .nothing

/-- A deed on a file that has this path. -/
def does (c : FileClient σ) (path : String) : Deed → Heard × FileClient σ
  | .openPath access =>
    let (r, file, store) := c.file.openPath path access c.store
    (.opened r, { c with file, store })
  | .ask act => (.replied (c.hear act), c.ask act)
  | .readv extents =>
    let (r, file, store) := c.file.readv extents c.store
    (.pieces r, { c with file, store })
  | .truncate len =>
    let (r, file, store) := c.file.pass (fun raw st => raw.truncate len st) c.store
    (.done r, { c with file, store })
  | .close =>
    let (r, file, store) := c.file.close c.store
    (.done r, { c with file, store })

/-- What is heard and seen, without numbers. -/
def sight (c : FileClient σ) (heard : Heard) : Sight :=
  { heard := heard.unnumbered
    state := c.file.session.map (·.stage.state)
    summary := c.file.summary.map Summary.unnumbered }

end FileClient

end StagedFiles
