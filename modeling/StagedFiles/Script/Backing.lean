-- The stores a script runs over: a store in memory behind limits, and a
-- directory. Each knows steps of its own, and what to show after a step.
import StagedFiles.Script.Step
import StagedFiles.Store.Directory
import StagedFiles.Store.Memory
import StagedFiles.Store.Throttled

namespace StagedFiles.Script

/-- A store that scripts run over. -/
class Backing (σ : Type) extends ObjectStore σ where
  /-- The steps that only this store knows. -/
  Own : Type
  perform : Own → σ → Answer × σ
  /-- The completions that came while others were waited for, oldest first. -/
  takeFinished : σ → List (Ticket × Completion) × σ
  /-- Runs all that is parked. -/
  runParked : σ → σ
  /-- Completions come without being asked for, so each step waits for its own. -/
  prompt : σ → Bool
  /-- What to show of the store after a step, next to how it was before. -/
  View : Type
  view : σ → σ → View

/-! ## In memory -/

inductive MemoryStep where
  | runParked
  | shown
  | insert (path : String) (data : Bytes)
  | object (path : String)
  | failNext (point : FaultPoint) (n : Nat) (errno : Int)
  | limit (limits : Limits)

structure MemoryView where
  counts : CallCounts
  openFds : Nat
  parked : Nat
  /-- The writes of the step. -/
  writes : List WriteRecord

def performMemory (step : MemoryStep) (t : Throttled MemoryStore) :
    Answer × Throttled MemoryStore :=
  match step with
  | .runParked =>
    let (n, t) := t.pass MemoryStore.runParked
    (.number n, t)
  | .shown => (.text t.inner.shown, t)
  | .insert path data => (.done, { t with inner := t.inner.insert path data })
  | .object path => (.content (t.inner.object? path), t)
  | .failNext point n errno => (.done, { t with inner := t.inner.failNext point n errno })
  | .limit limits => (.done, { t with limits })

instance : Backing (Throttled MemoryStore) where
  Own := MemoryStep
  perform := performMemory
  takeFinished := Throttled.pass MemoryStore.takeFinished
  runParked t := (t.pass MemoryStore.runParked).2
  prompt t := t.inner.delivery = .threaded
  View := MemoryView
  view before after :=
    { counts := after.inner.counts
      openFds := after.inner.openFds
      parked := after.inner.parked.length
      writes := after.inner.log.drop before.inner.log.length }

/-! ## Below a directory -/

inductive DirectoryStep where
  | stopWorkers

def performDirectory (step : DirectoryStep) (st : DirectoryStore) : Answer × DirectoryStore :=
  match step with
  | .stopWorkers => (.done, st.stopWorkers)

instance : Backing DirectoryStore where
  Own := DirectoryStep
  perform := performDirectory
  takeFinished st := ([], st)
  runParked st := st
  prompt _ := true
  View := Unit
  view _ _ := ()

end StagedFiles.Script
