-- The state of a running script: what is held, under which names, and who
-- waits for which completion. A holder that was let go of stays as long as it
-- may be waited for, so a late completion still finds its owner.
import StagedFiles.Script.Backing

namespace StagedFiles.Script

/-- What is held. -/
inductive Held where
  | file (kind : FileKind) (file : ObjectFile)
  | stage (stage : Stage)
  | adapter (adapter : Adapter)

/-- Who gets a completion. -/
inductive Owner where
  /-- The caller alone. -/
  | caller
  /-- A file or stage. -/
  | holder (id : Nat)
  /-- An adapter, for a transfer of `count` bytes at an offset. -/
  | adapter (id : Nat) (offset count : Nat)

structure State (σ : Type) where
  front : Front
  store : σ
  held : Table Nat Held := {}
  names : Table String Nat := {}
  nextId : Nat := 0
  /-- Who waits for a ticket, and the step that handed it in. -/
  waiting : Table Ticket (Nat × Owner) := {}
  /-- The completions of this step, oldest first, each with the step that
  handed it in. -/
  completed : List (Nat × Completion) := []
  /-- The number of this step. -/
  step : Nat := 0

namespace State

variable {σ : Type}

def holder? (s : State σ) (name : String) : Option (Nat × Held) := do
  let id ← s.names.find? name
  let h ← s.held.find? id
  pure (id, h)

def put (s : State σ) (id : Nat) (h : Held) : State σ := { s with held := s.held.insert id h }

/-- Holds something new under a name. What was held there is not let go of here. -/
def hold (s : State σ) (name : String) (h : Held) : State σ :=
  { s with
    held := s.held.insert s.nextId h
    names := s.names.insert name s.nextId
    nextId := s.nextId + 1 }

/-! ## Completions -/

def complete (s : State σ) (step : Nat) (c : Completion) : State σ :=
  { s with completed := s.completed ++ [(step, c)] }

/-- Gives a completion to its owner and notes how it came out there. -/
def deliver (s : State σ) (ticket : Ticket) (c : Completion) : State σ :=
  match s.waiting.find? ticket with
  | none => s
  | some (step, owner) =>
    let s := { s with waiting := s.waiting.erase ticket }
    match owner with
    | .caller => s.complete step c
    | .holder id =>
      match s.held.find? id with
      | some (.file kind f) =>
        let (c, f) := f.complete c
        (s.put id (.file kind f)).complete step c
      | some (.stage stage) =>
        let (c, stage) := stage.complete c
        (s.put id (.stage stage)).complete step c
      | _ => s.complete step c
    | .adapter id offset count =>
      match s.held.find? id with
      | some (.adapter a) =>
        let (r, a) := a.finish offset count c
        (s.put id (.adapter a)).complete step (.count r)
      | _ => s.complete step c

variable [Backing σ]

/-- Delivers what came while others were waited for. -/
def collect (s : State σ) : State σ :=
  let (finished, store) := Backing.takeFinished s.store
  finished.foldl (fun s e => s.deliver e.1 e.2) { s with store }

/-- A call on the store, and then the completions that came during it. -/
def call {α : Type} (s : State σ) (f : σ → α × σ) : α × State σ :=
  let (r, store) := f s.store
  (r, { s with store })

/-- A transfer was taken in. Where completions come without being asked for,
this step waits for it. -/
def accept (s : State σ) (ticket : Ticket) (owner : Owner) : Answer × State σ :=
  let s := { s with waiting := s.waiting.insert ticket (s.step, owner) }
  if Backing.prompt s.store then
    match s.call (ObjectStore.await ticket) with
    | (some c, s) => (.submitted, s.deliver ticket c)
    | (none, s) => (.lost, s)
  else (.submitted, s)

/-- A request was taken: it is over, or a ticket is out. -/
def started (s : State σ) (owner : Owner) : Started Completion → Answer × State σ
  | .finished c => (.submitted, s.complete s.step c)
  | .submitted ticket => s.accept ticket owner

end State

end StagedFiles.Script
