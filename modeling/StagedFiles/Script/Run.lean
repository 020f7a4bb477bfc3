-- Running a script. Each step is one call; completions that came during it
-- are delivered before the step ends. When all steps are done, what is parked
-- runs, and all holders are let go of in the order of their names.
import StagedFiles.Script.State

namespace StagedFiles.Script

variable {σ : Type} [Backing σ]

/-! ## Files -/

/-- The place of a file that a step uses. -/
structure FileSlot where
  id : Nat
  kind : FileKind

/-- A call that waits. What came in meanwhile belongs to other holders and is
delivered after it. -/
def fileCall {α : Type} (s : State σ) (slot : FileSlot) (answer : α → Answer)
    (call : σ → Except Failure α × ObjectFile × σ) : Answer × State σ :=
  let (r, f, store) := call s.store
  let s := ({ s with store }.put slot.id (.file slot.kind f)).collect
  (Answer.ofResult answer r, s)

/-- A request that is handed in. -/
def fileRequest (s : State σ) (slot : FileSlot) (f : ObjectFile)
    (call : σ → Except Failure (Started Completion) × ObjectFile × σ) : Answer × State σ :=
  let owner : Owner :=
    match f with
    | .raw _ => .caller
    | .staged _ => .holder slot.id
  let (r, f, store) := call s.store
  let s := ({ s with store }.put slot.id (.file slot.kind f)).collect
  match r with
  | .ok started => s.started owner started
  | .error e => (.failed e, s)

/-- A file of the front is used through the calls that all files share. -/
def useFile (s : State σ) (slot : FileSlot) (f : ObjectFile) : Action → Answer × State σ
  | .openPath path access => fileCall s slot .descriptor (f.openPath path access)
  | .close => fileCall s slot (fun _ => .done) f.close
  | .stat => fileCall s slot .number f.stat
  | .sync => fileCall s slot (fun _ => .done) f.sync
  | .truncate len => fileCall s slot (fun _ => .done) (f.truncate len)
  | .read offset len => fileCall s slot .read (f.read offset len)
  | .write offset data _ => fileCall s slot .number (f.write offset data)
  | .readRaw offset len => fileCall s slot .read (f.readRaw offset len)
  | .readv extents =>
    let buffers (pieces : List Bytes) : Answer :=
      .buffers pieces.flatten.length (List.zipWith callerBuffer extents pieces)
    fileCall s slot buffers (f.readv extents)
  | .readAio offset len => fileRequest s slot f (f.readAio offset len)
  | .writeAio offset data => fileRequest s slot f (f.writeAio offset data)
  | .summary => (.summary f.summary, s)
  | .flush =>
    match slot.kind, f with
    | .staged, .staged g =>
      fileCall s slot .number fun st =>
        let (r, g, st) := g.flush st
        (r, .staged g, st)
    | _, _ => (.unsuited, s)
  | .shown =>
    match slot.kind with
    | .front => (.unsuited, s)
    | _ => (.text (f.shown (ObjectStore.name σ)), s)
  | _ => (.unsuited, s)

/-! ## Stages -/

def stageCall {α : Type} (s : State σ) (id : Nat) (answer : α → Answer)
    (call : σ → Except Failure α × Stage × σ) : Answer × State σ :=
  let (r, stage, store) := call s.store
  (Answer.ofResult answer r, ({ s with store }.put id (.stage stage)).collect)

def stageRequest (s : State σ) (id : Nat)
    (call : σ → Except Failure (Started Completion) × Stage × σ) : Answer × State σ :=
  let (r, stage, store) := call s.store
  let s := ({ s with store }.put id (.stage stage)).collect
  match r with
  | .ok started => s.started (.holder id) started
  | .error e => (.failed e, s)

def useStage (s : State σ) (id : Nat) (stage : Stage) : Action → Answer × State σ
  | .read offset len => stageCall s id .read (stage.read offset len)
  | .write offset data _ => stageCall s id .number (stage.write offset data)
  | .flush => stageCall s id .number stage.flush
  | .readAio offset len => stageRequest s id (stage.readAio offset len)
  | .writeAio offset data => stageRequest s id (stage.writeAio offset data)
  | .shown => (.text stage.shown, s)
  | .idle => (.flag (stage.outstanding = 0), s)
  | .kind => (.stageKind stage.adapter.kind stage.capacity, s)
  | _ => (.unsuited, s)

/-! ## Adapters -/

/-- A transfer through an adapter, as it starts. -/
abbrev AdapterStart (σ : Type) := σ → Except Failure (Started (Except Failure Nat)) × Adapter × σ

/-- A transfer that the step waits for. Older transfers of the same adapter
are over before it. -/
def adapterCall (s : State σ) (id : Nat) (direction : Direction) (offset count : Nat)
    (start : AdapterStart σ) : Answer × State σ :=
  let (r, a, store) := start s.store
  let s := { s with store }.put id (.adapter a)
  match r with
  | .error f => (.failed f, s)
  | .ok (.finished r) => (Answer.ofResult .number r, s)
  | .ok (.submitted ticket) =>
    let (c?, s) := s.call (ObjectStore.await ticket)
    let s := s.collect
    match c?, s.held.find? id with
    | some c, some (.adapter a) =>
      let (r, a) := a.finish offset count c
      (Answer.ofResult .number r, s.put id (.adapter a))
    | _, _ => (.failed (.internal (.completionDropped direction a.fd)), s)

/-- A transfer that is handed in. -/
def adapterRequest (s : State σ) (id : Nat) (offset count : Nat) (start : AdapterStart σ) :
    Answer × State σ :=
  let (r, a, store) := start s.store
  let s := { s with store }.put id (.adapter a)
  match r with
  | .error f => (.failed f, s)
  | .ok (.finished r) => (.submitted, s.complete s.step (.count r))
  | .ok (.submitted ticket) => s.accept ticket (.adapter id offset count)

def useAdapter (s : State σ) (id : Nat) (a : Adapter) : Action → Answer × State σ
  | .read offset len => adapterCall s id .read offset len (a.submitRead offset len)
  | .write offset _ len => adapterCall s id .write offset len (a.submitWrite offset len)
  | .submitRead offset len => adapterRequest s id offset len (a.submitRead offset len)
  | .submitWrite offset len => adapterRequest s id offset len (a.submitWrite offset len)
  | .fill place data =>
    (.done, s.put id (.adapter { a with buffer := a.buffer.poke place data }))
  | .kind => (.text a.kind.word, s)
  | _ => (.unsuited, s)

/-! ## Making and letting go -/

/-- Lets go of what was held. Only a file closes what it opened. -/
def release (s : State σ) (id : Nat) : State σ :=
  match s.held.find? id with
  | some (.file kind f) =>
    let (f, store) := f.drop s.store
    ({ s with store }.put id (.file kind f)).collect
  | _ => s

/-- Holds something new under a name; what was held there is let go of after. -/
def replace (s : State σ) (name : String) (h : Held) : State σ :=
  let old := s.names.find? name
  let s := s.hold name h
  match old with
  | some id => release s id
  | none => s

def makeFile (front : Front) (kind : FileKind) (settings : Settings) : ObjectFile :=
  match kind with
  | .front => front.newFile
  | .raw => .raw { grouping := settings.grouping }
  | .staged => .staged (StagedFile.ofSettings settings)

/-- What is made on an open descriptor. -/
def makeOpened (kind : OpenedKind) (settings : Settings) (fd : Fd) : Except Failure Held :=
  match Stage.build settings fd with
  | .error f => .error f
  | .ok stage =>
    match kind with
    | .stage => .ok (.stage stage)
    | .adapter => .ok (.adapter stage.adapter)

/-! ## Steps -/

/-- A call on the store whose answer is all there is to it. -/
def storeCall {α : Type} (s : State σ) (answer : α → Answer) (f : σ → Except Failure α × σ) :
    Answer × State σ :=
  let (r, s) := s.call f
  (Answer.ofResult answer r, s)

def storeRequest (s : State σ) (f : σ → Except Failure Ticket × σ) : Answer × State σ :=
  match s.call f with
  | (.error e, s) => (.failed e, s)
  | (.ok ticket, s) => s.accept ticket .caller

/-- What a step does. -/
def perform (s : State σ) : Step (Backing.Own σ) → Answer × State σ
  | .newFile name kind settings =>
    (.done, replace s name (.file kind (makeFile s.front kind (settings.getD s.front.settings))))
  | .newOpened name kind settings path access =>
    match s.call (ObjectStore.openPath path access) with
    | (.error f, s) => (.failed f, s)
    | (.ok fd, s) =>
      match makeOpened kind (settings.getD s.front.settings) fd with
      | .error f => (.failed f, s)
      | .ok h => (.done, replace s name h)
  | .drop name =>
    match s.names.find? name with
    | none => (.noHolder, s)
    | some id => (.done, release { s with names := s.names.erase name } id)
  | .use name action =>
    match s.holder? name with
    | none => (.noHolder, s)
    | some (id, .file kind f) => useFile s ⟨id, kind⟩ f action
    | some (id, .stage stage) => useStage s id stage action
    | some (id, .adapter a) => useAdapter s id a action
  | .storeOpen path access => storeCall s .descriptor (ObjectStore.openPath path access)
  | .storeClose fd => storeCall s (fun _ => .done) (ObjectStore.close fd)
  | .storeRead fd offset len =>
    match s.call (ObjectStore.readAt fd offset len) with
    | (.ok bytes, s) => (.read bytes, s)
    | (.error torn, s) => (.failed torn.why, s)
  | .storeWrite fd offset data => storeCall s .number (ObjectStore.writeAt fd offset data)
  | .storeSubmitRead fd offset len => storeRequest s (ObjectStore.submitRead fd offset len)
  | .storeSubmitWrite fd offset data => storeRequest s (ObjectStore.submitWrite fd offset data)
  | .storeStat fd => storeCall s .number (ObjectStore.stat fd)
  | .storeSync fd => storeCall s (fun _ => .done) (ObjectStore.sync fd)
  | .storeTruncate fd len => storeCall s (fun _ => .done) (ObjectStore.truncate fd len)
  | .storeName => (.text (ObjectStore.name σ), s)
  | .statPath path => storeCall s .number (ObjectStore.statPath path)
  | .truncatePath path len => storeCall s (fun _ => .done) (ObjectStore.truncatePath path len)
  | .unlinkPath path => storeCall s (fun _ => .done) (ObjectStore.unlinkPath path)
  | .frontShown => (.text (s.front.shown (ObjectStore.name σ)), s)
  | .frontSettings =>
    let c := s.front.settings
    (.settings c.enabled c.bufferSize c.adapter (ObjectStore.name σ), s)
  | .own step =>
    let (answer, s) := s.call (Backing.perform step)
    (answer, s.collect)
  | .settled answer => (answer, s)

/-! ## What is seen -/

def viewFile (kind : FileKind) (f : ObjectFile) : View :=
  let counters := f.summary.map fun s => { cache := s.cache, io := s.io : SessionCounters }
  match kind with
  | .raw => .raw f.fd
  | .front => .front f.fd counters
  | .staged =>
    let stage := f.stage?
    .staged f.fd counters ((stage.map Stage.outstanding).getD 0) (stage.map Stage.state)

def Held.view : Held → View
  | .file kind f => viewFile kind f
  | .stage s =>
    .staged (some s.fd) (some ⟨s.stats, s.adapter.traffic⟩) s.outstanding (some s.state)
  | .adapter a => .adapter a.fd a.traffic a.buffer

/-- What one step shows. -/
structure Entry (σ : Type) [Backing σ] where
  /-- The answer; the closing step has none. -/
  answer : Option Answer
  holder : Option View
  completed : List (Nat × Completion)
  store : Backing.View σ

/-- What is seen after a step that started from `before`. -/
def entry (before : σ) (s : State σ) (answer : Option Answer) (name : Option String) : Entry σ :=
  { answer
    holder := name.bind fun n => (s.holder? n).map fun h => h.2.view
    completed := s.completed
    store := Backing.view before s.store }

/-! ## The run -/

/-- The state as the next step finds it. -/
def State.advance (s : State σ) : State σ := { s with completed := [], step := s.step + 1 }

/-- The end of a script: what is parked runs, then all holders go. -/
def finish (s : State σ) : State σ :=
  let s := { s with store := Backing.runParked s.store }.collect
  let order := s.names.entries.mergeSort fun a b => a.1 ≤ b.1
  order.foldl (fun s e => release s e.2) { s with names := {} }

/-- All lines in order and then the end, with what each shows. -/
def run (s : State σ) : List (Line (Backing.Own σ)) → List (Entry σ) × State σ
  | [] =>
    let last := finish s
    ([entry s.store last none none], last)
  | line :: lines =>
    let (answer, after) := perform s line.step
    let here := entry s.store after (some answer) (some line.watched)
    let (rest, last) := run after.advance lines
    (here :: rest, last)

end StagedFiles.Script
