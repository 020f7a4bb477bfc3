-- The counters of a session against what its callers were told. A tally takes in
-- the bytes of every answer that came out well, from the open on. Whatever the
-- store does and whatever fails, the summary holds these sums, and once the
-- session is closed it stays as it is until an open comes out well.
import StagedFiles.Proofs.Closing
import StagedFiles.Proofs.Ledger

namespace StagedFiles

/-! ## What callers are told -/

/-- Bytes that callers were told went. -/
structure Tally where
  read : Nat := 0
  readv : Nat := 0
  write : Nat := 0
  /-- By requests that were handed in. -/
  readAio : Nat := 0
  writeAio : Nat := 0
  /-- Of these writes, by those larger than the buffer. -/
  large : Nat := 0
  deriving DecidableEq

namespace Tally

/-- What was told now, on top of what was told before. -/
def plus (now before : Tally) : Tally :=
  { read := now.read + before.read
    readv := now.readv + before.readv
    write := now.write + before.write
    readAio := now.readAio + before.readAio
    writeAio := now.writeAio + before.writeAio
    large := now.large + before.large }

theorem nothing_plus (t : Tally) : plus {} t = t := by
  simp only [plus, Nat.zero_add]

/-- The bytes of a completion. -/
def ofCompletion (c : Completion) : Tally := { readAio := c.readCount, writeAio := c.writeCount }

/-- A request that was handed in and is over at once has its completion. -/
def ofStart : Except Failure (Started Completion) → Tally
  | .ok (.finished c) => ofCompletion c
  | _ => {}

/-- It is no call that waits, and large only for whoever knows the buffer. -/
theorem ofStart_calls (r : Except Failure (Started Completion)) :
    (ofStart r).write = 0 ∧ (ofStart r).large = 0 := by
  unfold ofStart
  split
  · exact ⟨rfl, rfl⟩
  · exact ⟨rfl, rfl⟩

/-- The bytes of the pieces of a vectored read. -/
def ofPieces : Except Failure (List Bytes) → Tally
  | .ok pieces => { readv := pieces.flatten.length }
  | .error _ => {}

end Tally

namespace FileClient

variable {σ : Type} [ObjectStore σ]

/-- The completion of the request that is out, when one is. -/
def toldOnDelivery (c : FileClient σ) : Tally :=
  match c.due, c.file.session with
  | some (ticket, _), some s =>
    match (ObjectStore.await ticket c.store).1 with
    | some done => if s.stage.outstanding = 0 then {} else .ofCompletion (s.stage.complete done).1
    | none => {}
  | _, _ => {}

/-- What the callers are told on an act. -/
def told (c : FileClient σ) : FileAct σ → Tally
  | .ask (.read offset len) =>
    { read := (Completion.bytes (c.file.read offset len c.store).1).readCount }
  | .ask (.write offset data) =>
    { write := (Completion.count (c.file.write offset data c.store).1).writeCount }
  | .ask .flush => {}
  | .ask (.readAio offset len) => .ofStart (c.file.readAio offset len c.store).1
  | .ask (.writeAio offset data) =>
    let t := Tally.ofStart (c.file.writeAio offset data c.store).1
    { t with large := if c.file.settings.bufferSize < data.length then t.writeAio else 0 }
  | .ask .deliver => c.toldOnDelivery
  | .readv extents => .ofPieces (c.file.readv extents c.store).1
  | .readRaw _ _ | .stat | .sync | .truncate _ | .others _ => {}

end FileClient

/-! ## Sessions one after the other -/

/-- A file over a store, what its callers were told since the last open that came
out well, and how many opens did. -/
structure Account (σ : Type) where
  client : FileClient σ
  tally : Tally := {}
  sessions : Nat := 0

/-- What happens to the file, from one session to the next. -/
inductive AccountEvent (σ : Type) where
  | openPath (path : String) (access : Access)
  | act (act : FileAct σ)
  | close

namespace Account

variable {σ : Type} [ObjectStore σ]

def step (a : Account σ) : AccountEvent σ → Account σ
  | .openPath path access =>
    match a.client.file.openPath path access a.client.store with
    | (.ok _, file, store) => { client := { file, store }, sessions := a.sessions + 1 }
    | (.error _, file, store) => { a with client := { a.client with file, store } }
  | .act act => { a with client := a.client.step act, tally := (a.client.told act).plus a.tally }
  | .close =>
    let (_, file, store) := a.client.file.close a.client.store
    { a with client := { a.client with file, store } }

/-- All the events in order. -/
def run (a : Account σ) (events : List (AccountEvent σ)) : Account σ := events.foldl step a

end Account

/-! ## What an act adds to the counters -/

/-- The counters of the session hold what was told besides what they held. -/
structure StagedFile.Notes (f : StagedFile) (s : Session) (t : Tally) (f' : StagedFile)
    (s' : Session) : Prop where
  session : f'.session = some s'
  settings : f'.settings = f.settings
  read : f'.bytes.read = Counter.plus f.bytes.read t.read
  readv : f'.bytes.readv = Counter.plus f.bytes.readv t.readv
  write : f'.bytes.write = Counter.plus f.bytes.write t.write
  readAio : s'.stage.stats.aioReadBytes = Counter.plus s.stage.stats.aioReadBytes t.readAio
  writeAio : s'.stage.stats.aioWriteBytes = Counter.plus s.stage.stats.aioWriteBytes t.writeAio

namespace StagedFile.Notes

variable {f : StagedFile} {s : Session} {stage : Stage}

/-- Nothing was told, and the counters stand as they did. -/
theorem nothing (hs : f.session = some s) : f.Notes s {} f s :=
  ⟨hs, rfl, (Counter.plus_zero _).symm, (Counter.plus_zero _).symm, (Counter.plus_zero _).symm,
    (Counter.plus_zero _).symm, (Counter.plus_zero _).symm⟩

/-- Only the stage went on, and counted the bytes of a completion. -/
theorem completed {c : Completion} (h : s.stage.Counts stage c) :
    f.Notes s (.ofCompletion c) (f.withStage s stage) { s with stage } :=
  ⟨rfl, rfl, (Counter.plus_zero _).symm, (Counter.plus_zero _).symm, (Counter.plus_zero _).symm,
    h.reads, h.writes⟩

/-- Only the stage went on, and counted nothing. -/
theorem silent (h : s.stage.CountsNothing stage) :
    f.Notes s {} (f.withStage s stage) { s with stage } :=
  ⟨rfl, rfl, (Counter.plus_zero _).symm, (Counter.plus_zero _).symm, (Counter.plus_zero _).symm,
    h.reads.trans (Counter.plus_zero _).symm, h.writes.trans (Counter.plus_zero _).symm⟩

/-- What is told of large writes is told of writes already. -/
theorem large {t : Tally} {f' : StagedFile} {s' : Session} (h : f.Notes s t f' s') (n : Nat) :
    f.Notes s { t with large := n } f' s' :=
  ⟨h.session, h.settings, h.read, h.readv, h.write, h.readAio, h.writeAio⟩

/-- What is told of a request when it begins, also one that is refused because
another is out. -/
theorem begun {r : Except Failure (Started Completion)} (h : s.stage.Begun r stage) :
    f.Notes s (.ofStart r) (f.withStage s stage) { s with stage } := by
  cases h with
  | refused _ hcounts => exact silent hcounts
  | ended _ hcounts => exact completed hcounts
  | out _ hcounts => exact silent hcounts

end StagedFile.Notes

namespace FileClient

variable {σ : Type} [ObjectStore σ] {c : FileClient σ} {s : Session}

/-- A request that begins; while another is out it is refused. -/
theorem readAio_notes {offset len : Nat} {r : Except Failure (Started Completion)} {stage : Stage}
    {st st' : σ} (h : s.stage.readAio offset len st = (r, stage, st')) :
    c.file.Notes s (.ofStart r) (c.file.withStage s stage) { s with stage } := by
  by_cases hidle : s.stage.outstanding = 0
  · exact .begun (Stage.readAio_begun (List.length_eq_zero_iff.mp hidle) h)
  · obtain ⟨⟨f, rfl⟩, rfl, rfl⟩ := Stage.readAio_while_busy hidle h
    exact .silent ⟨rfl, rfl⟩

theorem writeAio_notes {offset : Nat} {data : Bytes} {r : Except Failure (Started Completion)}
    {stage : Stage} {st st' : σ} (h : s.stage.writeAio offset data st = (r, stage, st')) :
    c.file.Notes s (.ofStart r) (c.file.withStage s stage) { s with stage } := by
  by_cases hidle : s.stage.outstanding = 0
  · exact .begun (Stage.writeAio_begun (List.length_eq_zero_iff.mp hidle) h)
  · obtain ⟨⟨f, rfl⟩, rfl, rfl⟩ := Stage.writeAio_while_busy hidle h
    exact .silent ⟨rfl, rfl⟩

theorem deliver_notes (hs : c.file.session = some s) :
    ∃ s', c.file.Notes s (c.told (.ask .deliver)) (c.ask .deliver).file s' := by
  rcases hdue : c.due with _ | ⟨ticket, errand⟩
  · simp only [ask, told, toldOnDelivery, hdue]
    exact ⟨s, .nothing hs⟩
  · rcases ha : ObjectStore.await ticket c.store with ⟨_ | done, store⟩
    · simp only [ask, told, toldOnDelivery, hdue, hs, ha]
      exact ⟨s, .nothing hs⟩
    · rcases hc : s.stage.complete done with ⟨answer, stage⟩
      simp only [ask, told, toldOnDelivery, hdue, hs, ha, StagedFile.complete, hc]
      refine ⟨{ s with stage }, ?_⟩
      rcases hreq : s.stage.inflight.requests with _ | ⟨request, rest⟩
      · have hidle : s.stage.outstanding = 0 := congrArg List.length hreq
        rw [if_pos hidle]
        unfold Stage.complete at hc
        rw [hreq] at hc
        cases hc
        exact .silent ⟨rfl, rfl⟩
      · have hbusy : s.stage.outstanding ≠ 0 := by
          have hlen : s.stage.outstanding = rest.length + 1 := congrArg List.length hreq
          omega
        rw [if_neg hbusy]
        exact .completed (Stage.complete_counts hreq hc)

theorem ask_notes (hs : c.file.session = some s) (act : Act) :
    ∃ s', c.file.Notes s (c.told (.ask act)) (c.ask act).file s' := by
  have hz : ∀ counter : Counter, counter = Counter.plus counter 0 :=
    fun counter => (Counter.plus_zero counter).symm
  cases act with
  | read offset len =>
    rcases hr : s.stage.read offset len c.store with ⟨r | bytes, stage, store⟩
    · have hnothing := (Stage.read_same hr).countsNothing
      simp only [ask, told, StagedFile.read, StagedFile.opened, hs, hr]
      exact ⟨_, .silent hnothing⟩
    · have hnothing := (Stage.read_same hr).countsNothing
      simp only [ask, told, StagedFile.read, StagedFile.opened, hs, hr]
      exact ⟨_, rfl, rfl, rfl, hz _, hz _, hnothing.reads.trans (hz _), hnothing.writes.trans (hz _)⟩
  | write offset data =>
    rcases hw : s.access.write with _ | _
    · simp only [ask, told, StagedFile.write, StagedFile.writable, hs, hw]
      exact ⟨s, .nothing hs⟩
    · rcases hr : s.stage.write offset data c.store with ⟨r | n, stage, store⟩
      · have hnothing := (Stage.write_same hr).countsNothing
        simp only [ask, told, StagedFile.write, StagedFile.writable, hs, hw, if_true, hr]
        exact ⟨_, .silent hnothing⟩
      · have hnothing := (Stage.write_same hr).countsNothing
        simp only [ask, told, StagedFile.write, StagedFile.writable, hs, hw, if_true, hr]
        exact ⟨_, rfl, rfl, hz _, hz _, rfl, hnothing.reads.trans (hz _), hnothing.writes.trans (hz _)⟩
  | flush =>
    rcases hf : s.stage.flush c.store with ⟨r, stage, store⟩
    simp only [ask, told, StagedFile.flush, StagedFile.opened, hs, hf]
    exact ⟨_, .silent (Stage.flush_same hf).countsNothing⟩
  | readAio offset len =>
    rcases hr : s.stage.readAio offset len c.store with ⟨r, stage, store⟩
    simp only [ask, told, StagedFile.readAio, StagedFile.opened, hs, hr]
    exact ⟨_, readAio_notes hr⟩
  | writeAio offset data =>
    rcases hw : s.access.write with _ | _
    · simp only [ask, told, StagedFile.writeAio, StagedFile.writable, hs, hw]
      exact ⟨s, (StagedFile.Notes.nothing hs).large _⟩
    · rcases hr : s.stage.writeAio offset data c.store with ⟨r, stage, store⟩
      simp only [ask, told, StagedFile.writeAio, StagedFile.writable, hs, hw, if_true, hr]
      exact ⟨_, (writeAio_notes hr).large _⟩
  | deliver => exact deliver_notes hs

omit [ObjectStore σ] in
/-- A call on the raw file leaves the file. -/
theorem pass_file {α : Type} (c : FileClient σ) (call : RawFile → σ → Except Failure α × σ) :
    (c.pass call).file = c.file := by
  rcases hs : c.file.session with _ | s
  · rw [pass_shut hs]
  · rcases hcall : call c.file.raw c.store with ⟨r, store⟩
    simp only [pass, StagedFile.pass, hs, hcall]

omit [ObjectStore σ] in
theorem pass_notes {α : Type} (hs : c.file.session = some s)
    (call : RawFile → σ → Except Failure α × σ) :
    ∃ s', c.file.Notes s {} (c.pass call).file s' := by
  rw [pass_file]
  exact ⟨s, .nothing hs⟩

theorem readv_notes (hs : c.file.session = some s) (extents : List Extent) :
    ∃ s', c.file.Notes s (c.told (.readv extents)) (c.step (.readv extents)).file s' := by
  have hz : ∀ counter : Counter, counter = Counter.plus counter 0 :=
    fun counter => (Counter.plus_zero counter).symm
  rcases hr : c.file.raw.readv extents c.store with ⟨r | pieces, store⟩
  · simp only [step, told, StagedFile.readv, StagedFile.pass, hs, hr]
    exact ⟨s, .nothing hs⟩
  · simp only [step, told, StagedFile.readv, StagedFile.pass, hs, hr]
    exact ⟨s, rfl, rfl, hz _, rfl, hz _, hz _, hz _⟩

/-- What an act tells is noted in the session. -/
theorem step_notes (hs : c.file.session = some s) (act : FileAct σ) :
    ∃ s', c.file.Notes s (c.told act) (c.step act).file s' := by
  cases act with
  | ask act => exact ask_notes hs act
  | readRaw offset len => exact pass_notes hs _
  | readv extents => exact readv_notes hs extents
  | stat => exact pass_notes hs _
  | sync => exact pass_notes hs _
  | truncate len => exact pass_notes hs _
  | others act => exact ⟨s, .nothing hs⟩

/-- A file that is not open tells nothing and stays. -/
theorem step_shut (hs : c.file.session = none) (act : FileAct σ) :
    (c.step act).file = c.file ∧ c.told act = {} := by
  cases act with
  | ask act =>
    cases act with
    | read offset len =>
      simp only [step, ask, told, StagedFile.read_shut hs]
      exact ⟨trivial, rfl⟩
    | write offset data =>
      simp only [step, ask, told, StagedFile.write_shut hs]
      exact ⟨trivial, rfl⟩
    | flush =>
      simp only [step, ask, told, StagedFile.flush_shut hs]
      exact ⟨trivial, trivial⟩
    | readAio offset len =>
      simp only [step, ask, told, StagedFile.readAio_shut hs]
      exact ⟨trivial, rfl⟩
    | writeAio offset data =>
      simp only [step, ask, told, StagedFile.writeAio_shut hs]
      refine ⟨trivial, ?_⟩
      unfold Tally.ofStart
      simp only [ite_self]
    | deliver =>
      rcases hdue : c.due with _ | ⟨ticket, errand⟩
      · simp only [step, ask, told, toldOnDelivery, hdue]
        exact ⟨trivial, trivial⟩
      · rcases ha : ObjectStore.await ticket c.store with ⟨_ | done, store⟩
        · simp only [step, ask, told, toldOnDelivery, hdue, hs, ha]
          exact ⟨trivial, trivial⟩
        · simp only [step, ask, told, toldOnDelivery, hdue, hs, ha, StagedFile.complete]
          exact ⟨trivial, trivial⟩
  | readRaw offset len => exact ⟨pass_file c _, rfl⟩
  | readv extents =>
    simp only [step, told, StagedFile.readv_shut hs]
    exact ⟨trivial, rfl⟩
  | stat => exact ⟨pass_file c _, rfl⟩
  | sync => exact ⟨pass_file c _, rfl⟩
  | truncate len => exact ⟨pass_file c _, rfl⟩
  | others act => exact ⟨rfl, rfl⟩

end FileClient

/-! ## The summary holds the sums -/

/-- The bytes in the summary are those that were told. -/
structure Summary.Holds (m : Summary) (t : Tally) : Prop where
  read : m.bytes.read = t.read.toUInt64
  readv : m.bytes.readv = t.readv.toUInt64
  write : m.bytes.write = t.write.toUInt64
  readAio : m.cache.aioReadBytes = t.readAio.toUInt64
  writeAio : m.cache.aioWriteBytes = t.writeAio.toUInt64

/-- The summary of the file, when there is one, holds what was told. -/
def StagedFile.Holds (f : StagedFile) (t : Tally) : Prop := ∀ m, f.summary = some m → m.Holds t

theorem Session.lastFlush_same {σ : Type} [ObjectStore σ] {s : Session} {st st' : σ}
    {r : Except Failure Nat} {stage : Stage} (h : s.lastFlush st = (r, stage, st')) :
    s.stage.Same stage := by
  unfold lastFlush at h
  split at h
  · exact Stage.flush_same h
  · cases h
    exact .refl _

namespace StagedFile

variable {f f' : StagedFile} {s s' : Session} {t told : Tally}

theorem summary_open (hs : f.session = some s) : f.summary = some (f.summarize s false) := by
  unfold summary
  rw [hs]

/-- What is told next is noted on top of what the summary holds. -/
theorem Holds.notes (h : f.Holds t) (hs : f.session = some s) (hn : f.Notes s told f' s') :
    f'.Holds (told.plus t) := by
  have hold := h _ (summary_open hs)
  intro m hm
  rw [summary_open hn.session] at hm
  cases hm
  refine ⟨hn.read.trans ?_, hn.readv.trans ?_, hn.write.trans ?_, hn.readAio.trans ?_,
    hn.writeAio.trans ?_⟩
  · exact Ledger.plus_total hold.read
  · exact Ledger.plus_total hold.readv
  · exact Ledger.plus_total hold.write
  · exact Ledger.plus_total hold.readAio
  · exact Ledger.plus_total hold.writeAio

/-- A session that was just opened holds nothing. -/
theorem holds_of_fresh {stage : Stage} {fd : Fd} {settings : Settings} {path : String}
    {access : Access} (hbuild : Stage.build settings fd = .ok stage)
    (hs : f.session = some ⟨fd, path, access, stage⟩) (hbytes : f.bytes = {}) : f.Holds {} := by
  intro m hm
  rw [summary_open hs] at hm
  cases hm
  obtain ⟨hpos, rfl⟩ := Stage.build_eq_ok_iff.mp hbuild
  refine ⟨?_, ?_, ?_, rfl, rfl⟩
  · exact congrArg SessionBytes.read hbytes
  · exact congrArg SessionBytes.readv hbytes
  · exact congrArg SessionBytes.write hbytes

variable {σ : Type} [ObjectStore σ] {st st' : σ} {path : String} {access : Access}

/-- An open that comes out well starts a session that holds nothing. -/
theorem openPath_ok_holds {fd : Fd} (h : f.openPath path access st = (.ok fd, f', st')) :
    f'.Holds {} := by
  obtain ⟨-, stage, hbuild, rfl⟩ := openPath_ok h
  exact holds_of_fresh hbuild rfl rfl

theorem openPath_ok_session {fd : Fd} (h : f.openPath path access st = (.ok fd, f', st')) :
    ∃ s, f'.session = some s := by
  obtain ⟨-, stage, -, rfl⟩ := openPath_ok h
  exact ⟨_, rfl⟩

/-- An open that fails leaves the session, or that there is none, and the summary. -/
theorem openPath_error_summary {e : Failure} (h : f.openPath path access st = (.error e, f', st')) :
    f'.session = f.session ∧ f'.summary = f.summary := by
  cases openPath_cases h with
  | already _ => exact ⟨rfl, rfl⟩
  | unfit _ _ => exact ⟨rfl, rfl⟩
  | refused _ _ => exact ⟨rfl, rfl⟩
  | unbuilt _ _ _ => exact ⟨rfl, rfl⟩

/-- The summary of a session that was closed is kept. -/
theorem close_summary {r : Except Failure Unit} {m : Summary} (h : f.summary = some m)
    (hclose : f.close st = (r, f', st')) : ∃ m', f'.summary = some m' := by
  rcases hs : f.session with _ | s
  · rw [StagedFile.close_shut hs] at hclose
    cases hclose
    exact ⟨m, h⟩
  · by_cases hidle : s.stage.outstanding = 0
    · rw [StagedFile.close_idle hs hidle] at hclose
      rcases hflush : s.lastFlush st with ⟨flushed, stage, st1⟩
      rw [hflush] at hclose
      dsimp only at hclose
      cases flushed with
      | error e =>
        cases hclose
        exact ⟨_, rfl⟩
      | ok n =>
        cases hclose
        exact ⟨_, rfl⟩
    · rw [StagedFile.close_busy hs hidle] at hclose
      cases hclose
      exact ⟨m, h⟩

/-- A close leaves the sums, those of the session that ended or of the one before. -/
theorem Holds.close {r : Except Failure Unit} (h : f.Holds t)
    (hclose : f.close st = (r, f', st')) : f'.Holds t := by
  rcases hs : f.session with _ | s
  · rw [StagedFile.close_shut hs] at hclose
    cases hclose
    exact h
  · by_cases hidle : s.stage.outstanding = 0
    · rcases hflush : s.lastFlush st with ⟨flushed, stage, st1⟩
      have hcounts := (Session.lastFlush_same hflush).countsNothing
      have hold := h _ (summary_open hs)
      have hlast : f'.summary = some (f.summarize { s with stage } true) := by
        rw [StagedFile.close_idle hs hidle, hflush] at hclose
        dsimp only at hclose
        cases flushed with
        | error e =>
          cases hclose
          rfl
        | ok n =>
          cases hclose
          rfl
      intro m hm
      rw [hlast] at hm
      cases hm
      exact ⟨hold.read, hold.readv, hold.write, hcounts.reads.trans hold.readAio,
        hcounts.writes.trans hold.writeAio⟩
    · rw [StagedFile.close_busy hs hidle] at hclose
      cases hclose
      exact h

end StagedFile

namespace Account

variable {σ : Type} [ObjectStore σ] {a : Account σ}

/-- Every event keeps what the summary holds equal to what was told. -/
theorem step_holds (h : a.client.file.Holds a.tally) (e : AccountEvent σ) :
    (a.step e).client.file.Holds (a.step e).tally := by
  cases e with
  | openPath path access =>
    rcases ho : a.client.file.openPath path access a.client.store with ⟨e | fd, file, store⟩
    · simp only [step, ho]
      intro m hm
      rw [(StagedFile.openPath_error_summary ho).2] at hm
      exact h m hm
    · simp only [step, ho]
      exact StagedFile.openPath_ok_holds ho
  | act act =>
    rcases hs : a.client.file.session with _ | s
    · obtain ⟨hfile, htold⟩ := FileClient.step_shut hs act
      show (a.client.step act).file.Holds ((a.client.told act).plus a.tally)
      rw [hfile, htold, Tally.nothing_plus]
      exact h
    · obtain ⟨s', hnotes⟩ := FileClient.step_notes hs act
      exact h.notes hs hnotes
  | close =>
    rcases hc : a.client.file.close a.client.store with ⟨r, file, store⟩
    simp only [step, hc]
    exact h.close hc

theorem run_holds (h : a.client.file.Holds a.tally) (events : List (AccountEvent σ)) :
    (a.run events).client.file.Holds (a.run events).tally := by
  induction events generalizing a with
  | nil => exact h
  | cons e events ih => exact ih (step_holds h e)

/-- From the first open that comes out well on there is a summary. -/
theorem step_summary (h : 0 < a.sessions → ∃ m, a.client.file.summary = some m)
    (e : AccountEvent σ) (hopened : 0 < (a.step e).sessions) :
    ∃ m, (a.step e).client.file.summary = some m := by
  cases e with
  | openPath path access =>
    rcases ho : a.client.file.openPath path access a.client.store with ⟨e | fd, file, store⟩
    · simp only [step, ho] at hopened ⊢
      rw [(StagedFile.openPath_error_summary ho).2]
      exact h hopened
    · simp only [step, ho]
      obtain ⟨s, hs⟩ := StagedFile.openPath_ok_session ho
      exact ⟨_, StagedFile.summary_open hs⟩
  | act act =>
    rcases hs : a.client.file.session with _ | s
    · have hfile : (a.step (.act act)).client.file = a.client.file :=
        (FileClient.step_shut hs act).1
      rw [hfile]
      exact h hopened
    · obtain ⟨s', hnotes⟩ := FileClient.step_notes hs act
      exact ⟨_, StagedFile.summary_open hnotes.session⟩
  | close =>
    rcases hc : a.client.file.close a.client.store with ⟨r, file, store⟩
    simp only [step, hc] at hopened ⊢
    obtain ⟨m, hm⟩ := h hopened
    exact StagedFile.close_summary hm hc

theorem run_summary (h : 0 < a.sessions → ∃ m, a.client.file.summary = some m)
    (events : List (AccountEvent σ)) (hopened : 0 < (a.run events).sessions) :
    ∃ m, (a.run events).client.file.summary = some m := by
  induction events generalizing a with
  | nil => exact h hopened
  | cons e events ih => exact ih (step_summary h e) hopened

/-! ## The summary of a closed session stays -/

theorem sessions_step (a : Account σ) (e : AccountEvent σ) : a.sessions ≤ (a.step e).sessions := by
  cases e with
  | openPath path access =>
    unfold step
    dsimp only
    split
    · exact Nat.le_succ _
    · exact Nat.le_refl _
  | act act => exact Nat.le_refl _
  | close => exact Nat.le_refl _

theorem sessions_run (a : Account σ) (events : List (AccountEvent σ)) :
    a.sessions ≤ (a.run events).sessions := by
  induction events generalizing a with
  | nil => exact Nat.le_refl _
  | cons e events ih => exact Nat.le_trans (sessions_step a e) (ih (a.step e))

/-- With no session open, only an open that comes out well changes the summary. -/
theorem step_frozen (hs : a.client.file.session = none) (e : AccountEvent σ)
    (hnone : (a.step e).sessions = a.sessions) :
    (a.step e).client.file.session = none ∧
      (a.step e).client.file.summary = a.client.file.summary := by
  cases e with
  | openPath path access =>
    rcases ho : a.client.file.openPath path access a.client.store with ⟨e | fd, file, store⟩
    · obtain ⟨hsession, hsummary⟩ := StagedFile.openPath_error_summary ho
      simp only [step, ho]
      exact ⟨hsession.trans hs, hsummary⟩
    · simp only [step, ho] at hnone
      omega
  | act act =>
    have hfile : (a.step (.act act)).client.file = a.client.file :=
      (FileClient.step_shut hs act).1
    rw [hfile]
    exact ⟨hs, rfl⟩
  | close =>
    simp only [step, StagedFile.close_shut hs]
    exact ⟨hs, trivial⟩

theorem run_frozen (hs : a.client.file.session = none) (events : List (AccountEvent σ))
    (hnone : (a.run events).sessions = a.sessions) :
    (a.run events).client.file.summary = a.client.file.summary := by
  induction events generalizing a with
  | nil => rfl
  | cons e events ih =>
    have hrest := sessions_run (a.step e) events
    have hhere := sessions_step a e
    have hall : ((a.step e).run events).sessions = a.sessions := hnone
    have hstep : (a.step e).sessions = a.sessions := by omega
    obtain ⟨hshut, hsame⟩ := step_frozen hs e hstep
    exact (ih hshut (hall.trans hstep.symm)).trans hsame

end Account

end StagedFiles
