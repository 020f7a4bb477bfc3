-- The close of a file with a stage, over a store in memory. While a request is
-- out it is refused and nothing changes. Otherwise the session ends whatever
-- fails: the descriptor is given up by one call, a summary is kept, and a flush
-- that failed is reported in place of what the raw close says.
import StagedFiles.Proofs.FileSession
import StagedFiles.Proofs.MemoryKeeper
import StagedFiles.Proofs.StoreCalls

namespace StagedFiles

/-! ## How a flush fails -/

variable {σ : Type} [ObjectStore σ]

/-- The staged bytes do not all reach the store: their write fails, or it is
short, which counts as an error of input and output. -/
inductive Stage.FlushFails (s : Stage) (st : σ) : Failure → Prop where
  | failed {f : Failure} {a : Adapter} {st' : σ} :
      s.adapter.write s.buffer.start s.buffer.len st = (.error f, a, st') → FlushFails s st f
  | short {n : Nat} {a : Adapter} {st' : σ} :
      s.adapter.write s.buffer.start s.buffer.len st = (.ok n, a, st') → n ≠ s.buffer.len →
      FlushFails s st (.refused .writing Errno.io)

theorem Stage.flushNow_of_fails {s : Stage} {st : σ} {f : Failure} (hd : s.dirty = true)
    (h : s.FlushFails st f) : (s.flushNow st).1 = .error f := by
  unfold flushNow
  rw [if_pos hd]
  cases h with
  | failed hw =>
    dsimp only
    rw [hw]
  | short hw hn =>
    dsimp only
    rw [hw]
    dsimp only
    rw [if_neg hn]

theorem Stage.fails_of_flushNow {s s' : Stage} {st st' : σ} {f : Failure}
    (h : s.flushNow st = (.error f, s', st')) : s.dirty = true ∧ s.FlushFails st f := by
  cases flushNow_cases h with
  | failed hd hw => exact ⟨hd, .failed hw⟩
  | short hd hw hn => exact ⟨hd, .short hw hn⟩

/-! ## The last flush -/

/-- The flush of a session that ends; without write access there is none. -/
def Session.lastFlush (s : Session) (st : σ) : Except Failure Nat × Stage × σ :=
  if s.access.write then s.stage.flush st else (.ok 0, s.stage, st)

/-- The last flush leaves the file as it is seen. When it does not fail, the
object is what was seen. -/
theorem Session.lastFlush_kept {fd : Fd} {K : Keeper σ fd} {s : Session} {st st' : σ}
    {object : Bytes} {r : Except Failure Nat} {stage : Stage} (hfd : s.stage.fd = fd)
    (hidle : s.stage.outstanding = 0)
    (hunstaged : s.access.write = false → s.stage.dirty = false)
    (hk : K.Keeps st object none) (h : s.lastFlush st = (r, stage, st')) :
    ∃ object', K.Keeps st' object' none ∧ ∀ n, r = .ok n → object' = s.stage.view object := by
  unfold lastFlush at h
  split at h
  · rw [Stage.flush_idle st hidle] at h
    obtain ⟨object', hq, hclean⟩ := Stage.flushNow_kept hfd hk h
    refine ⟨object', hq.keeps, ?_⟩
    intro n hn
    rw [← hq.view, Stage.view_of_clean (hclean n hn)]
  · rename_i hwrite
    cases h
    refine ⟨object, hk, ?_⟩
    intro n _
    rw [Stage.view_of_clean (hunstaged (by simpa using hwrite))]

/-! ## What a flush does not close -/

theorem Session.lastFlush_used {s : Session} {st st' : σ} {r : Except Failure Nat} {stage : Stage}
    (h : s.lastFlush st = (r, stage, st')) : Used st st' := by
  unfold lastFlush at h
  split at h
  · exact Stage.flush_used h
  · cases h
    exact .stay

/-- The uses of open descriptors give none of them up. -/
theorem Shared.uses_closed (call : StoreCall) (huses : call.Uses) (st : Shared σ) :
    (call.on st).closed = st.closed := by
  cases call with
  | readAt _ _ _ => rfl
  | writeAt _ _ _ => rfl
  | submitRead _ _ _ => rfl
  | submitWrite _ _ _ => rfl
  | await _ => rfl
  | stat _ => rfl
  | sync _ => rfl
  | truncate _ _ => rfl
  | _ => exact huses.elim

theorem Session.lastFlush_closed {s : Session} {st st' : Shared σ} {r : Except Failure Nat}
    {stage : Stage} (h : s.lastFlush st = (r, stage, st')) : st'.closed = st.closed :=
  (lastFlush_used h).keeps (P := fun st1 => st1.closed = st.closed)
    (fun call st1 huses hst => (Shared.uses_closed call huses st1).trans hst) rfl

/-! ## The close of the store -/

/-- The close gives the descriptor up, whatever it says, and leaves the object. -/
theorem MemoryStore.close_frame {fd : Fd} {st st' : MemoryStore} {r : Except Failure Unit}
    (o : ObjectId) (h : st.close fd = (r, st')) :
    st'.handles.find? fd = none ∧ st'.content o = st.content o := by
  unfold MemoryStore.close at h
  dsimp only at h
  split at h
  · cases h
    exact ⟨Table.find?_erase_self .., rfl⟩
  · cases h
    exact ⟨Table.find?_erase_self .., rfl⟩

variable {fd : Fd} {o : ObjectId} {access : Access}

theorem close_kept {st st' : Shared (Throttled MemoryStore)} {object : Bytes}
    {r : Except Failure Unit}
    (hk : (MemoryStore.keeper fd o access).shared.Keeps st object none)
    (h : ObjectStore.close fd st = (r, st')) :
    st'.closed = fd :: st.closed ∧ st'.inner.inner.handles.find? fd = none ∧
      st'.object o = object := by
  rcases hturn : st.turn (ObjectStore.close fd) with ⟨r1, st1⟩
  obtain ⟨inner, hinner, hcall, _⟩ := hk.turn hturn
  obtain ⟨hhandle, hcontent⟩ := MemoryStore.close_frame o (Throttled.pass_eq hcall)
  have hst : st' = { st1 with closed := fd :: st1.closed } := by
    have hclose : ObjectStore.close fd st = (r1, { st1 with closed := fd :: st1.closed }) := by
      show (let (r, s) := st.turn (ObjectStore.close fd)
        (r, { s with closed := fd :: s.closed })) = _
      rw [hturn]
    rw [hclose] at h
    cases h
    rfl
  subst hst
  obtain ⟨job, _, hkept⟩ := hinner
  refine ⟨congrArg (fd :: ·) (Shared.turn_closed hturn), hhandle, ?_⟩
  show (st1.inner.inner.content o).toBytes = object
  rw [hcontent]
  exact hkept.content

/-! ## The close of the file -/

/-- The session is over. Its descriptor was given up by one call and leads
nowhere, and the summary is that of the session. A last flush that fails is what
the close reports; otherwise it reports what the raw close says, and the object
is what was seen. -/
structure Ends (o : ObjectId) (f : StagedFile) (s : Session) (st : Shared (Throttled MemoryStore))
    (r : Except Failure Unit) (f' : StagedFile) (st' : Shared (Throttled MemoryStore)) :
    Prop where
  not_open : f'.session = none
  raw_closed : f'.raw.fd = none
  one_close : st'.closed = s.fd :: st.closed
  released : st'.inner.inner.handles.find? s.fd = none
  summary : f'.lastSummary = some (f.summarize { s with stage := (s.lastFlush st).2.1 } true)
  unflushed : ∀ e, s.access.write = true → s.stage.dirty = true → s.stage.FlushFails st e →
    r = .error (.flushOnClose s.fd e) ∧ (Failure.flushOnClose s.fd e).errno = e.errno
  flushed : (s.access.write = true → s.stage.dirty = true → ∀ e, ¬ s.stage.FlushFails st e) →
    r = (ObjectStore.close s.fd (s.lastFlush st).2.2).1 ∧
      st'.object o = s.stage.view (st.object o)

/-- A close is refused while a request is out. -/
theorem StagedFile.close_busy {f : StagedFile} {s : Session} (hsession : f.session = some s)
    (hbusy : s.stage.outstanding ≠ 0) (st : σ) :
    f.close st = (.error (.inFlight s.fd s.stage.outstanding), f, st) := by
  unfold StagedFile.close
  rw [hsession]
  dsimp only
  rw [if_pos hbusy]

/-- A close that is not refused, step by step. -/
theorem StagedFile.close_idle {f : StagedFile} {s : Session} {st : σ}
    (hsession : f.session = some s) (hidle : s.stage.outstanding = 0) :
    f.close st =
      let (flushed, stage, st) := s.lastFlush st
      let (closed, raw, st) := f.raw.close st
      let last := f.summarize { s with stage } true
      let f := { f with raw, session := none, lastSummary := some last }
      match flushed with
      | .error e => (.error (.flushOnClose s.fd e), f, st)
      | .ok _ => (closed, f, st) := by
  unfold StagedFile.close
  rw [hsession]
  have hfree : ¬ s.stage.outstanding ≠ 0 := by omega
  exact if_neg hfree

/-- A close that is not refused ends the session, whatever fails. -/
theorem StagedFile.close_ends {f : StagedFile} {s : Session} (hsession : f.session = some s)
    (hidle : s.stage.outstanding = 0) (st : σ) : (f.close st).2.1.session = none := by
  rw [StagedFile.close_idle hsession hidle]
  rcases s.lastFlush st with ⟨e | n, stage, st1⟩
  · rfl
  · rfl

/-- A flush on close that comes out badly is reported with its own error number. -/
theorem Session.lastFlush_of_fails {s : Session} {st : σ} {e : Failure}
    (hidle : s.stage.outstanding = 0) (hw : s.access.write = true) (hd : s.stage.dirty = true)
    (h : s.stage.FlushFails st e) : (s.lastFlush st).1 = .error e := by
  unfold lastFlush
  rw [if_pos hw, Stage.flush_idle st hidle]
  exact Stage.flushNow_of_fails hd h

theorem Session.fails_of_lastFlush {s : Session} {st st' : σ} {stage : Stage} {e : Failure}
    (hidle : s.stage.outstanding = 0) (h : s.lastFlush st = (.error e, stage, st')) :
    s.access.write = true ∧ s.stage.dirty = true ∧ s.stage.FlushFails st e := by
  unfold lastFlush at h
  split at h
  · rename_i hw
    rw [Stage.flush_idle st hidle] at h
    exact ⟨hw, Stage.fails_of_flushNow h⟩
  · cases h

/-- A close with no request out ends the session. -/
theorem FileClient.Linked.close {c : FileClient (Shared (Throttled MemoryStore))} {s : Session}
    {object : Bytes} {r : Except Failure Unit} {f' : StagedFile}
    {st' : Shared (Throttled MemoryStore)}
    (h : FileClient.Linked (MemoryStore.keeper fd o access).shared c s object)
    (hidle : s.stage.outstanding = 0) (hclose : c.file.close c.store = (r, f', st')) :
    Ends o c.file s c.store r f' st' := by
  have hk : (MemoryStore.keeper fd o access).shared.Keeps c.store object none := by
    rcases h.agree.idle_or_busy with ⟨_, _, hk⟩ | hbusy
    · exact hk
    · exact absurd hidle hbusy
  rw [StagedFile.close_idle h.session hidle] at hclose
  rcases hflush : s.lastFlush c.store with ⟨flushed, stage, st1⟩
  obtain ⟨object1, hk1, hview⟩ := Session.lastFlush_kept h.stage_fd hidle h.unstaged hk hflush
  have hclosed1 := Session.lastFlush_closed hflush
  rcases hraw : ObjectStore.close fd st1 with ⟨closed, st2⟩
  obtain ⟨hclosed2, hreleased, hobject⟩ := close_kept hk1 hraw
  have hrawclose : c.file.raw.close st1 = (closed, { c.file.raw with fd := none }, st2) := by
    unfold RawFile.close
    rw [h.raw]
    dsimp only
    rw [hraw]
  rw [hflush] at hclose
  dsimp only at hclose
  rw [hrawclose] at hclose
  have hone : st2.closed = s.fd :: c.store.closed := by
    rw [hclosed2, hclosed1, h.fd_eq]
  have hgone : st2.inner.inner.handles.find? s.fd = none := by
    rw [h.fd_eq]
    exact hreleased
  cases flushed with
  | error e =>
    obtain ⟨hwrite, hdirty, hfails⟩ := Session.fails_of_lastFlush hidle hflush
    cases hclose
    refine ⟨rfl, rfl, hone, hgone, by rw [hflush], ?_, ?_⟩
    · intro e' _ _ hfails'
      have hagain := Session.lastFlush_of_fails hidle hwrite hdirty hfails'
      rw [hflush] at hagain
      cases hagain
      exact ⟨rfl, rfl⟩
    · intro hnone
      exact absurd hfails (hnone hwrite hdirty e)
  | ok n =>
    cases hclose
    refine ⟨rfl, rfl, hone, hgone, by rw [hflush], ?_, ?_⟩
    · intro e hwrite hdirty hfails
      have hfailed := Session.lastFlush_of_fails hidle hwrite hdirty hfails
      rw [hflush] at hfailed
      cases hfailed
    · intro _
      rw [hflush, h.fd_eq, hraw, hobject, hview n rfl, Shared.object_eq hk]
      exact ⟨rfl, rfl⟩

/-- What a close comes to: it is refused while a request is out and changes
nothing, or it ends the session. -/
inductive Closes (o : ObjectId) (f : StagedFile) (s : Session)
    (st : Shared (Throttled MemoryStore)) :
    Except Failure Unit × StagedFile × Shared (Throttled MemoryStore) → Prop where
  | refused : s.stage.outstanding ≠ 0 →
      Closes o f s st (.error (.inFlight s.fd s.stage.outstanding), f, st)
  | ended {r : Except Failure Unit} {f' : StagedFile} {st' : Shared (Throttled MemoryStore)} :
      s.stage.outstanding = 0 → Ends o f s st r f' st' → Closes o f s st (r, f', st')

theorem FileClient.Linked.closes {c : FileClient (Shared (Throttled MemoryStore))} {s : Session}
    {object : Bytes}
    (h : FileClient.Linked (MemoryStore.keeper fd o access).shared c s object) :
    Closes o c.file s c.store (c.file.close c.store) := by
  by_cases hidle : s.stage.outstanding = 0
  · rcases hclose : c.file.close c.store with ⟨r, f', st'⟩
    exact .ended hidle (h.close hidle hclose)
  · rw [StagedFile.close_busy h.session hidle]
    exact .refused hidle

/-! ## Closes of a session that may have come to anything -/

/-- What others do who empty an object. -/
def emptied (o : ObjectId) (st : Shared (Throttled MemoryStore)) :
    Shared (Throttled MemoryStore) :=
  { st with inner := { st.inner with inner := st.inner.inner.setContent o {} } }

theorem admits_emptied (fd : Fd) (o : ObjectId) (access : Access) :
    FileClient.Admits (MemoryStore.keeper fd o access).shared (emptied o) := by
  intro st object out h
  obtain ⟨⟨job, hjob, hk⟩, hspared⟩ := h
  refine ⟨SparseBytes.toBytes {}, ⟨job, hjob, ?_⟩, hspared⟩
  refine ⟨hk.handle, ?_, hk.parked_older, hk.finished_older, hk.alone⟩
  exact congrArg SparseBytes.toBytes (MemoryStore.content_setContent_self ..)

/-- A store with a small object under a name, on which the first write and the
close fail. -/
def worn : Shared (Throttled MemoryStore) :=
  { inner := { inner := ({ delivery := .deferred } : MemoryStore).insert "log" [1, 2, 3] }
    others := fun n t =>
      { inner := { t.inner with
          faults := if n = 0 then {} else { writes := ⟨1, 28⟩, closes := ⟨1, 5⟩ } } } }

/-- The open of a file with a small stage on it. -/
def wornOpen : Except Failure Fd × StagedFile × Shared (Throttled MemoryStore) :=
  (StagedFile.ofSettings { bufferSize := 4 }).openPath "log" .readWrite worn

theorem wornOpen_ok : wornOpen = (.ok .first, wornOpen.2) := rfl

theorem wornOpen_kept :
    (MemoryStore.keeper .first 0 .readWrite).Keeps wornOpen.2.2.inner [1, 2, 3] none := by
  refine ⟨none, .nothing, rfl, ?_, ?_, ?_, ?_⟩
  · exact SparseBytes.toBytes_ofBytes [1, 2, 3]
  · intro x hx
    cases hx
  · intro x hx
    cases hx
  · intro x hx
    cases hx

theorem worn_spared : (MemoryStore.keeper .first 0 .readWrite).Spared wornOpen.2.2.others :=
  MemoryStore.spared_by_faults .first 0 .readWrite _ _

/-- However a session went, a close is refused while a request is out and
changes nothing; otherwise it ends the session. -/
theorem a_close_ends_the_session {f0 f : StagedFile} {path : String}
    {st0 st : Shared (Throttled MemoryStore)} {bytes : Bytes}
    {acts : List (FileAct (Shared (Throttled MemoryStore)))}
    {c : FileClient (Shared (Throttled MemoryStore))}
    (hopen : f0.openPath path access st0 = (.ok fd, f, st))
    (hkept : (MemoryStore.keeper fd o access).Keeps st.inner bytes none)
    (hspared : (MemoryStore.keeper fd o access).Spared st.others)
    (hothers : ∀ act, FileAct.others act ∈ acts →
      FileClient.Admits (MemoryStore.keeper fd o access).shared act)
    (hrun : FileClient.run { file := f, store := st } acts = c) :
    ∃ s, c.file.session = some s ∧ s.fd = fd ∧ s.path = path ∧ s.access = access ∧
      Closes o c.file s c.store (c.file.close c.store) := by
  have hk : (MemoryStore.keeper fd o access).shared.Keeps st bytes none := ⟨hkept, hspared⟩
  obtain ⟨s0, hlinked, hpath, haccess⟩ := FileClient.linked_of_open hopen hk
  obtain ⟨s, object, hran, hgoes⟩ := hlinked.run acts hothers
  rw [hrun] at hran
  exact ⟨s, hran.session, hran.fd_eq, hgoes.path.trans hpath, hgoes.access.trans haccess,
    hran.closes⟩

/-- Others empty the object in the middle of the session, the bytes that are
staged do not reach it, and the close of the store fails too. -/
theorem a_close_ends_the_session_on_a_worn_store :
    wornOpen = (.ok .first, wornOpen.2) ∧
      ∃ s, (FileClient.run { file := wornOpen.2.1, store := wornOpen.2.2 }
          [.ask (.write 1 [9, 8]), .others (emptied 0), .stat]).file.session = some s ∧
        s.fd = .first ∧ s.path = "log" ∧ s.access = .readWrite ∧
        Closes 0 (FileClient.run { file := wornOpen.2.1, store := wornOpen.2.2 }
            [.ask (.write 1 [9, 8]), .others (emptied 0), .stat]).file s
          (FileClient.run { file := wornOpen.2.1, store := wornOpen.2.2 }
            [.ask (.write 1 [9, 8]), .others (emptied 0), .stat]).store
          ((FileClient.run { file := wornOpen.2.1, store := wornOpen.2.2 }
            [.ask (.write 1 [9, 8]), .others (emptied 0), .stat]).file.close
          (FileClient.run { file := wornOpen.2.1, store := wornOpen.2.2 }
            [.ask (.write 1 [9, 8]), .others (emptied 0), .stat]).store) := by
  refine ⟨wornOpen_ok, a_close_ends_the_session wornOpen_ok wornOpen_kept worn_spared ?_ rfl⟩
  intro act hact
  have hemptied : act = emptied 0 := by simpa using hact
  rw [hemptied]
  exact admits_emptied .first 0 .readWrite

end StagedFiles
