-- A file that was opened without write access, over a store in memory that others use
-- as well. Whatever is done with it, its calls on the store are those of a reader, so
-- the object behind it stays as it is and the log shows no write of its descriptor.
-- Writes are refused before the stage hears of them, and a flush has nothing to do.
import StagedFiles.Proofs.ReadOnlyCalls
import StagedFiles.Proofs.ReadOnlyObjects

namespace StagedFiles

/-! ## A store that others use -/

theorem Throttled.on_reads {σ : Type} [ObjectStore σ] {fd : Fd} {call : StoreCall}
    (hreads : call.ReadsBy fd) (t : Throttled σ) :
    ∃ inner : StoreCall, inner.ReadsBy fd ∧ (call.on t).inner = inner.on t.inner := by
  cases call with
  | readAt fd' offset len =>
    exact ⟨.readAt fd' offset (Limits.capped t.limits.maxRead len), hreads, rfl⟩
  | submitRead fd' offset len =>
    exact ⟨.submitRead fd' offset (Limits.capped t.limits.maxRead len + t.limits.extraRead),
      hreads, rfl⟩
  | await ticket => exact ⟨.await ticket, hreads, rfl⟩
  | stat fd' => exact ⟨.stat fd', hreads, rfl⟩
  | sync fd' => exact ⟨.sync fd', hreads, rfl⟩
  | truncate fd' len => exact ⟨.truncate fd' len, hreads, rfl⟩
  | close fd' => exact ⟨.close fd', hreads, rfl⟩
  | openPath _ _ => exact hreads.elim
  | writeAt _ _ _ => exact hreads.elim
  | submitWrite _ _ _ => exact hreads.elim
  | statPath _ => exact hreads.elim
  | truncatePath _ _ => exact hreads.elim
  | unlinkPath _ => exact hreads.elim

/-- Others act before each call, and stay who they are. -/
theorem Shared.on_eq {σ : Type} [ObjectStore σ] (call : StoreCall) (st : Shared σ) :
    (call.on st).inner = call.on (st.others st.calls st.inner) ∧
      (call.on st).others = st.others := by
  cases call with
  | openPath _ _ => exact ⟨rfl, rfl⟩
  | close _ => exact ⟨rfl, rfl⟩
  | readAt _ _ _ => exact ⟨rfl, rfl⟩
  | writeAt _ _ _ => exact ⟨rfl, rfl⟩
  | submitRead _ _ _ => exact ⟨rfl, rfl⟩
  | submitWrite _ _ _ => exact ⟨rfl, rfl⟩
  | await _ => exact ⟨rfl, rfl⟩
  | stat _ => exact ⟨rfl, rfl⟩
  | sync _ => exact ⟨rfl, rfl⟩
  | truncate _ _ => exact ⟨rfl, rfl⟩
  | statPath _ => exact ⟨rfl, rfl⟩
  | truncatePath _ _ => exact ⟨rfl, rfl⟩
  | unlinkPath _ => exact ⟨rfl, rfl⟩

namespace MemoryStore

/-- Someone leaves the object that the descriptor reads, whatever it holds. -/
def LeavesRead (fd : Fd) (o : ObjectId) (act : Throttled MemoryStore → Throttled MemoryStore) :
    Prop :=
  ∀ t bytes records, Untouched fd o bytes records t.inner →
    Untouched fd o bytes records (act t).inner

/-- Those who arm faults and set limits do. -/
theorem leavesRead_faults (fd : Fd) (o : ObjectId) (faults : Faults) (limits : Limits) :
    LeavesRead fd o fun t => { inner := { t.inner with faults }, limits } :=
  fun t _ _ h => h.charged t.inner.counts faults

/-- So do those who have all that is parked run. -/
theorem leavesRead_runParked (fd : Fd) (o : ObjectId) :
    LeavesRead fd o fun t => (t.pass MemoryStore.runParked).2 :=
  fun _ _ _ h => h.runParked

end MemoryStore

/-- The object is untouched, and the others leave it so. -/
structure Shared.Stands (fd : Fd) (o : ObjectId) (bytes : Bytes) (records : List WriteRecord)
    (st : Shared (Throttled MemoryStore)) : Prop where
  untouched : st.inner.inner.Untouched fd o bytes records
  spared : ∀ n, MemoryStore.LeavesRead fd o (st.others n)

variable {fd : Fd} {o : ObjectId} {bytes : Bytes} {records : List WriteRecord}
  {st st' : Shared (Throttled MemoryStore)}

/-- A reader's calls leave it as well. -/
theorem Shared.Stands.reads (h : st.Stands fd o bytes records) (hreads : ReadsOn fd st st') :
    st'.Stands fd o bytes records := by
  refine hreads.keeps (P := fun st => st.Stands fd o bytes records) ?_ h
  intro call st1 hcall hstands
  obtain ⟨hinner, hothers⟩ := Shared.on_eq call st1
  obtain ⟨inner, hread, hon⟩ := Throttled.on_reads hcall (st1.others st1.calls st1.inner)
  refine ⟨?_, by rw [hothers]; exact hstands.spared⟩
  rw [hinner, hon]
  exact (hstands.spared st1.calls st1.inner bytes records hstands.untouched).on hread

/-! ## What is done with the file -/

/-- What is done with a file that was opened, or to the store under it. -/
inductive Handling (σ : Type) where
  | act (act : FileAct σ)
  | close
  | drop

/-- Others act, and not the file. -/
def Handling.ByOthers {σ : Type} : Handling σ → Prop
  | .act (.others _) => True
  | .act (.ask _) | .act (.readRaw ..) | .act (.readv _) | .act .stat | .act .sync
  | .act (.truncate _) | .close | .drop => False

namespace FileClient

variable {σ : Type} [ObjectStore σ]

def handle (c : FileClient σ) : Handling σ → FileClient σ
  | .act act => c.step act
  | .close =>
    let (_, file, store) := c.file.close c.store
    { c with file, store }
  | .drop =>
    let (file, store) := c.file.drop c.store
    { c with file, store }

/-- All of it in order. -/
def handleAll (c : FileClient σ) (handlings : List (Handling σ)) : FileClient σ :=
  handlings.foldl handle c

end FileClient

/-! ## A file of a reader -/

/-- A file without write access whose stage, if it is open, has nothing staged. -/
structure StagedFile.ForReading (f : StagedFile) (fd : Fd) : Prop where
  access : ∀ s, f.session = some s → s.access.write = false
  plain : ∀ s, f.session = some s → s.stage.Plain fd
  raw : ∀ fd', f.raw.fd = some fd' → fd' = fd

section Calls

variable {σ : Type} [ObjectStore σ] {st st' : σ} {f f' : StagedFile} {c : FileClient σ}

namespace StagedFile

/-- The close flushes nothing. -/
theorem ForReading.close {r : Except Failure Unit} (h : f.ForReading fd)
    (hc : f.close st = (r, f', st')) : ReadsOn fd st st' ∧ f'.ForReading fd := by
  rcases hs : f.session with _ | s
  · rw [close_shut hs] at hc
    cases hc
    exact ⟨.stay, h⟩
  · by_cases hidle : s.stage.outstanding = 0
    · rw [close_idle hs hidle] at hc
      have hflush : s.lastFlush st = (.ok 0, s.stage, st) := by
        unfold Session.lastFlush
        rw [h.access s hs]
        rfl
      rcases hraw : f.raw.close st with ⟨closed, raw, st1⟩
      obtain ⟨hreads, hfd⟩ := RawFile.close_reads h.raw hraw
      rw [hflush] at hc
      dsimp only at hc
      rw [hraw] at hc
      cases hc
      refine ⟨hreads, ?_, ?_, hfd⟩
      · intro s' hs'
        cases hs'
      · intro s' hs'
        cases hs'
    · rw [close_busy hs hidle] at hc
      cases hc
      exact ⟨.stay, h⟩

theorem ForReading.drop (h : f.ForReading fd) (hd : f.drop st = (f', st')) :
    ReadsOn fd st st' ∧ f'.ForReading fd := by
  unfold StagedFile.drop at hd
  rcases hc : f.close st with ⟨r, f1, st1⟩
  obtain ⟨hreads, hclosed⟩ := h.close hc
  rw [hc] at hd
  cases hd
  refine ⟨hreads.trans (RawFile.drop_reads hclosed.raw st1), hclosed.access, hclosed.plain, ?_⟩
  intro fd' hnone
  cases hnone

/-- A file that is shut takes no writes either. -/
theorem ForReading.writable (h : f.ForReading fd) :
    ∃ e, f.writable = .error e ∧ e.errno = -Errno.badDescriptor := by
  unfold StagedFile.writable
  rcases hs : f.session with _ | s
  · exact ⟨.notOpen, rfl, rfl⟩
  · exact ⟨.badDescriptor .writing, by simp only [h.access s hs]; rfl, rfl⟩

theorem ForReading.flush_open {s : Session} (h : f.ForReading fd) (hs : f.session = some s)
    (st : σ) :
    f.flush st =
      (if s.stage.outstanding = 0 then .ok 0 else .error (.inFlight fd s.stage.outstanding), f,
        st) := by
  have hplain := h.plain s hs
  have hsame : f.withStage s s.stage = f := by
    unfold StagedFile.withStage
    rw [← hs]
  simp only [StagedFile.flush, StagedFile.opened, hs, hplain.flush, hplain.fd_eq, hsame]

theorem pass_reads {α : Type} {call : RawFile → σ → Except Failure α × σ} {r : Except Failure α}
    (hcall : ∀ r st', call f.raw st = (r, st') → ReadsOn fd st st')
    (h : f.pass call st = (r, f', st')) : ReadsOn fd st st' ∧ f' = f := by
  unfold pass at h
  split at h
  · cases h
    exact ⟨.stay, rfl⟩
  · rcases hc : call f.raw st with ⟨q, st1⟩
    rw [hc] at h
    cases h
    exact ⟨hcall _ _ hc, rfl⟩

theorem ForReading.readv {extents : List Extent} {r : Except Failure (List Bytes)}
    (h : f.ForReading fd) (hr : f.readv extents st = (r, f', st')) :
    ReadsOn fd st st' ∧ f'.ForReading fd := by
  unfold StagedFile.readv at hr
  rcases hp : f.pass (fun raw st => raw.readv extents st) st with ⟨q, f1, st1⟩
  obtain ⟨hreads, rfl⟩ :=
    pass_reads (fun r st' hr => (RawFile.readv_reads hr).readsOn h.raw) hp
  rw [hp] at hr
  cases q with
  | error e =>
    cases hr
    exact ⟨hreads, h⟩
  | ok pieces =>
    cases hr
    exact ⟨hreads, h.access, h.plain, h.raw⟩

end StagedFile

/-! ## What every handling keeps -/

/-- What is asked of a stage, but for data to write, makes a reader's calls. -/
theorem Client.step_reads {k k' : Client σ} {act : Act} {reply : Reply} (hp : k.stage.Plain fd)
    (ha : act.writes = false) (h : k.step act = (reply, k')) :
    ReadsOn fd k.store k'.store ∧ k'.stage.Plain fd := by
  cases act with
  | read offset len =>
    rcases hr : k.stage.read offset len k.store with ⟨r, stage, store⟩
    simp only [Client.step, hr] at h
    cases h
    exact Stage.read_reads hp hr
  | write _ _ => cases ha
  | flush =>
    simp only [Client.step, hp.flush] at h
    cases h
    exact ⟨.stay, hp⟩
  | readAio offset len =>
    rcases hr : k.stage.readAio offset len k.store with ⟨r, stage, store⟩
    simp only [Client.step, hr] at h
    cases h
    exact Stage.readAio_reads hp hr
  | writeAio _ _ => cases ha
  | deliver =>
    rcases hdue : k.due with _ | ⟨ticket, asked⟩
    · simp only [Client.step, hdue] at h
      cases h
      exact ⟨.stay, hp⟩
    · rcases hw : ObjectStore.await ticket k.store with ⟨_ | done, store⟩
      · simp only [Client.step, hdue, hw] at h
        cases h
        exact ⟨.one (.await ticket) trivial (congrArg Prod.snd hw), hp⟩
      · simp only [Client.step, hdue, hw] at h
        cases h
        exact ⟨.one (.await ticket) trivial (congrArg Prod.snd hw), hp.complete done⟩

namespace FileClient

/-- Nothing but a completion still comes to a file that is shut. -/
theorem ask_shut_reads (hs : c.file.session = none) (act : Act) :
    ReadsOn fd c.store (c.ask act).store ∧ (c.ask act).file = c.file := by
  cases act with
  | read offset len =>
    simp only [ask, StagedFile.read_shut hs]
    exact ⟨.stay, trivial⟩
  | write offset data =>
    simp only [ask, StagedFile.write_shut hs]
    exact ⟨.stay, trivial⟩
  | flush =>
    simp only [ask, StagedFile.flush_shut hs]
    exact ⟨.stay, trivial⟩
  | readAio offset len =>
    simp only [ask, StagedFile.readAio_shut hs]
    exact ⟨.stay, trivial⟩
  | writeAio offset data =>
    simp only [ask, StagedFile.writeAio_shut hs]
    exact ⟨.stay, trivial⟩
  | deliver =>
    rcases hdue : c.due with _ | ⟨ticket, asked⟩
    · simp only [ask, hdue]
      exact ⟨.stay, trivial⟩
    · rcases hw : ObjectStore.await ticket c.store with ⟨_ | done, store⟩
      · simp only [ask, hdue, hw]
        exact ⟨.one (.await ticket) trivial (congrArg Prod.snd hw), trivial⟩
      · simp only [ask, hdue, hw, StagedFile.complete, hs]
        exact ⟨.one (.await ticket) trivial (congrArg Prod.snd hw), trivial⟩

theorem ask_reads (h : c.file.ForReading fd) (act : Act) :
    ReadsOn fd c.store (c.ask act).store ∧ (c.ask act).file.ForReading fd := by
  rcases hs : c.file.session with _ | s
  · obtain ⟨hreads, hfile⟩ := ask_shut_reads hs act
    refine ⟨hreads, ?_⟩
    rw [hfile]
    exact h
  · by_cases ha : act.writes = true
    · rw [ask_refused hs (h.access s hs) ha]
      exact ⟨.stay, h⟩
    · have hfollows := ask_follows hs fun hwrites => absurd hwrites ha
      rcases hstep : (c.client s).step act with ⟨reply, k⟩
      obtain ⟨hreads, hplain⟩ := Client.step_reads (h.plain s hs) (by simpa using ha) hstep
      rw [hstep] at hfollows
      refine ⟨hfollows.store ▸ hreads, ?_, ?_, ?_⟩
      · intro s' hs'
        rw [hfollows.session] at hs'
        cases hs'
        exact h.access s hs
      · intro s' hs'
        rw [hfollows.session] at hs'
        cases hs'
        exact hplain
      · rw [hfollows.raw]
        exact h.raw

theorem pass_reads {α : Type} (h : c.file.ForReading fd)
    (call : RawFile → σ → Except Failure α × σ)
    (hcall : ∀ r st', call c.file.raw c.store = (r, st') → ReadsOn fd c.store st') :
    ReadsOn fd c.store (c.pass call).store ∧ (c.pass call).file.ForReading fd := by
  rcases hp : c.file.pass call c.store with ⟨r, file, store⟩
  obtain ⟨hreads, rfl⟩ := StagedFile.pass_reads hcall hp
  simp only [FileClient.pass, hp]
  exact ⟨hreads, h⟩

theorem step_reads (h : c.file.ForReading fd) {act : FileAct σ}
    (hown : ¬ (Handling.act act).ByOthers) :
    ReadsOn fd c.store (c.step act).store ∧ (c.step act).file.ForReading fd := by
  cases act with
  | ask act => exact ask_reads h act
  | readRaw offset len =>
    exact pass_reads h (fun raw st => raw.read offset len st) fun r st' hr =>
      (RawFile.read_reads hr).readsOn h.raw
  | readv extents =>
    rcases hr : c.file.readv extents c.store with ⟨r, file, store⟩
    simp only [step, hr]
    exact h.readv hr
  | stat =>
    exact pass_reads h (fun raw st => raw.stat st) fun r st' hs =>
      (RawFile.stat_makes hs).leads h.raw
  | sync =>
    exact pass_reads h (fun raw st => raw.sync st) fun r st' hs =>
      (RawFile.sync_makes hs).leads h.raw
  | truncate len =>
    exact pass_reads h (fun raw st => raw.truncate len st) fun r st' ht =>
      (RawFile.truncate_makes ht).leads h.raw
  | others act => exact absurd trivial hown

/-- The file makes a reader's calls and stays a reader's. -/
theorem handle_reads (h : c.file.ForReading fd) {handling : Handling σ}
    (hown : ¬ handling.ByOthers) :
    ReadsOn fd c.store (c.handle handling).store ∧ (c.handle handling).file.ForReading fd := by
  cases handling with
  | act act => exact step_reads h hown
  | close => exact h.close rfl
  | drop => exact h.drop rfl

end FileClient

end Calls

/-! ## Whatever is done with the file -/

/-- What is so of a file that was opened on an object without write access. -/
structure FileClient.NeverWrites (fd : Fd) (o : ObjectId) (bytes : Bytes)
    (records : List WriteRecord) (c : FileClient (Shared (Throttled MemoryStore))) : Prop where
  state : ∀ s, c.file.session = some s → s.stage.state ≠ .writePending
  write : ∀ offset data, ∃ e, c.file.write offset data c.store = (.error e, c.file, c.store) ∧
    e.errno = -Errno.badDescriptor
  writeAio : ∀ offset data, ∃ e,
    c.file.writeAio offset data c.store = (.error e, c.file, c.store) ∧
      e.errno = -Errno.badDescriptor
  /-- A flush finds nothing to write, or a request out. -/
  flush : ∀ s, c.file.session = some s →
    c.file.flush c.store =
      (if s.stage.outstanding = 0 then .ok 0 else .error (.inFlight fd s.stage.outstanding),
        c.file, c.store)
  /-- A file that is shut has nothing to flush. -/
  shut : c.file.session = none → c.file.flush c.store = (.error .notOpen, c.file, c.store)
  /-- The next thing that is done with the file makes a reader's calls. -/
  reads : ∀ handling : Handling (Shared (Throttled MemoryStore)), ¬ handling.ByOthers →
    ReadsOn fd c.store (c.handle handling).store
  /-- No length is set through the file. -/
  truncate : ∀ len, ∃ e,
    (c.file.pass (fun raw st => raw.truncate len st) c.store).1 = .error e
  object : c.store.object o = bytes
  logged : c.store.inner.inner.log.filter (·.fd = fd) = records

/-- Others leave the object that the descriptor reads, and those who act with them. -/
def Shared.LeavesRead (fd : Fd) (o : ObjectId)
    (act : Shared (Throttled MemoryStore) → Shared (Throttled MemoryStore)) : Prop :=
  ∀ st bytes records, st.Stands fd o bytes records → (act st).Stands fd o bytes records

/-- A reader's file over an object that stands. -/
structure FileClient.Reading (fd : Fd) (o : ObjectId) (bytes : Bytes) (records : List WriteRecord)
    (c : FileClient (Shared (Throttled MemoryStore))) : Prop where
  file : c.file.ForReading fd
  stands : c.store.Stands fd o bytes records

namespace FileClient.Reading

variable {c : FileClient (Shared (Throttled MemoryStore))}

/-- What is done with the file keeps it so, and what others do who leave the object. -/
theorem handle (h : c.Reading fd o bytes records)
    {handling : Handling (Shared (Throttled MemoryStore))}
    (hothers : ∀ act, handling = .act (.others act) → Shared.LeavesRead fd o act) :
    (c.handle handling).Reading fd o bytes records := by
  by_cases hown : handling.ByOthers
  · cases handling with
    | act act =>
      cases act with
      | others act => exact ⟨h.file, hothers act rfl c.store bytes records h.stands⟩
      | ask _ => exact hown.elim
      | readRaw _ _ => exact hown.elim
      | readv _ => exact hown.elim
      | stat => exact hown.elim
      | sync => exact hown.elim
      | truncate _ => exact hown.elim
    | close => exact hown.elim
    | drop => exact hown.elim
  · obtain ⟨hreads, hfile⟩ := handle_reads h.file hown
    exact ⟨hfile, h.stands.reads hreads⟩

theorem handleAll (h : c.Reading fd o bytes records)
    (handlings : List (Handling (Shared (Throttled MemoryStore))))
    (hothers : ∀ act, .act (.others act) ∈ handlings → Shared.LeavesRead fd o act) :
    (c.handleAll handlings).Reading fd o bytes records := by
  induction handlings generalizing c with
  | nil => exact h
  | cons handling handlings ih =>
    refine ih (h.handle ?_) fun act hact => hothers act (List.mem_cons_of_mem _ hact)
    intro act hact
    exact hothers act (hact ▸ List.mem_cons_self)

/-- The others may act before the store is asked, and still no length is set. -/
theorem truncate_refused (h : c.Reading fd o bytes records) (len : Nat) :
    ∃ e, (c.file.pass (fun raw st => raw.truncate len st) c.store).1 = .error e := by
  unfold StagedFile.pass
  rcases c.file.session with _ | s
  · exact ⟨_, rfl⟩
  · dsimp only
    unfold RawFile.truncate RawFile.requireFd
    rcases hfd : c.file.raw.fd with _ | fd'
    · exact ⟨_, rfl⟩
    · obtain rfl := h.file.raw fd' hfd
      obtain ⟨e, he⟩ := (h.stands.spared c.store.calls c.store.inner bytes records
        h.stands.untouched).truncate_refused len
      exact ⟨e, congrArg Prod.fst he⟩

theorem neverWrites (h : c.Reading fd o bytes records) : c.NeverWrites fd o bytes records where
  state s hs := (h.file.plain s hs).state
  write offset data := by
    obtain ⟨e, he, herrno⟩ := h.file.writable
    exact ⟨e, by simp only [StagedFile.write, he], herrno⟩
  writeAio offset data := by
    obtain ⟨e, he, herrno⟩ := h.file.writable
    exact ⟨e, by simp only [StagedFile.writeAio, he], herrno⟩
  flush s hs := h.file.flush_open hs c.store
  shut hs := StagedFile.flush_shut hs c.store
  reads handling hown := (handle_reads h.file hown).1
  truncate := h.truncate_refused
  object := h.stands.untouched.content
  logged := h.stands.untouched.logged

end FileClient.Reading

/-! ## From the open on -/

section Opened

variable {f0 f : StagedFile} {path : String} {access : Access}
  {st0 : Shared (Throttled MemoryStore)}

theorem StagedFile.openPath_forReading
    (hopen : f0.openPath path access st0 = (.ok fd, f, st)) (hread : access.write = false) :
    f.ForReading fd := by
  obtain ⟨-, stage, hbuild, rfl⟩ := StagedFile.openPath_ok hopen
  obtain ⟨hpos, rfl⟩ := Stage.build_eq_ok_iff.mp hbuild
  refine ⟨?_, ?_, ?_⟩
  · intro s hs
    cases hs
    exact hread
  · intro s hs
    cases hs
    exact ⟨rfl, rfl⟩
  · intro fd' hfd
    cases hfd
    rfl

/-- The handle of the descriptor has the access that was asked for. -/
theorem StagedFile.openPath_handle (hopen : f0.openPath path access st0 = (.ok fd, f, st)) :
    ∃ o, st.inner.inner.handles.find? fd = some ⟨o, access⟩ := by
  obtain ⟨hstore, -⟩ := StagedFile.openPath_ok hopen
  have hinner : ObjectStore.openPath path access (st0.others st0.calls st0.inner) =
      (.ok fd, st.inner) := by
    rcases ho : ObjectStore.openPath path access (st0.others st0.calls st0.inner) with ⟨r, t⟩
    have hturn : ObjectStore.openPath path access st0 =
        (r, { st0 with inner := t, calls := st0.calls + 1 }) := by
      show st0.turn (ObjectStore.openPath path access) = _
      unfold Shared.turn
      rw [ho]
    rw [hturn] at hstore
    cases hstore
    rfl
  exact MemoryStore.openPath_handle (Throttled.pass_eq hinner)

end Opened

/-- A file that was opened without write access never writes, whatever is done with it and
whatever fails: neither to the object it is open on nor to any other that nothing else
changes. -/
theorem a_file_without_write_access_never_writes {f0 f : StagedFile} {path : String}
    {access : Access} {st0 : Shared (Throttled MemoryStore)}
    {handlings : List (Handling (Shared (Throttled MemoryStore)))}
    (hopen : f0.openPath path access st0 = (.ok fd, f, st)) (hread : access.write = false)
    (hparked : ∀ x ∈ st.inner.inner.parked, ¬ st.inner.inner.LandsIn o x.2)
    (hspared : ∀ n, MemoryStore.LeavesRead fd o (st.others n))
    (hothers : ∀ act, .act (.others act) ∈ handlings → Shared.LeavesRead fd o act) :
    (FileClient.handleAll { file := f, store := st } handlings).NeverWrites fd o (st.object o)
      (st.inner.inner.log.filter (·.fd = fd)) := by
  have hbarred : ∀ h, st.inner.inner.handles.find? fd = some h → h.access.write = false := by
    intro h hh
    obtain ⟨p, hp⟩ := StagedFile.openPath_handle hopen
    rw [hp] at hh
    cases hh
    exact hread
  have hreading : FileClient.Reading fd o (st.object o) (st.inner.inner.log.filter (·.fd = fd))
      { file := f, store := st } :=
    ⟨StagedFile.openPath_forReading hopen hread, ⟨hbarred, rfl, rfl, hparked⟩, hspared⟩
  exact (hreading.handleAll handlings hothers).neverWrites

/-- The open of a file on the worn store, to read. -/
def wornReading : Except Failure Fd × StagedFile × Shared (Throttled MemoryStore) :=
  (StagedFile.ofSettings { bufferSize := 4 }).openPath "log" .readOnly worn

theorem wornReading_ok : wornReading = (.ok .first, wornReading.2) := rfl

theorem wornReading_object : wornReading.2.2.object 0 = [1, 2, 3] :=
  SparseBytes.toBytes_ofBytes [1, 2, 3]

/-- The others have all that is parked run. -/
def allRun (st : Shared (Throttled MemoryStore)) : Shared (Throttled MemoryStore) :=
  { st with inner := (st.inner.pass MemoryStore.runParked).2 }

theorem leavesRead_allRun (fd : Fd) (o : ObjectId) : Shared.LeavesRead fd o allRun :=
  fun _ _ _ h => ⟨MemoryStore.leavesRead_runParked fd o _ _ _ h.untouched, h.spared⟩

/-- A read is parked and runs, a write is refused, the length stays, and the close fails. -/
theorem a_reader_of_a_worn_store_never_writes :
    wornReading = (.ok .first, wornReading.2) ∧
      wornReading.2.2.inner.inner.handles.find? .first = some ⟨0, .readOnly⟩ ∧
      (FileClient.handleAll { file := wornReading.2.1, store := wornReading.2.2 }
        [.act (.ask (.readAio 0 2)), .act (.ask (.write 0 [9])), .act (.others allRun),
          .act (.ask .deliver), .act (.truncate 1), .close, .drop]).NeverWrites .first 0 [1, 2, 3]
            [] := by
  refine ⟨wornReading_ok, rfl, ?_⟩
  rw [← wornReading_object]
  refine a_file_without_write_access_never_writes wornReading_ok rfl ?_ ?_ ?_
  · intro x hx
    cases hx
  · intro n
    exact MemoryStore.leavesRead_faults .first 0 _ {}
  · intro act hact
    have hall : act = allRun := by simpa using hact
    rw [hall]
    exact leavesRead_allRun .first 0

/-- The open of a file to read, on a store where nothing fails. -/
def calmReading : Except Failure Fd × StagedFile × Shared (Throttled MemoryStore) :=
  (StagedFile.ofSettings { bufferSize := 4 }).openPath "log" .readOnly
    { inner := { inner := ({} : MemoryStore).insert "log" [1, 2, 3] } }

/-- The file after its close. -/
def readingClosed : FileClient (Shared (Throttled MemoryStore)) :=
  FileClient.handleAll { file := calmReading.2.1, store := calmReading.2.2 } [.close]

/-- It was open to read, and a flush of it says neither that there was nothing to write nor
that a request is out. -/
theorem a_flush_after_the_close_is_refused :
    calmReading.1 = .ok .first ∧
      ∃ r, (readingClosed.file.flush readingClosed.store).1 = r ∧ r ≠ .ok 0 ∧
        ∀ fd n, r ≠ .error (.inFlight fd n) := by
  refine ⟨rfl, .error .notOpen, rfl, ?_, ?_⟩
  · intro h
    cases h
  · intro fd n h
    cases h

end StagedFiles
