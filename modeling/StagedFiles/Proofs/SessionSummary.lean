-- The summary of a session, from its open to its close. It has the bytes that the
-- callers were told went, whatever failed. When no write and no hand-in went wrong
-- and the close comes out well, its counters, those of the adapter and the log of
-- the store come to the same sums.
import StagedFiles.Proofs.SessionBooks

namespace StagedFiles

variable {σ : Type} [ObjectStore σ] {fd : Fd} {A : Auditor σ fd}

/-! ## Books that are void -/

namespace FileClient

theorem ask_used (c : FileClient σ) (act : Act) : Used c.store (c.ask act).store := by
  cases act with
  | read offset len =>
    rcases hr : c.file.read offset len c.store with ⟨r, file, store⟩
    simp only [ask, hr]
    exact (StagedFile.read_used hr).1
  | write offset data =>
    rcases hw : c.file.write offset data c.store with ⟨r, file, store⟩
    simp only [ask, hw]
    exact (StagedFile.write_used hw).1
  | flush =>
    rcases hf : c.file.flush c.store with ⟨r, file, store⟩
    simp only [ask, hf]
    exact (StagedFile.flush_used hf).1
  | readAio offset len =>
    rcases hr : c.file.readAio offset len c.store with ⟨r, file, store⟩
    simp only [ask, hr]
    exact (StagedFile.readAio_used hr).1
  | writeAio offset data =>
    rcases hw : c.file.writeAio offset data c.store with ⟨r, file, store⟩
    simp only [ask, hw]
    exact (StagedFile.writeAio_used hw).1
  | deliver =>
    rcases hdue : c.due with _ | ⟨ticket, asked⟩
    · simp only [ask, hdue]
      exact .stay
    · have hawait : Used c.store (ObjectStore.await ticket c.store).2 :=
        .one (.await ticket) trivial rfl
      rcases ha : ObjectStore.await ticket c.store with ⟨_ | done, store⟩
      · rw [ha] at hawait
        simp only [ask, hdue, ha]
        exact hawait
      · rw [ha] at hawait
        simp only [ask, hdue, ha]
        exact hawait

theorem pass_used {α : Type} (c : FileClient σ) (call : RawFile → σ → Except Failure α × σ)
    (hcall : ∀ r st, call c.file.raw c.store = (r, st) → Used c.store st) :
    Used c.store (c.pass call).store := by
  rcases hp : c.file.pass call c.store with ⟨r, file, store⟩
  simp only [pass, hp]
  exact (StagedFile.pass_used hcall hp).1

/-- Books that are void stay so, whatever is done. -/
theorem step_void {c : FileClient σ} {act : FileAct σ} (h : A.Void c.store)
    (hothers : ∀ f, act = .others f → A.Admits f) : A.Void (c.step act).store := by
  cases act with
  | ask act => exact A.void_leads h (c.ask_used act)
  | readRaw offset len =>
    exact A.void_leads h (c.pass_used _ fun _ _ hr => (RawFile.read_reads hr).light.used)
  | readv extents =>
    rcases hr : c.file.readv extents c.store with ⟨r, file, store⟩
    simp only [step, hr]
    exact A.void_leads h (StagedFile.readv_used hr).1
  | stat => exact A.void_leads h (c.pass_used _ fun _ _ hr => (RawFile.stat_light hr).used)
  | sync => exact A.void_leads h (c.pass_used _ fun _ _ hr => (RawFile.sync_light hr).used)
  | truncate len =>
    exact A.void_leads h (c.pass_used _ fun _ _ hr => (RawFile.truncate_light hr).used)
  | others f => exact (hothers f rfl).void h

end FileClient

/-! ## From the open to the close -/

/-- A session that was just opened on a descriptor with clean books. -/
theorem FileClient.audited_of_open {f f' : StagedFile} {path : String} {access : Access}
    {st st' : σ} (hbooks : A.Books st' 0 none) (hopen : f.openPath path access st = (.ok fd, f', st')) :
    ∃ s, Audited A { file := f', store := st' } {} s := by
  obtain ⟨-, stage, hbuild, rfl⟩ := StagedFile.openPath_ok hopen
  obtain ⟨hpos, rfl⟩ := Stage.build_eq_ok_iff.mp hbuild
  exact ⟨_, rfl, rfl, fun _ => rfl, rfl, 0, rfl, .rests ⟨rfl, 0, rfl, rfl, rfl, rfl, hbooks⟩⟩

/-- The bytes of a summary: those that callers were told went in writes are those
that the adapter wrote and that the log has, and of them the stage flushed what
calls that wait and large requests wrote. -/
structure Summary.Balances (m : Summary) (large logged : Nat) : Prop where
  written : m.bytes.write + m.cache.aioWriteBytes = m.io.write.bytes
  logged : m.io.write.bytes = logged.toUInt64
  flushed : m.cache.flushedBytes = m.bytes.write + large.toUInt64

/-- The last flush of a session that agrees writes all that is staged. -/
theorem FileClient.Audited.lastFlush {c : FileClient σ} {t : Tally} {s : Session} {stage : Stage}
    {r : Except Failure Nat} {st : σ} (h : Audited A c t s) (hidle : s.stage.outstanding = 0)
    (hflush : s.lastFlush c.store = (r, stage, st)) :
    A.Void st ∨ ∃ direct, t.writeAio = t.large + direct ∧
      stage.Even A st (t.write + t.large) direct none (t.write + t.large) := by
  obtain ⟨direct, hdirect, hagrees⟩ := h.agrees
  rcases hagrees.idle_or_busy with ⟨-, hrests⟩ | hbusy
  · have hall : stage.dirty = false ∧ stage.Rests A st (t.write + t.large) direct →
        ∃ direct, t.writeAio = t.large + direct ∧
          stage.Even A st (t.write + t.large) direct none (t.write + t.large) := by
      rintro ⟨hclean, -, flushed, heven⟩
      obtain rfl := heven.all_flushed hclean
      exact ⟨direct, hdirect, heven⟩
    unfold Session.lastFlush at hflush
    split at hflush
    · exact (Stage.flush_rests hrests hflush).imp_right hall
    · rename_i hwrite
      cases hflush
      exact .inr (hall ⟨h.unstaged (by simpa using hwrite), hrests⟩)
  · exact absurd hidle hbusy

/-- When the close comes out well, the summary that is kept has the sums of the books. -/
theorem FileClient.Audited.close {c : FileClient σ} {t : Tally} {s : Session} {g : StagedFile}
    {st' : σ} (h : Audited A c t s) (hholds : c.file.Holds t)
    (hclose : c.file.close c.store = (.ok (), g, st')) :
    A.Void st' ∨ ∃ m n, g.summary = some m ∧ m.Holds t ∧ m.Balances t.large n ∧
      ∃ st, A.Books st n none ∧ ObjectStore.close fd st = (.ok (), st') := by
  by_cases hidle : s.stage.outstanding = 0
  · rcases hflush : s.lastFlush c.store with ⟨flushed, stage, st1⟩
    rcases hraw : ObjectStore.close fd st1 with ⟨closed, st2⟩
    have hrawclose : c.file.raw.close st1 = (closed, { c.file.raw with fd := none }, st2) := by
      unfold RawFile.close
      rw [h.raw]
      dsimp only
      rw [hraw]
    have hall := hholds.close hclose
    rw [StagedFile.close_idle h.session hidle, hflush] at hclose
    dsimp only at hclose
    rw [hrawclose] at hclose
    cases flushed with
    | error e => cases hclose
    | ok n =>
      cases hclose
      rcases h.lastFlush hidle hflush with hv | ⟨direct, hdirect, heven⟩
      · exact .inl (A.void_leads hv (RawFile.close_called hrawclose))
      · have hm := hall _ rfl
        refine .inr ⟨_, _, rfl, hm, ⟨?_, heven.written, ?_⟩, st1, heven.books, hraw⟩
        · rw [hm.write, hm.writeAio, ← UInt64.ofNat_add, hdirect, ← Nat.add_assoc]
          exact heven.written.symm
        · rw [hm.write, ← UInt64.ofNat_add]
          exact heven.counted
  · rw [StagedFile.close_busy h.session hidle] at hclose
    cases hclose

namespace Account

variable {a : Account σ}

/-- A session that went on from an open with clean books: it agrees with them, unless
they are void, it is over, or another open came out well since. -/
def Settles (A : Auditor σ fd) (a : Account σ) : Prop :=
  A.Void a.client.store ∨ 0 < a.sessions ∨ a.client.file.session = none ∨
    ∃ s, FileClient.Audited A a.client a.tally s

/-- What is void stays so from event to event. -/
theorem step_void {e : AccountEvent σ} (h : A.Void a.client.store)
    (hothers : ∀ f, e = .act (.others f) → A.Admits f) : A.Void (a.step e).client.store := by
  cases e with
  | openPath path access =>
    rcases ho : a.client.file.openPath path access a.client.store with ⟨e | fd, file, store⟩
    · simp only [step, ho]
      exact A.void_leads h (StagedFile.openPath_called ho)
    · simp only [step, ho]
      exact A.void_leads h (StagedFile.openPath_called ho)
  | act act => exact FileClient.step_void h fun f hf => hothers f (congrArg AccountEvent.act hf)
  | close =>
    rcases hc : a.client.file.close a.client.store with ⟨r, file, store⟩
    simp only [step, hc]
    exact A.void_leads h (StagedFile.close_called hc)

/-- An open of a file that is open is refused and changes nothing. -/
theorem step_openPath_open {s : Session} (hs : a.client.file.session = some s) (path : String)
    (access : Access) : a.step (.openPath path access) = a := by
  have hrefused : a.client.file.openPath path access a.client.store =
      (.error (.invalidArgument (.alreadyOpen s.fd)), a.client.file, a.client.store) := by
    unfold StagedFile.openPath
    rw [hs]
  simp only [step, hrefused]

theorem Settles.step {e : AccountEvent σ} (h : a.Settles A)
    (hothers : ∀ f, e = .act (.others f) → A.Admits f) : (a.step e).Settles A := by
  rcases h with hv | hmore | hnone | ⟨s, haudited⟩
  · exact .inl (step_void hv hothers)
  · exact .inr (.inl (Nat.lt_of_lt_of_le hmore (sessions_step a e)))
  · rcases Nat.eq_or_lt_of_le (sessions_step a e) with hsame | hmore
    · exact .inr (.inr (.inl (step_frozen hnone e hsame.symm).1))
    · exact .inr (.inl (Nat.lt_of_le_of_lt (Nat.zero_le _) hmore))
  · cases e with
    | openPath path access =>
      rw [step_openPath_open haudited.session]
      exact .inr (.inr (.inr ⟨s, haudited⟩))
    | act act =>
      have hact : ∀ f, act = .others f → A.Admits f :=
        fun f hf => hothers f (congrArg AccountEvent.act hf)
      exact (haudited.step hact).imp_right fun haudited' => .inr (.inr haudited')
    | close =>
      rcases hc : a.client.file.close a.client.store with ⟨r, file, store⟩
      have hstep : a.step .close = { a with client := { a.client with file, store } } := by
        simp only [Account.step, hc]
      rw [hstep]
      by_cases hidle : s.stage.outstanding = 0
      · have hover := StagedFile.close_ends haudited.session hidle a.client.store
        rw [hc] at hover
        exact .inr (.inr (.inl hover))
      · rw [StagedFile.close_busy haudited.session hidle] at hc
        cases hc
        exact .inr (.inr (.inr ⟨s, haudited⟩))

theorem Settles.run (h : a.Settles A) (events : List (AccountEvent σ))
    (hothers : ∀ f, AccountEvent.act (.others f) ∈ events → A.Admits f) :
    (a.run events).Settles A := by
  induction events generalizing a with
  | nil => exact h
  | cons e events ih =>
    have hhere : ∀ f, e = .act (.others f) → A.Admits f :=
      fun f hf => hothers f (hf ▸ List.mem_cons_self ..)
    exact ih (h.step hhere) fun f hf => hothers f (List.mem_cons_of_mem _ hf)

end Account

/-! ## A session over a store in memory -/

namespace Account

open MemoryStore

/-- Whatever is called and whatever fails, the summary has the bytes that callers
were told went since the open, and once the session is closed it stays as it is, also
across opens that fail, until one comes out well. Over a store in memory that is
shared and watched, if no write and no hand-in of the session went wrong and the close
came out well, then the counters of the file, of its adapter and the log of its
descriptor have the same sum. -/
theorem the_bytes_of_a_session_add_up :
    (∀ {σ : Type} [ObjectStore σ] (settings : Settings) (store : σ)
        (events more : List (AccountEvent σ)) {a : Account σ},
      run { client := { file := .ofSettings settings, store } } events = a →
      (0 < a.sessions → ∃ m, a.client.file.summary = some m ∧ m.Holds a.tally) ∧
        (a.client.file.session = none → (a.run more).sessions = a.sessions →
          (a.run more).client.file.summary = a.client.file.summary)) ∧
    ∀ {f f' g : StagedFile} {path : String} {access : Access} {fd : Fd}
        {st st' st'' : Watched (Shared MemoryStore)}
        (events : List (AccountEvent (Watched (Shared MemoryStore))))
        {a : Account (Watched (Shared MemoryStore))},
      st.flawed = false → st.inner.inner.Numbered →
      (∀ k inner, Numbered inner → Numbered (st.inner.others k inner)) →
      SparesBooks fd st.inner.others →
      (∀ act, AccountEvent.act (.others act) ∈ events → (auditor fd).Admits act) →
      f.openPath path access st = (.ok fd, f', st') →
      run { client := { file := f', store := st' } } events = a → a.sessions = 0 →
      a.client.file.close a.client.store = (.ok (), g, st'') → st''.flawed = false →
      ∃ m, g.summary = some m ∧ m.Holds a.tally ∧
        m.Balances a.tally.large (st''.inner.inner.logged fd) := by
  constructor
  · intro σ _ settings store events more a ha
    subst ha
    refine ⟨?_, fun hs hnone => run_frozen hs more hnone⟩
    intro hopened
    have hnothing : (StagedFile.ofSettings settings).Holds {} := fun m hm => by cases hm
    obtain ⟨m, hm⟩ := run_summary (fun h => absurd h (Nat.lt_irrefl 0)) events hopened
    exact ⟨m, hm, run_holds hnothing events m hm⟩
  · intro f f' g path access fd st st' st'' events a hfine hnumbered hothers hspared hadmits hopen ha
      hone hclose hflawless
    subst ha
    have hbooks := trueBooks_of_open hfine hnumbered hothers hspared
      (StagedFile.openPath_ok hopen).1
    have hstart : Settles (auditor fd) { client := { file := f', store := st' } } :=
      .inr (.inr (.inr (FileClient.audited_of_open hbooks hopen)))
    have hholds := run_holds (a := { client := { file := f', store := st' } })
      (StagedFile.openPath_ok_holds hopen) events
    rcases hstart.run events hadmits with hv | hmore | hnone | ⟨s, haudited⟩
    · have hflawed : st''.flawed = true :=
        (auditor fd).void_leads hv (StagedFile.close_called hclose)
      rw [hflawless] at hflawed
      cases hflawed
    · omega
    · rw [StagedFile.close_shut hnone] at hclose
      cases hclose
    · rcases haudited.close hholds hclose with hv | ⟨m, n, hm, hsums, hbalances, st1, hb, hraw⟩
      · have hflawed : st''.flawed = true := hv
        rw [hflawless] at hflawed
        cases hflawed
      · rw [TrueBooks.logged_close hb hraw]
        exact ⟨m, hm, hsums, hbalances⟩

/-- Others make a read fail, open the file as well and write through their own
descriptor, and at other times all that is parked runs. -/
def meddling : Nat → MemoryStore → MemoryStore
  | 2 => befall (.fail .reads 1 5)
  | 3 => (StoreCall.openPath "log" .readWrite).on
  | 4 => (StoreCall.writeAt ⟨4⟩ 0 [0, 0]).on
  | _ => befall .runParked

theorem numbered_meddling (k : Nat) (st : MemoryStore) (h : st.Numbered) :
    (meddling k st).Numbered := by
  unfold meddling
  split
  · exact h.befall _
  · exact h.call _
  · exact h.call _
  · exact h.befall _

theorem meddling_sparesBooks : SparesBooks .first meddling := by
  intro k st n out h
  unfold meddling
  split
  · exact h.befall _
  · exact h.call trivial
  · exact h.call (by decide : (⟨4⟩ : Fd) ≠ .first)
  · exact h.befall _

/-- A watched store with a small object. -/
def minded : Watched (Shared MemoryStore) :=
  { inner :=
      { inner := ({ delivery := .deferred } : MemoryStore).insert "log" [1, 2, 3]
        others := meddling } }

/-- The open of a file with a small stage on it. -/
def mindedOpen : Except Failure Fd × StagedFile × Watched (Shared MemoryStore) :=
  (StagedFile.ofSettings { bufferSize := 4 }).openPath "log" .readWrite minded

/-- A write, a read that fails, a request larger than the stage and one that is out for a while. -/
def mindedEvents : List (AccountEvent (Watched (Shared MemoryStore))) :=
  [ .act (.ask (.write 1 [9, 8])), .act (.ask (.read 6 2)), .act (.ask (.writeAio 0 [1, 2, 3, 4, 5])),
    .act (.ask (.writeAio 2 [7])), .close, .act .stat, .act (.ask .deliver),
    .act (.ask (.write 0 [6])) ]

def mindedRun : Account (Watched (Shared MemoryStore)) :=
  run { client := { file := mindedOpen.2.1, store := mindedOpen.2.2 } } mindedEvents

def mindedClose : Except Failure Unit × StagedFile × Watched (Shared MemoryStore) :=
  mindedRun.client.file.close mindedRun.client.store

theorem the_bytes_of_a_session_add_up_on_a_minded_store :
    minded.flawed = false ∧ minded.inner.inner.Numbered ∧
      (∀ k inner, Numbered inner → Numbered (minded.inner.others k inner)) ∧
      SparesBooks .first minded.inner.others ∧ mindedOpen = (.ok .first, mindedOpen.2) ∧
      mindedRun.sessions = 0 ∧ mindedRun.tally = { write := 3, writeAio := 6, large := 5 } ∧
      mindedClose = (.ok (), mindedClose.2) ∧ mindedClose.2.2.flawed = false ∧
      ∃ m, mindedClose.2.1.summary = some m ∧ m.Holds mindedRun.tally ∧
        m.Balances mindedRun.tally.large (mindedClose.2.2.inner.inner.logged .first) := by
  have hnumbered : minded.inner.inner.Numbered := numbered_of_unused rfl rfl rfl rfl
  have hopen : mindedOpen = (.ok .first, mindedOpen.2) := rfl
  have hadmits : ∀ act, AccountEvent.act (.others act) ∈ mindedEvents →
      (auditor .first).Admits act := by
    intro act hact
    simp [mindedEvents] at hact
  have htally : mindedRun.tally = { write := 3, writeAio := 6, large := 5 } := by decide +kernel
  have hclose : mindedClose = (.ok (), mindedClose.2) := Prod.ext (by decide +kernel) rfl
  have hflawless : mindedClose.2.2.flawed = false := by decide +kernel
  exact ⟨rfl, hnumbered, numbered_meddling, meddling_sparesBooks, hopen, rfl, htally, hclose,
    hflawless, the_bytes_of_a_session_add_up.2 mindedEvents rfl hnumbered numbered_meddling
      meddling_sparesBooks hadmits hopen rfl rfl hclose hflawless⟩

end Account

end StagedFiles
