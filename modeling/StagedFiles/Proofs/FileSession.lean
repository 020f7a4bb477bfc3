-- One session of a file with a stage, from its open on. Its callers go through
-- the stage or past it, and others may even change the object between the
-- calls. Step by step the store keeps the object that the descriptor is open
-- on, and a file without write access stages nothing.
import StagedFiles.File.Staged
import StagedFiles.Proofs.Client
import StagedFiles.Proofs.RawTransfers

namespace StagedFiles

/-! ## A file that is not open -/

namespace StagedFile

variable {f : StagedFile}

theorem summary_shut (hs : f.session = none) : f.summary = f.lastSummary := by
  unfold summary
  rw [hs]

variable {σ : Type}

theorem pass_shut {α : Type} (hs : f.session = none) (call : RawFile → σ → Except Failure α × σ)
    (st : σ) : f.pass call st = (.error .notOpen, f, st) := by
  unfold pass
  rw [hs]

variable [ObjectStore σ]

theorem read_shut (hs : f.session = none) (offset len : Nat) (st : σ) :
    f.read offset len st = (.error .notOpen, f, st) := by
  simp only [read, opened, hs]

theorem write_shut (hs : f.session = none) (offset : Nat) (data : Bytes) (st : σ) :
    f.write offset data st = (.error .notOpen, f, st) := by
  simp only [write, writable, hs]

theorem flush_shut (hs : f.session = none) (st : σ) :
    f.flush st = (.error .notOpen, f, st) := by
  simp only [flush, opened, hs]

theorem readAio_shut (hs : f.session = none) (offset len : Nat) (st : σ) :
    f.readAio offset len st = (.error .notOpen, f, st) := by
  simp only [readAio, opened, hs]

theorem writeAio_shut (hs : f.session = none) (offset : Nat) (data : Bytes) (st : σ) :
    f.writeAio offset data st = (.error .notOpen, f, st) := by
  simp only [writeAio, writable, hs]

theorem readv_shut (hs : f.session = none) (extents : List Extent) (st : σ) :
    f.readv extents st = (.error .notOpen, f, st) := by
  simp only [readv, pass_shut hs]

theorem close_shut (hs : f.session = none) (st : σ) :
    f.close st = (.error .notOpen, f, st) := by
  unfold close
  rw [hs]

end StagedFile

/-! ## What is done in a session -/

/-- What is done with an open file, or to the store under it. -/
inductive FileAct (σ : Type) where
  /-- Through the stage. -/
  | ask (act : Act)
  | readRaw (offset len : Nat)
  | readv (extents : List Extent)
  | stat
  | sync
  | truncate (len : Nat)
  | others (act : σ → σ)

/-- A file over a store, and the request that is out under its ticket. -/
structure FileClient (σ : Type) where
  file : StagedFile
  store : σ
  due : Option (Ticket × Errand) := none

/-- The same session, further on. -/
structure Session.Goes (s s' : Session) : Prop where
  fd : s'.fd = s.fd
  path : s'.path = s.path
  access : s'.access = s.access
  adapter : s.stage.adapter.Same s'.stage.adapter

theorem Session.Goes.refl (s : Session) : s.Goes s := ⟨rfl, rfl, rfl, .refl _⟩

theorem Session.Goes.trans {s t u : Session} (h : s.Goes t) (h' : t.Goes u) : s.Goes u :=
  ⟨h'.fd.trans h.fd, h'.path.trans h.path, h'.access.trans h.access, h.adapter.trans h'.adapter⟩

namespace FileClient

variable {σ : Type} [ObjectStore σ]

def ask (c : FileClient σ) : Act → FileClient σ
  | .read offset len =>
    let (_, file, store) := c.file.read offset len c.store
    { c with file, store }
  | .write offset data =>
    let (_, file, store) := c.file.write offset data c.store
    { c with file, store }
  | .flush =>
    let (_, file, store) := c.file.flush c.store
    { c with file, store }
  | .readAio offset len =>
    let (r, file, store) := c.file.readAio offset len c.store
    { file, store, due := Client.dueAfter c.due (.read offset len) r }
  | .writeAio offset data =>
    let (r, file, store) := c.file.writeAio offset data c.store
    { file, store, due := Client.dueAfter c.due (.write offset data) r }
  | .deliver =>
    match c.due with
    | none => c
    | some (ticket, _) =>
      match ObjectStore.await ticket c.store with
      | (some done, store) => { file := (c.file.complete done).2, store }
      | (none, store) => { c with store, due := none }

/-- A call on the raw file under the stage. -/
def pass {α : Type} (c : FileClient σ) (call : RawFile → σ → Except Failure α × σ) :
    FileClient σ :=
  let (_, file, store) := c.file.pass call c.store
  { c with file, store }

def step (c : FileClient σ) : FileAct σ → FileClient σ
  | .ask act => c.ask act
  | .readRaw offset len => c.pass fun raw st => raw.read offset len st
  | .readv extents =>
    let (_, file, store) := c.file.readv extents c.store
    { c with file, store }
  | .stat => c.pass fun raw st => raw.stat st
  | .sync => c.pass fun raw st => raw.sync st
  | .truncate len => c.pass fun raw st => raw.truncate len st
  | .others act => { c with store := act c.store }

/-- All the acts in order. -/
def run (c : FileClient σ) (acts : List (FileAct σ)) : FileClient σ := acts.foldl step c

/-- Nothing is asked of a file that is not open and has nothing due. -/
theorem ask_shut {c : FileClient σ} (hs : c.file.session = none) (hdue : c.due = none)
    (act : Act) : c.ask act = c := by
  rcases c with ⟨file, store, due⟩
  obtain rfl : due = none := hdue
  replace hs : file.session = none := hs
  cases act with
  | read offset len => simp only [ask, StagedFile.read_shut hs]
  | write offset data => simp only [ask, StagedFile.write_shut hs]
  | flush => simp only [ask, StagedFile.flush_shut hs]
  | readAio offset len => simp only [ask, StagedFile.readAio_shut hs, Client.dueAfter]
  | writeAio offset data => simp only [ask, StagedFile.writeAio_shut hs, Client.dueAfter]
  | deliver => rfl

omit [ObjectStore σ] in
theorem pass_shut {α : Type} {c : FileClient σ} (hs : c.file.session = none)
    (call : RawFile → σ → Except Failure α × σ) : c.pass call = c := by
  simp only [pass, StagedFile.pass_shut hs]

/-- The callers of the stage of a session. -/
def client (c : FileClient σ) (s : Session) : Client σ :=
  { stage := s.stage, store := c.store, due := c.due }

/-! ## Through the stage -/

variable {c : FileClient σ} {s : Session}

/-- The file went where the callers of its stage went. -/
structure Follows (c : FileClient σ) (s : Session) (k : Client σ) (c' : FileClient σ) : Prop where
  session : c'.file.session = some { s with stage := k.stage }
  raw : c'.file.raw = c.file.raw
  store : c'.store = k.store
  due : c'.due = k.due

/-- What is asked of an open file is asked of its stage, but for data to write
when the file is not open for writing. -/
theorem ask_follows {act : Act} (hs : c.file.session = some s)
    (hw : act.writes = true → s.access.write = true) :
    Follows c s ((c.client s).step act).2 (c.ask act) := by
  cases act with
  | read offset len =>
    rcases hr : s.stage.read offset len c.store with ⟨r | bytes, stage, store⟩
    · simp only [ask, StagedFile.read, StagedFile.opened, hs, hr, Client.step, client]
      exact ⟨rfl, rfl, rfl, rfl⟩
    · simp only [ask, StagedFile.read, StagedFile.opened, hs, hr, Client.step, client]
      exact ⟨rfl, rfl, rfl, rfl⟩
  | write offset data =>
    have hwrite := hw rfl
    rcases hr : s.stage.write offset data c.store with ⟨r | n, stage, store⟩
    · simp only [ask, StagedFile.write, StagedFile.writable, hs, hwrite, if_true, hr, Client.step,
        client]
      exact ⟨rfl, rfl, rfl, rfl⟩
    · simp only [ask, StagedFile.write, StagedFile.writable, hs, hwrite, if_true, hr, Client.step,
        client]
      exact ⟨rfl, rfl, rfl, rfl⟩
  | flush =>
    rcases hf : s.stage.flush c.store with ⟨r, stage, store⟩
    simp only [ask, StagedFile.flush, StagedFile.opened, hs, hf, Client.step, client]
    exact ⟨rfl, rfl, rfl, rfl⟩
  | readAio offset len =>
    rcases hr : s.stage.readAio offset len c.store with ⟨r, stage, store⟩
    simp only [ask, StagedFile.readAio, StagedFile.opened, hs, hr, Client.step, client]
    exact ⟨rfl, rfl, rfl, rfl⟩
  | writeAio offset data =>
    have hwrite := hw rfl
    rcases hr : s.stage.writeAio offset data c.store with ⟨r, stage, store⟩
    simp only [ask, StagedFile.writeAio, StagedFile.writable, hs, hwrite, if_true, hr, Client.step,
      client]
    exact ⟨rfl, rfl, rfl, rfl⟩
  | deliver =>
    rcases hdue : c.due with _ | ⟨ticket, asked⟩
    · simp only [ask, hdue, Client.step, client]
      exact ⟨hs, rfl, rfl, hdue⟩
    · rcases ha : ObjectStore.await ticket c.store with ⟨_ | done, store⟩
      · simp only [ask, hdue, ha, Client.step, client]
        exact ⟨hs, rfl, rfl, rfl⟩
      · rcases hc : s.stage.complete done with ⟨answer, stage⟩
        simp only [ask, hdue, ha, Client.step, client, StagedFile.complete, hs, hc]
        exact ⟨rfl, rfl, rfl, rfl⟩

/-- A file without write access takes no data. -/
theorem ask_refused {act : Act} (hs : c.file.session = some s) (hw : s.access.write = false)
    (ha : act.writes = true) : c.ask act = c := by
  cases act with
  | write offset data =>
    simp only [ask, StagedFile.write, StagedFile.writable, hs, hw]
    rfl
  | writeAio offset data =>
    simp only [ask, StagedFile.writeAio, StagedFile.writable, hs, hw]
    rfl
  | read _ _ => cases ha
  | flush => cases ha
  | readAio _ _ => cases ha
  | deliver => cases ha

/-! ## What every act keeps -/

variable {fd : Fd} {K : Keeper σ fd} {object : Bytes}

/-- The session is open on a descriptor whose object the store keeps. -/
structure Linked (K : Keeper σ fd) (c : FileClient σ) (s : Session) (object : Bytes) : Prop where
  session : c.file.session = some s
  raw : c.file.raw.fd = some fd
  fd_eq : s.fd = fd
  stage_fd : s.stage.fd = fd
  /-- Nothing is staged that a close would not flush. -/
  unstaged : s.access.write = false → s.stage.dirty = false
  agree : Client.Agree K (c.client s) object

/-- What others may do between the calls: the descriptor stays open on its
object, and the transfer that is out stays out. The object may change. -/
def Admits (K : Keeper σ fd) (act : σ → σ) : Prop :=
  ∀ st object out, K.Keeps st object out → ∃ object', K.Keeps (act st) object' out

/-- What is asked through the stage keeps the session linked. -/
theorem Linked.ask (h : Linked K c s object) (act : Act) :
    ∃ s' object', Linked K (c.ask act) s' object' ∧ s.Goes s' := by
  by_cases hw : act.writes = true → s.access.write = true
  · have hfollows := ask_follows h.session hw
    rcases hstep : (c.client s).step act with ⟨reply, k⟩
    rw [hstep] at hfollows
    obtain ⟨object', hkeeping⟩ := Client.step_keeping h.stage_fd h.agree hstep
    have hsame := Client.step_adapter h.agree hstep
    have hclient : (c.ask act).client { s with stage := k.stage } = k := by
      unfold client
      rw [hfollows.store, hfollows.due]
    refine ⟨{ s with stage := k.stage }, object', ⟨hfollows.session, ?_, h.fd_eq, ?_, ?_, ?_⟩,
      ⟨rfl, rfl, rfl, hsame⟩⟩
    · rw [hfollows.raw]
      exact h.raw
    · exact hsame.fd.trans h.stage_fd
    · intro hwrite
      have hreads : act.writes = false := by
        rcases ha : act.writes with _ | _
        · rfl
        · rw [hw ha] at hwrite
          cases hwrite
      exact Client.step_clean h.agree hreads (h.unstaged hwrite) hstep
    · rw [hclient]
      exact hkeeping.agree
  · rw [Classical.not_imp] at hw
    obtain ⟨ha, hwrite⟩ := hw
    have hread : s.access.write = false := by simpa using hwrite
    rw [ask_refused h.session hread ha]
    exact ⟨s, object, h, .refl s⟩

/-- A change of the store under a session that keeps the object in some form. -/
theorem Linked.move {c' : FileClient σ} (h : Linked K c s object)
    (hsession : c'.file.session = c.file.session) (hraw : c'.file.raw = c.file.raw)
    (hdue : c'.due = c.due)
    (hk : ∀ out, K.Keeps c.store object out → ∃ object', K.Keeps c'.store object' out) :
    ∃ object', Linked K c' s object' := by
  obtain ⟨object', hagree⟩ := h.agree.move hk
  have hclient : c'.client s = { c.client s with store := c'.store } := by
    unfold client
    rw [hdue]
  refine ⟨object', hsession.trans h.session, ?_, h.fd_eq, h.stage_fd, h.unstaged, ?_⟩
  · rw [hraw]
    exact h.raw
  · rw [hclient]
    exact hagree

/-- A call on the raw file keeps the session linked when it keeps the object in some form. -/
theorem Linked.pass {α : Type} {call : RawFile → σ → Except Failure α × σ}
    (h : Linked K c s object)
    (hk : ∀ out r st, K.Keeps c.store object out → call c.file.raw c.store = (r, st) →
      ∃ object', K.Keeps st object' out) : ∃ object', Linked K (c.pass call) s object' := by
  rcases hcall : call c.file.raw c.store with ⟨r, st⟩
  have hpass : c.pass call = { c with store := st } := by
    simp only [FileClient.pass, StagedFile.pass, h.session, hcall]
  rw [hpass]
  exact h.move rfl rfl rfl fun out hkeeps => hk out r st hkeeps hcall

theorem Linked.readv (h : Linked K c s object) (extents : List Extent) :
    ∃ object', Linked K (c.step (.readv extents)) s object' := by
  rcases hr : c.file.raw.readv extents c.store with ⟨e | pieces, st⟩
  · have hstep : c.step (.readv extents) = { c with store := st } := by
      simp only [step, StagedFile.readv, StagedFile.pass, h.session, hr]
    rw [hstep]
    exact h.move rfl rfl rfl fun out hkeeps =>
      ⟨object, (RawFile.readv_reads hr).kept h.raw hkeeps⟩
  · have hstore : (c.step (.readv extents)).store = st := by
      simp only [step, StagedFile.readv, StagedFile.pass, h.session, hr]
    refine h.move ?_ ?_ rfl ?_
    · simp only [step, StagedFile.readv, StagedFile.pass, h.session, hr]
    · simp only [step, StagedFile.readv, StagedFile.pass, h.session, hr]
    · intro out hkeeps
      rw [hstore]
      exact ⟨object, (RawFile.readv_reads hr).kept h.raw hkeeps⟩

/-- Every act keeps the session linked. -/
theorem Linked.step {act : FileAct σ} (h : Linked K c s object)
    (hothers : ∀ f, act = .others f → Admits K f) :
    ∃ s' object', Linked K (c.step act) s' object' ∧ s.Goes s' := by
  have hstay : (∃ object', Linked K (c.step act) s object') →
      ∃ s' object', Linked K (c.step act) s' object' ∧ s.Goes s' := by
    rintro ⟨object', hlinked⟩
    exact ⟨s, object', hlinked, .refl s⟩
  cases act with
  | ask act => exact h.ask act
  | readRaw offset len =>
    have hpass : ∃ object', Linked K (c.pass fun raw st => raw.read offset len st) s object' :=
      h.pass fun out r st hk hr => ⟨object, (RawFile.read_reads hr).kept h.raw hk⟩
    exact hstay hpass
  | readv extents => exact hstay (h.readv extents)
  | stat =>
    have hpass : ∃ object', Linked K (c.pass fun raw st => raw.stat st) s object' :=
      h.pass fun out r st hk hr => ⟨object, RawFile.stat_kept h.raw hk hr⟩
    exact hstay hpass
  | sync =>
    have hpass : ∃ object', Linked K (c.pass fun raw st => raw.sync st) s object' :=
      h.pass fun out r st hk hr => ⟨object, RawFile.sync_kept h.raw hk hr⟩
    exact hstay hpass
  | truncate len =>
    have hpass : ∃ object', Linked K (c.pass fun raw st => raw.truncate len st) s object' :=
      h.pass fun out r st hk hr => RawFile.truncate_kept h.raw hk hr
    exact hstay hpass
  | others f =>
    apply hstay
    exact h.move rfl rfl rfl fun out hk => hothers f rfl _ _ _ hk

theorem Linked.run (h : Linked K c s object) (acts : List (FileAct σ))
    (hothers : ∀ f, FileAct.others f ∈ acts → Admits K f) :
    ∃ s' object', Linked K (c.run acts) s' object' ∧ s.Goes s' := by
  induction acts generalizing c s object with
  | nil => exact ⟨s, object, h, .refl s⟩
  | cons act acts ih =>
    have hact : ∀ f, act = .others f → Admits K f := by
      intro f hf
      exact hothers f (hf ▸ List.mem_cons_self ..)
    obtain ⟨s1, object1, h1, hgoes1⟩ := h.step hact
    obtain ⟨s', object', h', hgoes'⟩ := ih h1 fun f hf => hothers f (List.mem_cons_of_mem _ hf)
    exact ⟨s', object', h', hgoes1.trans hgoes'⟩

end FileClient

/-! ## Opens -/

variable {σ : Type} [ObjectStore σ] {fd : Fd}

/-- The ways an open of a file can go. -/
inductive StagedFile.Opens (f : StagedFile) (path : String) (access : Access) (st : σ) :
    Except Failure Fd → StagedFile → σ → Prop where
  | already {s : Session} : f.session = some s →
      Opens f path access st (.error (.invalidArgument (.alreadyOpen s.fd))) f st
  | unfit {e : Failure} : f.session = none → f.settings.check = .error e →
      Opens f path access st (.error e) f st
  | refused {e : Failure} {raw : RawFile} {st' : σ} : f.session = none →
      f.raw.openPath path access st = (.error e, raw, st') →
      Opens f path access st (.error e) { f with raw } st'
  | unbuilt {e : Failure} {fd : Fd} {raw raw' : RawFile} {st1 st' : σ} {r : Except Failure Unit} :
      f.session = none → f.raw.openPath path access st = (.ok fd, raw, st1) →
      raw.close st1 = (r, raw', st') → Opens f path access st (.error e) { f with raw := raw' } st'
  | opened {fd : Fd} {raw : RawFile} {stage : Stage} {st' : σ} : f.session = none →
      f.raw.openPath path access st = (.ok fd, raw, st') → Stage.build f.settings fd = .ok stage →
      Opens f path access st (.ok fd)
        { f with raw, session := some { fd, path, access, stage }, bytes := {} } st'

namespace StagedFile

variable {f f' : StagedFile} {path : String} {access : Access} {st st' : σ}

theorem openPath_cases {r : Except Failure Fd} (h : f.openPath path access st = (r, f', st')) :
    f.Opens path access st r f' st' := by
  unfold StagedFile.openPath at h
  split at h
  · rename_i hs
    cases h
    exact .already hs
  · rename_i hs
    split at h
    · rename_i hcheck
      cases h
      exact .unfit hs hcheck
    · split at h
      · rename_i hraw
        cases h
        exact .refused hs hraw
      · rename_i raw st1 hraw
        split at h
        · rcases hclose : raw.close st1 with ⟨q, raw', st2⟩
          rw [hclose] at h
          cases h
          exact .unbuilt hs hraw hclose
        · rename_i hbuild
          cases h
          exact .opened hs hraw hbuild

/-- An open that comes out well is an open of the store, and the session is over a stage
that was just built. -/
theorem openPath_ok (h : f.openPath path access st = (.ok fd, f', st')) :
    ObjectStore.openPath path access st = (.ok fd, st') ∧
      ∃ stage, Stage.build f.settings fd = .ok stage ∧
        f' = { f with
          raw := { f.raw with fd := some fd }
          session := some { fd, path, access, stage }
          bytes := {} } := by
  cases openPath_cases h with
  | opened _ hraw hbuild =>
    unfold RawFile.openPath at hraw
    split at hraw
    · cases hraw
    · split at hraw
      · rename_i ho
        cases hraw
        exact ⟨ho, _, hbuild, rfl⟩
      · cases hraw

end StagedFile

/-- A file that was just opened is linked to its descriptor. -/
theorem FileClient.linked_of_open {K : Keeper σ fd} {object : Bytes} {f f' : StagedFile}
    {path : String} {access : Access} {st st' : σ}
    (hopen : f.openPath path access st = (.ok fd, f', st')) (hk : K.Keeps st' object none) :
    ∃ s, Linked K { file := f', store := st' } s object ∧ s.path = path ∧ s.access = access := by
  obtain ⟨-, stage, hbuild, rfl⟩ := StagedFile.openPath_ok hopen
  obtain ⟨hheld, -⟩ := Client.held_of_build hbuild hk
  obtain ⟨hpos, rfl⟩ := Stage.build_eq_ok_iff.mp hbuild
  exact ⟨_, ⟨rfl, rfl, rfl, hheld.fd_eq, fun _ => rfl, hheld.agree⟩, rfl, rfl⟩

end StagedFiles
