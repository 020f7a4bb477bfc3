-- Stores that are alike as far as a name goes, whether it is open or not. From one open
-- to the next, a file over one of them and its like over the other are heard and seen
-- to do the same.
import StagedFiles.Proofs.FileLikeness

namespace StagedFiles

variable {σ τ : Type} [ObjectStore σ] [ObjectStore τ] {Waits : σ → Ticket → Prop} {fd : Fd}
  {L : Likeness σ τ Waits fd} {kind : AdapterKind} {alone : Prop} {st : σ} {tt : τ}

/-! ## From one open to the next -/

/-- A store that is like another as far as a name goes, with any descriptor open on it
or none. -/
structure Resemblance (σ τ : Type) [ObjectStore σ] [ObjectStore τ] (Waits : σ → Ticket → Prop)
    (path : String) where
  opened (fd : Fd) : Likeness σ τ Waits fd
  Shut : σ → τ → Prop
  openPath {st : σ} {tt : τ} (access : Access) : Shut st tt →
    (∃ f st1 tt1, ObjectStore.openPath path access st = (.error f, st1) ∧
        ObjectStore.openPath path access tt = (.error f, tt1) ∧ Shut st1 tt1) ∨
      ∃ fd st1 tt1, ObjectStore.openPath path access st = (.ok fd, st1) ∧
        ObjectStore.openPath path access tt = (.ok .first, tt1) ∧ (opened fd).Like st1 tt1 none
  close {fd : Fd} {st : σ} {tt : τ} : (opened fd).Like st tt none →
    ∃ r st1 tt1, ObjectStore.close fd st = (r, st1) ∧ ObjectStore.close .first tt = (r, tt1) ∧
      Shut st1 tt1

namespace FileClient

variable {path : String} {R : Resemblance σ τ Waits path} {c : FileClient σ} {k : FileClient τ}

/-- Two files that are not open and have come to the same over stores that are alike. -/
structure Shut (R : Resemblance σ τ Waits path) (c : FileClient σ) (k : FileClient τ) : Prop where
  files : c.file.Beside k.file
  session : c.file.session = none
  session' : k.file.session = none
  raw : c.file.raw.fd = none
  raw' : k.file.raw.fd = none
  due : c.due = none
  due' : k.due = none
  stores : R.Shut c.store k.store

/-- Two files that have come to the same, open or not. When the first is alone, what it
has out has still to run. -/
inductive Resembles (R : Resemblance σ τ Waits path) (alone : Prop) (c : FileClient σ)
    (k : FileClient τ) : Prop where
  | shut : Shut R c k → Resembles R alone c k
  | opened {fd : Fd} {kind : AdapterKind} {s s' : Session} :
      Beside (R.opened fd) kind alone c k s s' → Resembles R alone c k

/-- They show the same. -/
theorem Shut.sight (h : Shut R c k) {heard heard' : Heard}
    (hheard : heard'.unnumbered = heard.unnumbered) : k.sight heard' = c.sight heard := by
  unfold FileClient.sight
  rw [StagedFile.summary_shut h.session, StagedFile.summary_shut h.session', h.files.last, hheard,
    h.session, h.session']

/-- What a file that is not open says to all but an open. -/
def shutReply : Deed → Heard
  | .openPath _ => .opened (.error .notOpen)
  | .ask (.read _ _) => .replied (.bytes (.error .notOpen))
  | .ask (.write _ _) | .ask .flush => .replied (.count (.error .notOpen))
  | .ask (.readAio _ _) | .ask (.writeAio _ _) => .replied (.started (.error .notOpen))
  | .ask .deliver => .replied .nothing
  | .readv _ => .pieces (.error .notOpen)
  | .truncate _ | .close => .done (.error .notOpen)

theorem does_shut (hsession : c.file.session = none) (hdue : c.due = none) {deed : Deed}
    (hopen : ∀ access, deed ≠ .openPath access) : c.does path deed = (shutReply deed, c) := by
  rcases c with ⟨file, store, due⟩
  obtain rfl : due = none := hdue
  replace hsession : file.session = none := hsession
  cases deed with
  | openPath access => exact absurd rfl (hopen access)
  | ask act =>
    cases act with
    | read _ _ =>
      simp only [does, hear, FileClient.ask, StagedFile.read_shut hsession, shutReply]
    | write _ _ =>
      simp only [does, hear, FileClient.ask, StagedFile.write_shut hsession, shutReply]
    | flush =>
      simp only [does, hear, FileClient.ask, StagedFile.flush_shut hsession, shutReply]
    | readAio _ _ =>
      simp only [does, hear, FileClient.ask, StagedFile.readAio_shut hsession, shutReply,
        Client.dueAfter]
    | writeAio _ _ =>
      simp only [does, hear, FileClient.ask, StagedFile.writeAio_shut hsession, shutReply,
        Client.dueAfter]
    | deliver => rfl
  | readv _ => simp only [does, StagedFile.readv_shut hsession, shutReply]
  | truncate _ => simp only [does, StagedFile.pass_shut hsession, shutReply]
  | close => simp only [does, StagedFile.close_shut hsession, shutReply]

/-- Two that come to the same, open or not, and what was heard. -/
def Carry (R : Resemblance σ τ Waits path) (alone : Prop) (x : Heard × FileClient σ)
    (x' : Heard × FileClient τ) : Prop :=
  Resembles R alone x.2 x'.2 ∧ x'.2.sight x'.1 = x.2.sight x.1

theorem Goes.carry {x : Heard × FileClient σ} {x' : Heard × FileClient τ}
    (h : Goes (R.opened fd) kind alone x x') : Carry R alone x x' := by
  obtain ⟨hheard, s, s', hbeside⟩ := h
  exact ⟨.opened hbeside, hbeside.sight hheard⟩

theorem Shut.carry (h : Shut R c k) {heard heard' : Heard}
    (hheard : heard'.unnumbered = heard.unnumbered) :
    Carry R alone (heard, c) (heard', k) := ⟨.shut h, h.sight hheard⟩

/-- Stages that are built over two descriptors. -/
theorem build_beside (settings : Settings) (fd : Fd) :
    (∃ e, Stage.build settings fd = .error e ∧ Stage.build settings .first = .error e) ∨
      ∃ s s', Stage.build settings fd = .ok s ∧ Stage.build settings .first = .ok s' ∧
        s.Beside ⟨settings.adapter, fd⟩ ⟨settings.adapter, .first⟩ s' ∧
        s.inflight.requests = [] := by
  unfold Stage.build
  rcases StagingBuffer.ofCapacity settings.bufferSize with e | buffer
  · exact .inl ⟨e, rfl, rfl⟩
  · exact .inr ⟨_, _, rfl, rfl, ⟨⟨rfl, rfl, .refl buffer, rfl⟩, rfl, rfl, rfl⟩, rfl⟩

theorem Shut.openPath (h : Shut R c k) (access : Access) :
    Carry R alone (c.does path (.openPath access)) (k.does path (.openPath access)) := by
  rcases c with ⟨⟨⟨grouping, raw⟩, settings, session, bytes, last⟩, store, due⟩
  rcases k with ⟨⟨⟨grouping', raw'⟩, settings', session', bytes', last'⟩, store', due'⟩
  obtain ⟨⟨hsettings, hgrouping, hbytes, hlast⟩, hs, hs', hraw, hraw', hdue, hdue', hstores⟩ := h
  dsimp only at hsettings hgrouping hbytes hlast hs hs' hraw hraw' hdue hdue' hstores
  subst hsettings hgrouping hbytes hs hs' hraw hraw' hdue hdue'
  have hshut : ∀ st tt, R.Shut st tt → Shut R
      ⟨⟨⟨grouping', none⟩, settings', none, bytes', last⟩, st, none⟩
      ⟨⟨⟨grouping', none⟩, settings', none, bytes', last'⟩, tt, none⟩ :=
    fun _ _ hstores => ⟨⟨rfl, rfl, rfl, hlast⟩, rfl, rfl, rfl, rfl, rfl, rfl, hstores⟩
  simp only [does, StagedFile.openPath]
  rcases settings'.check with e | ⟨⟩
  · exact (hshut _ _ hstores).carry rfl
  dsimp only [RawFile.openPath]
  rcases R.openPath access hstores with ⟨f, st, tt, ho, ho', hstores'⟩ | ⟨fd, st, tt, ho, ho', hlike⟩
  · rw [ho, ho']
    exact (hshut _ _ hstores').carry rfl
  rw [ho, ho']
  dsimp only
  rcases build_beside settings' fd with ⟨e, hbuild, hbuild'⟩ | ⟨s, s', hbuild, hbuild', hb, hreq⟩
  · rw [hbuild, hbuild']
    dsimp only [RawFile.close]
    obtain ⟨r, st1, tt1, hclose, hclose', hstores'⟩ := R.close hlike
    rw [hclose, hclose']
    exact (hshut _ _ hstores').carry rfl
  · rw [hbuild, hbuild']
    have howed : Owed (R.opened fd) alone st tt s.inflight.requests none none := by
      rw [hreq]
      exact .nothing hlike
    refine Goes.carry ⟨rfl, _, _, ⟨rfl, rfl, rfl, hlast⟩, rfl, rfl, rfl, rfl,
      ⟨rfl, rfl, rfl, rfl, hb⟩, howed⟩

/-- A close is refused by both while a request is out, and else ends both sessions. -/
theorem Beside.close {s s' : Session} (h : Beside (R.opened fd) kind alone c k s s') :
    Carry R alone (c.does path .close) (k.does path .close) := by
  by_cases hreq : s.stage.inflight.requests = []
  · have hidle : s.stage.outstanding = 0 := congrArg List.length hreq
    have hidle' : s'.stage.outstanding = 0 := h.sessions.stage.outstanding.trans hidle
    obtain ⟨r, stage, st, stage', tt, hf, hf', hb, hlike⟩ := h.lastFlush hreq
    obtain ⟨q, st1, tt1, hclose, hclose', hstores⟩ := R.close hlike
    have hraw : c.file.raw.close st = (q, { c.file.raw with fd := none }, st1) := by
      unfold RawFile.close
      rw [h.raw]
      dsimp only
      rw [hclose]
    have hraw' : k.file.raw.close tt = (q, { k.file.raw with fd := none }, tt1) := by
      unfold RawFile.close
      rw [h.raw']
      dsimp only
      rw [hclose']
    have hsessions : Session.Beside kind fd { s with stage } { s' with stage := stage' } :=
      ⟨h.sessions.fd_eq, h.sessions.fd_eq', h.sessions.path, h.sessions.access, hb⟩
    have hlast := h.files.summarize hsessions true
    have hdue : c.due = none ∧ k.due = none := by
      have howed := h.owed
      rw [hreq] at howed
      generalize c.due = due at howed
      generalize k.due = due' at howed
      cases howed with
      | nothing _ => exact ⟨rfl, rfl⟩
    have hshut : Shut R
        { c with
          file := { c.file with
            raw := { c.file.raw with fd := none }, session := none
            lastSummary := some (c.file.summarize { s with stage } true) }
          store := st1 }
        { k with
          file := { k.file with
            raw := { k.file.raw with fd := none }, session := none
            lastSummary := some (k.file.summarize { s' with stage := stage' } true) }
          store := tt1 } :=
      ⟨⟨h.files.settings, h.files.grouping, h.files.bytes, congrArg some hlast⟩, rfl, rfl, rfl, rfl,
        hdue.1, hdue.2, hstores⟩
    simp only [does, StagedFile.close_idle h.session hidle, StagedFile.close_idle h.session' hidle',
      hf, hf', hraw, hraw']
    cases r with
    | error e => exact hshut.carry rfl
    | ok n => exact hshut.carry rfl
  · have hbusy : s.stage.outstanding ≠ 0 := fun hidle => hreq (List.length_eq_zero_iff.mp hidle)
    have hbusy' : s'.stage.outstanding ≠ 0 := by
      rw [h.sessions.stage.outstanding]
      exact hbusy
    simp only [does, StagedFile.close_busy h.session hbusy, StagedFile.close_busy h.session' hbusy']
    refine Goes.carry ⟨?_, s, s', h⟩
    exact congrArg (fun n => Heard.done (.error (.inFlight .first n))) h.sessions.stage.outstanding

/-- What is out of a file that is alone has still to run. -/
theorem Resembles.waits (h : Resembles R alone c k) (halone : alone) :
    ∀ x ∈ c.due, Waits c.store x.1 := by
  cases h with
  | shut h =>
    intro x hx
    rw [h.due] at hx
    cases hx
  | @opened fd kind s s' h =>
    have howed := h.owed
    generalize s.stage.inflight.requests = requests at howed
    generalize c.due = due at howed
    generalize k.due = due' at howed
    cases howed with
    | nothing _ => exact fun x hx => by cases hx
    | one _ hwaits =>
      intro x hx
      cases hx
      exact hwaits halone

/-- Whatever is done comes to the same, if what is out has still to run when something
goes past the stage. -/
theorem Resembles.does (h : Resembles R alone c k) (deed : Deed)
    (hwaits : deed.passes = true → ∀ x ∈ c.due, Waits c.store x.1) :
    Carry R alone (c.does path deed) (k.does path deed) := by
  cases h with
  | shut h =>
    by_cases hopen : ∃ access, deed = .openPath access
    · obtain ⟨access, rfl⟩ := hopen
      exact h.openPath access
    · have hother : ∀ access, deed ≠ .openPath access := fun access he => hopen ⟨access, he⟩
      rw [does_shut h.session h.due hother, does_shut h.session' h.due' hother]
      exact h.carry rfl
  | @opened fd kind s s' h =>
    cases deed with
    | openPath access =>
      simp only [FileClient.does, StagedFile.openPath, h.session, h.session']
      exact Goes.carry ⟨rfl, s, s', h⟩
    | ask act => exact (h.ask path path act).carry
    | readv extents => exact (h.readv (hwaits rfl) path path extents).carry
    | truncate len => exact (h.truncate (hwaits rfl) path path len).carry
    | close => exact h.close

end FileClient

end StagedFiles
