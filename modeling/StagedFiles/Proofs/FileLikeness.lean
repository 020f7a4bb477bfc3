-- A file over one store, and the same file over another where its descriptor has the
-- first number. While both are open over stores that are alike, they answer the same
-- but for numbers, and show the same state and the same summary.
import StagedFiles.Proofs.Closing
import StagedFiles.Proofs.StageLikeness

namespace StagedFiles

variable {σ τ : Type} [ObjectStore σ] [ObjectStore τ] {Waits : σ → Ticket → Prop} {fd : Fd}
  {L : Likeness σ τ Waits fd} {kind : AdapterKind} {alone : Prop} {st : σ} {tt : τ}

/-! ## Raw files -/

/-- The stores are alike, and what is out has still to run. -/
structure Likeness.Pending (L : Likeness σ τ Waits fd) (st : σ) (tt : τ) (out : Option (Ticket × Ticket)) :
    Prop where
  like : L.Like st tt out
  waits : ∀ x ∈ out, Waits st x.1

namespace RawFile

variable {f f' : RawFile} {out : Option (Ticket × Ticket)}

/-- A call past the stages comes to the same over both stores. -/
def Matches {α : Type} (L : Likeness σ τ Waits fd) (out : Option (Ticket × Ticket))
    (x : Except Failure α × σ) (x' : Except Failure α × τ) : Prop :=
  ∃ r st tt, x = (r, st) ∧ x' = (r, tt) ∧ L.Pending st tt out

theorem readExtent_matches (h : L.Pending st tt out) (e : Extent) :
    Matches L out (readExtent fd st e) (readExtent .first tt e) := by
  unfold readExtent
  by_cases hempty : e.len = 0
  · rw [if_pos hempty, if_pos hempty]
    exact ⟨_, _, _, rfl, rfl, h⟩
  · rw [if_neg hempty, if_neg hempty]
    obtain ⟨r, st1, tt1, hread, hread', hlike, hwaits⟩ := L.readAt e.start e.len h.like h.waits
    rw [hread, hread']
    cases r with
    | error torn => exact ⟨_, _, _, rfl, rfl, hlike, hwaits⟩
    | ok bytes => exact ⟨_, _, _, rfl, rfl, hlike, hwaits⟩

theorem readEach_matches (h : L.Pending st tt out) (extents : List Extent) :
    Matches L out (readEach fd st extents) (readEach .first tt extents) := by
  induction extents generalizing st tt with
  | nil => exact ⟨_, _, _, rfl, rfl, h⟩
  | cons e es ih =>
    rw [readEach_cons, readEach_cons]
    obtain ⟨r, st1, tt1, he, he', h1⟩ := readExtent_matches h e
    rw [he, he']
    cases r with
    | error g => exact ⟨_, _, _, rfl, rfl, h1⟩
    | ok bytes =>
      obtain ⟨r, st2, tt2, hes, hes', h2⟩ := ih h1
      dsimp only
      rw [hes, hes']
      cases r with
      | error g => exact ⟨_, _, _, rfl, rfl, h2⟩
      | ok rest => exact ⟨_, _, _, rfl, rfl, h2⟩

theorem readGroup_matches (h : L.Pending st tt out) (group : List Extent) :
    Matches L out (readGroup fd group st) (readGroup .first group tt) := by
  unfold readGroup
  dsimp only
  by_cases hwide : maxGroupSpan < Extent.span group
  · rw [if_pos hwide, if_pos hwide]
    exact readEach_matches h group
  rw [if_neg hwide, if_neg hwide]
  by_cases hempty : Extent.span group = 0
  · rw [if_pos hempty, if_pos hempty]
    exact ⟨_, _, _, rfl, rfl, h⟩
  rw [if_neg hempty, if_neg hempty]
  obtain ⟨r, st1, tt1, hread, hread', hlike, hwaits⟩ :=
    L.readAt (Extent.lowest group) (Extent.span group) h.like h.waits
  rw [hread, hread']
  cases r with
  | error torn => exact ⟨_, _, _, rfl, rfl, hlike, hwaits⟩
  | ok bytes => exact ⟨_, _, _, rfl, rfl, hlike, hwaits⟩

theorem readGroups_matches (h : L.Pending st tt out) (groups : List (List Extent)) :
    Matches L out (readGroups fd st groups) (readGroups .first tt groups) := by
  induction groups generalizing st tt with
  | nil => exact ⟨_, _, _, rfl, rfl, h⟩
  | cons group groups ih =>
    unfold readGroups
    obtain ⟨r, st1, tt1, hg, hg', h1⟩ := readGroup_matches h group
    rw [hg, hg']
    cases r with
    | error g => exact ⟨_, _, _, rfl, rfl, h1⟩
    | ok bytes =>
      obtain ⟨r, st2, tt2, hgs, hgs', h2⟩ := ih h1
      dsimp only
      rw [hgs, hgs']
      cases r with
      | error g => exact ⟨_, _, _, rfl, rfl, h2⟩
      | ok rest => exact ⟨_, _, _, rfl, rfl, h2⟩

theorem readv_matches (hfd : f.fd = some fd) (hfd' : f'.fd = some .first)
    (hgrouping : f'.grouping = f.grouping) (h : L.Pending st tt out) (extents : List Extent) :
    Matches L out (f.readv extents st) (f'.readv extents tt) := by
  unfold RawFile.readv
  rw [requireFd_eq hfd, requireFd_eq hfd', hgrouping]
  rcases checkExtents extents with g | ⟨⟩
  · exact ⟨_, _, _, rfl, rfl, h⟩
  · exact readGroups_matches h _

theorem truncate_matches (hfd : f.fd = some fd) (hfd' : f'.fd = some .first)
    (h : L.Pending st tt out) (len : Nat) :
    Matches L out (f.truncate len st) (f'.truncate len tt) := by
  unfold RawFile.truncate
  rw [requireFd_eq hfd, requireFd_eq hfd']
  obtain ⟨r, st1, tt1, ht, ht', hlike, hwaits⟩ := L.truncate len h.like h.waits
  exact ⟨r, st1, tt1, ht, ht', hlike, hwaits⟩

end RawFile

/-! ## Sessions -/

/-- Two files that have come to the same, but for the sessions that may be open. -/
structure StagedFile.Beside (f f' : StagedFile) : Prop where
  settings : f'.settings = f.settings
  grouping : f'.raw.grouping = f.raw.grouping
  bytes : f'.bytes = f.bytes
  last : f'.lastSummary.map Summary.unnumbered = f.lastSummary.map Summary.unnumbered

/-- Two sessions that have come to the same. -/
structure Session.Beside (kind : AdapterKind) (fd : Fd) (s s' : Session) : Prop where
  fd_eq : s.fd = fd
  fd_eq' : s'.fd = .first
  path : s'.path = s.path
  access : s'.access = s.access
  stage : s.stage.Beside ⟨kind, fd⟩ ⟨kind, .first⟩ s'.stage

/-- The summaries tell the same of both. -/
theorem StagedFile.Beside.summarize {f f' : StagedFile} {s s' : Session} (h : f.Beside f')
    (hs : s.Beside kind fd s') (ended : Bool) :
    (f'.summarize s' ended).unnumbered = (f.summarize s ended).unnumbered := by
  unfold StagedFile.summarize Summary.unnumbered
  rw [hs.path, hs.stage.adapter.kind, hs.stage.adapter.kind', hs.stage.capacity, h.bytes,
    hs.stage.stats, hs.stage.adapter.traffic]

namespace FileClient

/-- Two open files that have come to the same over stores that are alike. -/
structure Beside (L : Likeness σ τ Waits fd) (kind : AdapterKind) (alone : Prop) (c : FileClient σ)
    (k : FileClient τ) (s s' : Session) : Prop where
  files : c.file.Beside k.file
  session : c.file.session = some s
  session' : k.file.session = some s'
  raw : c.file.raw.fd = some fd
  raw' : k.file.raw.fd = some .first
  sessions : s.Beside kind fd s'
  owed : Owed L alone c.store k.store s.stage.inflight.requests c.due k.due

variable {c c' : FileClient σ} {k k' : FileClient τ} {s s' : Session}

/-- They show the same. -/
theorem Beside.sight (h : Beside L kind alone c k s s') {heard heard' : Heard}
    (hheard : heard'.unnumbered = heard.unnumbered) : k.sight heard' = c.sight heard := by
  unfold FileClient.sight StagedFile.summary
  rw [h.session, h.session', hheard]
  dsimp only [Option.map_some]
  rw [h.sessions.stage.state, h.files.summarize h.sessions]

/-- The stages moved on together, and the counters of the files with them. -/
theorem Beside.moved (h : Beside L kind alone c k s s') {stage stage' : Stage} {st : σ} {tt : τ}
    {due due' : Option (Ticket × Errand)} {bytes bytes' : SessionBytes}
    (hb : stage.Beside ⟨kind, fd⟩ ⟨kind, .first⟩ stage')
    (ho : Owed L alone st tt stage.inflight.requests due due') (hbytes : bytes' = bytes) :
    Beside L kind alone
      { file := { c.file with session := some { s with stage }, bytes }, store := st, due }
      { file := { k.file with session := some { s' with stage := stage' }, bytes := bytes' }
        store := tt, due := due' }
      { s with stage } { s' with stage := stage' } :=
  ⟨⟨h.files.settings, h.files.grouping, hbytes, h.files.last⟩, rfl, rfl, h.raw, h.raw',
    ⟨h.sessions.fd_eq, h.sessions.fd_eq', h.sessions.path, h.sessions.access, hb⟩, ho⟩

/-- The stages stayed as they are. -/
theorem Beside.passed (h : Beside L kind alone c k s s') {st : σ} {tt : τ}
    {bytes bytes' : SessionBytes}
    (ho : Owed L alone st tt s.stage.inflight.requests c.due k.due) (hbytes : bytes' = bytes) :
    Beside L kind alone { c with file := { c.file with bytes }, store := st }
      { k with file := { k.file with bytes := bytes' }, store := tt } s s' :=
  ⟨⟨h.files.settings, h.files.grouping, hbytes, h.files.last⟩, h.session, h.session', h.raw, h.raw',
    h.sessions, ho⟩

/-- Two that go on from a deed, and what was heard. -/
def Goes (L : Likeness σ τ Waits fd) (kind : AdapterKind) (alone : Prop) (x : Heard × FileClient σ)
    (x' : Heard × FileClient τ) : Prop :=
  x'.1.unnumbered = x.1.unnumbered ∧ ∃ s s', Beside L kind alone x.2 x'.2 s s'

/-- What is asked through the stages comes to the same. -/
theorem Beside.ask (h : Beside L kind alone c k s s') (path path' : String) (act : Act) :
    Goes L kind alone (c.does path (.ask act)) (k.does path' (.ask act)) := by
  have hbytes := h.files.bytes
  cases act with
  | read offset len =>
    obtain ⟨r, stage, st, r', stage', tt, hr, hr', hsame, hb, ho⟩ :=
      h.sessions.stage.read_inStep h.owed offset len
    simp only [does, hear, FileClient.ask, StagedFile.read, StagedFile.opened, h.session,
      h.session', hr, hr']
    cases hsame with
    | ok bytes =>
      refine ⟨rfl, _, _, h.moved hb ho ?_⟩
      exact congrArg (fun b : SessionBytes => { b with read := b.read.plus bytes.length }) hbytes
    | error hf =>
      exact ⟨congrArg (fun f => Heard.replied (.bytes (.error f))) hf, _, _, h.moved hb ho hbytes⟩
  | write offset data =>
    rcases hw : s.access.write with _ | _
    · have hw' : s'.access.write = false := by rw [h.sessions.access, hw]
      simp only [does, hear, FileClient.ask, StagedFile.write, StagedFile.writable, h.session,
        h.session', hw, hw']
      exact ⟨rfl, _, _, h⟩
    · have hw' : s'.access.write = true := by rw [h.sessions.access, hw]
      obtain ⟨r, stage, st, r', stage', tt, hr, hr', hsame, hb, ho⟩ :=
        h.sessions.stage.write_inStep h.owed offset data
      simp only [does, hear, FileClient.ask, StagedFile.write, StagedFile.writable, h.session,
        h.session', hw, hw', if_true, hr, hr']
      cases hsame with
      | ok n =>
        refine ⟨rfl, _, _, h.moved hb ho ?_⟩
        exact congrArg (fun b : SessionBytes => { b with write := b.write.plus n }) hbytes
      | error hf =>
        exact ⟨congrArg (fun f => Heard.replied (.count (.error f))) hf, _, _, h.moved hb ho hbytes⟩
  | flush =>
    obtain ⟨r, stage, st, r', stage', tt, hr, hr', hsame, hb, ho⟩ :=
      h.sessions.stage.flush_inStep h.owed
    simp only [does, hear, FileClient.ask, StagedFile.flush, StagedFile.opened, h.session,
      h.session', hr, hr']
    exact ⟨congrArg (fun q => Heard.replied (.count q)) hsame.unnumbered, _, _, h.moved hb ho hbytes⟩
  | readAio offset len =>
    obtain ⟨r, stage, st, r', stage', tt, hr, hr', hsame, hb, ho⟩ :=
      h.sessions.stage.readAio_inStep h.owed offset len
    simp only [does, hear, FileClient.ask, StagedFile.readAio, StagedFile.opened, h.session,
      h.session', hr, hr']
    exact ⟨congrArg Heard.replied hsame, _, _, h.moved hb ho hbytes⟩
  | writeAio offset data =>
    rcases hw : s.access.write with _ | _
    · have hw' : s'.access.write = false := by rw [h.sessions.access, hw]
      simp only [does, hear, FileClient.ask, StagedFile.writeAio, StagedFile.writable, h.session,
        h.session', hw, hw']
      exact ⟨rfl, _, _, h⟩
    · have hw' : s'.access.write = true := by rw [h.sessions.access, hw]
      obtain ⟨r, stage, st, r', stage', tt, hr, hr', hsame, hb, ho⟩ :=
        h.sessions.stage.writeAio_inStep h.owed offset data
      simp only [does, hear, FileClient.ask, StagedFile.writeAio, StagedFile.writable, h.session,
        h.session', hw, hw', if_true, hr, hr']
      exact ⟨congrArg Heard.replied hsame, _, _, h.moved hb ho hbytes⟩
  | deliver =>
    have howed := h.owed
    generalize hreq : s.stage.inflight.requests = requests at howed
    generalize hdue : c.due = due at howed
    generalize hdue' : k.due = due' at howed
    cases howed with
    | nothing _ =>
      simp only [does, hear, FileClient.ask, hdue, hdue']
      exact ⟨rfl, _, _, h⟩
    | one hlike _ =>
      obtain ⟨done, st, tt, ha, ha', hlike'⟩ := L.await hlike
      obtain ⟨hsame, hb⟩ := h.sessions.stage.complete done
      rcases hc : s.stage.complete done with ⟨answer, stage⟩
      rcases hc' : s'.stage.complete done with ⟨answer', stage'⟩
      rw [hc, hc'] at hsame hb
      have hnone := (Stage.complete_ends hreq hc).1
      simp only [does, hear, FileClient.ask, hdue, hdue', ha, ha', StagedFile.complete, h.session,
        h.session', hc, hc']
      obtain rfl : answer' = answer := hsame
      refine ⟨rfl, _, _, h.moved hb ?_ hbytes⟩
      rw [hnone]
      exact .nothing hlike'

/-- What is out, with its tickets in both stores. -/
theorem Beside.pending (h : Beside L kind alone c k s s')
    (hwaits : ∀ x ∈ c.due, Waits c.store x.1) :
    ∃ out, L.Pending c.store k.store out ∧ ∀ st tt, L.Pending st tt out →
      Owed L alone st tt s.stage.inflight.requests c.due k.due := by
  have howed := h.owed
  generalize s.stage.inflight.requests = requests at howed
  generalize c.due = due at howed hwaits
  generalize k.due = due' at howed
  cases howed with
  | nothing hlike => exact ⟨none, ⟨hlike, by simp⟩, fun _ _ hp => .nothing hp.like⟩
  | @one request t u errand hlike hstill =>
    refine ⟨some (t, u), ⟨hlike, ?_⟩, fun st tt hp => .one hp.like fun _ => hp.waits _ rfl⟩
    intro x hx
    cases hx
    exact hwaits _ rfl

/-- What goes past the stages comes to the same while what is out has still to run. -/
theorem Beside.readv (h : Beside L kind alone c k s s')
    (hwaits : ∀ x ∈ c.due, Waits c.store x.1) (path path' : String) (extents : List Extent) :
    Goes L kind alone (c.does path (.readv extents)) (k.does path' (.readv extents)) := by
  obtain ⟨out, hpending, howed⟩ := h.pending hwaits
  obtain ⟨r, st, tt, hr, hr', hpending'⟩ :=
    RawFile.readv_matches h.raw h.raw' h.files.grouping hpending extents
  have ho := howed st tt hpending'
  cases r with
  | error e =>
    simp only [does, StagedFile.readv, StagedFile.pass, h.session, h.session', hr, hr']
    exact ⟨rfl, s, s', h.passed ho h.files.bytes⟩
  | ok pieces =>
    simp only [does, StagedFile.readv, StagedFile.pass, h.session, h.session', hr, hr']
    refine ⟨rfl, s, s', h.moved h.sessions.stage ho ?_⟩
    exact congrArg
      (fun b : SessionBytes => { b with readv := b.readv.plus pieces.flatten.length }) h.files.bytes

theorem Beside.truncate (h : Beside L kind alone c k s s')
    (hwaits : ∀ x ∈ c.due, Waits c.store x.1) (path path' : String) (len : Nat) :
    Goes L kind alone (c.does path (.truncate len)) (k.does path' (.truncate len)) := by
  obtain ⟨out, hpending, howed⟩ := h.pending hwaits
  obtain ⟨r, st, tt, ht, ht', hpending'⟩ := RawFile.truncate_matches h.raw h.raw' hpending len
  simp only [does, StagedFile.pass, h.session, h.session', ht, ht']
  exact ⟨rfl, s, s', h.passed (howed st tt hpending') h.files.bytes⟩

/-- What a session flushes last is the same. -/
theorem Beside.lastFlush (h : Beside L kind alone c k s s')
    (hreq : s.stage.inflight.requests = []) :
    ∃ r stage st stage' tt, s.lastFlush c.store = (r, stage, st) ∧
      s'.lastFlush k.store = (r, stage', tt) ∧
      stage.Beside ⟨kind, fd⟩ ⟨kind, .first⟩ stage' ∧ L.Like st tt none := by
  have howed := h.owed
  rw [hreq] at howed
  generalize c.due = due at howed
  generalize k.due = due' at howed
  cases howed with
  | nothing hlike =>
    unfold Session.lastFlush
    rw [h.sessions.access]
    by_cases hw : s.access.write = true
    · rw [if_pos hw, if_pos hw]
      have hidle : s.stage.outstanding = 0 := congrArg List.length hreq
      have hcheck : s'.stage.checkIdle = s.stage.checkIdle := by
        rw [Stage.checkIdle_of_idle hidle,
          Stage.checkIdle_of_idle (h.sessions.stage.outstanding.trans hidle)]
      exact Stage.flush_together (L.pairing kind) h.sessions.stage hlike hcheck
    · rw [if_neg hw, if_neg hw]
      exact ⟨_, _, _, _, _, rfl, rfl, h.sessions.stage, hlike⟩

end FileClient

end StagedFiles
