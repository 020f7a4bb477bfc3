-- Files whose requests are owed, over any number of opens and closes. While a file
-- is open, whatever is done with it comes down to what callers of its stage and
-- others do, so what a run of those keeps holds of the file. It closes only with
-- nothing out. A request that was lost can therefore never be got rid of.
import StagedFiles.Proofs.Closing
import StagedFiles.Proofs.OwedRequests

namespace StagedFiles

variable {σ : Type} [ObjectStore σ]

/-! ## Calls past the stage -/

/-- To the callers of a stage the calls past it are those of others, for they fetch
nothing. -/
theorem Leads.events {D : Desk σ} {st st' : σ} (h : Leads StoreCall.Light st st') (d : Debtor σ)
    (hst : d.client.store = st) :
    ∃ events : List (Debtor.Event D),
      d.run events = { d with client := { d.client with store := st' } } := by
  induction h with
  | stay =>
    subst hst
    exact ⟨[], rfl⟩
  | call call hlight _ ih =>
    obtain ⟨events, hrun⟩ := ih
    refine ⟨events ++ [.others call], ?_⟩
    have hfree : d.client.due.map (fun e => StoreCall.await e.1) ≠ some call := by
      intro he
      obtain ⟨e, -, rfl⟩ := Option.map_eq_some_iff.mp he
      exact hlight
    unfold Debtor.run at hrun ⊢
    rw [List.foldl_append, hrun]
    simp only [List.foldl_cons, List.foldl_nil, Debtor.step, Client.othersCall, if_neg hfree]

/-! ## A file, others and what befalls the store -/

/-- Requests of a file that are out; a file that is not open has none. -/
def StagedFile.outstanding (f : StagedFile) : Nat :=
  match f.session with
  | none => 0
  | some s => s.stage.outstanding

/-- A file, and whether what it has out was lost. -/
structure FileDebtor (σ : Type) where
  client : FileClient σ
  lost : Bool := false

namespace FileDebtor

/-- What callers do with a file, what others do with the store, and what befalls it. -/
inductive Event (D : Desk σ) where
  | openPath (path : String) (access : Access)
  | ask (act : Act)
  | readRaw (offset len : Nat)
  | readv (extents : List Extent)
  | stat
  | sync
  | truncate (len : Nat)
  | close
  | others (call : StoreCall)
  | befall (blow : D.Blow)

variable {D : Desk σ}

def step (d : FileDebtor σ) : Event D → FileDebtor σ
  | .openPath path access =>
    let (_, file, store) := d.client.file.openPath path access d.client.store
    { d with client := { d.client with file, store } }
  | .ask act =>
    let c := d.client.ask act
    { client := c
      lost := Client.lostAfter d.client.due c.due (D.stopped d.client.store) d.lost }
  | .readRaw offset len => { d with client := d.client.step (.readRaw offset len) }
  | .readv extents => { d with client := d.client.step (.readv extents) }
  | .stat => { d with client := d.client.step .stat }
  | .sync => { d with client := d.client.step .sync }
  | .truncate len => { d with client := d.client.step (.truncate len) }
  | .close =>
    let (_, file, store) := d.client.file.close d.client.store
    { d with client := { d.client with file, store } }
  | .others call =>
    { d with client := { d.client with
        store := Client.othersCall d.client.due call d.client.store } }
  | .befall blow => { d with client := { d.client with store := D.befall blow d.client.store } }

/-- All the events in order. -/
def run (d : FileDebtor σ) (events : List (Event D)) : FileDebtor σ := events.foldl step d

/-- The callers of the stage of a session. -/
def debtor (d : FileDebtor σ) (s : Session) : Debtor σ :=
  { client := d.client.client s, lost := d.lost }

/-! ## The course of a session -/

variable {d : FileDebtor σ} {s : Session}

/-- A session went on as the callers of its stage may, or it ended with nothing out. -/
inductive Course (D : Desk σ) (d : FileDebtor σ) (s : Session) (d' : FileDebtor σ) : Prop where
  | on {s' : Session} (events : List (Debtor.Event D)) : d'.client.file.session = some s' →
      d'.debtor s' = (d.debtor s).run events → Course D d s d'
  | ended : s.stage.outstanding = 0 → d'.client.file.session = none →
      d'.client.due = d.client.due → Course D d s d'

/-- A session whose calls go past its stage. -/
theorem course_of_light {c : FileClient σ} (hs : d.client.file.session = some s)
    (hsession : c.file.session = d.client.file.session) (hdue : c.due = d.client.due)
    (hlight : Leads StoreCall.Light d.client.store c.store) : Course D d s { d with client := c } := by
  obtain ⟨events, hrun⟩ := hlight.events (D := D) (d.debtor s) rfl
  refine .on events (hsession.trans hs) ?_
  rw [hrun]
  simp only [debtor, FileClient.client, hdue]

theorem course_of_pass {α : Type} (hs : d.client.file.session = some s)
    (call : RawFile → σ → Except Failure α × σ)
    (hlight : ∀ r st, call d.client.file.raw d.client.store = (r, st) →
      Leads StoreCall.Light d.client.store st) :
    Course D d s { d with client := d.client.pass call } := by
  rcases hcall : call d.client.file.raw d.client.store with ⟨r, st⟩
  have hpass : d.client.pass call = { d.client with store := st } := by
    simp only [FileClient.pass, StagedFile.pass, hs, hcall]
  rw [hpass]
  exact course_of_light hs rfl rfl (hlight r st hcall)

theorem course_of_readv (hs : d.client.file.session = some s) (extents : List Extent) :
    Course D d s (d.step (.readv extents : Event D)) := by
  rcases hr : d.client.file.raw.readv extents d.client.store with ⟨e | pieces, st⟩
  · apply course_of_light hs
    · simp only [FileClient.step, StagedFile.readv, StagedFile.pass, hs, hr]
    · rfl
    · simp only [FileClient.step, StagedFile.readv, StagedFile.pass, hs, hr]
      exact (RawFile.readv_reads hr).light
  · apply course_of_light hs
    · simp only [FileClient.step, StagedFile.readv, StagedFile.pass, hs, hr]
    · rfl
    · simp only [FileClient.step, StagedFile.readv, StagedFile.pass, hs, hr]
      exact (RawFile.readv_reads hr).light

/-- What is asked through the stage is asked of it, or refused. -/
theorem course_of_ask (hs : d.client.file.session = some s) (act : Act) :
    Course D d s (d.step (.ask act : Event D)) := by
  by_cases hw : act.writes = true → s.access.write = true
  · obtain ⟨hsession, -, hstore, hdue⟩ := FileClient.ask_follows hs hw
    refine .on [.ask act] hsession ?_
    simp only [Debtor.run, List.foldl_cons, List.foldl_nil, Debtor.step, debtor, step,
      FileClient.client] at hstore hdue ⊢
    rw [hstore, hdue]
  · rw [Classical.not_imp] at hw
    obtain ⟨hact, hread⟩ := hw
    have hsame : d.step (.ask act : Event D) = d := by
      simp only [step, FileClient.ask_refused hs (Bool.eq_false_iff.mpr hread) hact,
        Client.lostAfter_self]
    rw [hsame]
    exact .on [] hs rfl

/-- An open file stays open when it is opened again. -/
theorem course_of_openPath (hs : d.client.file.session = some s) (path : String)
    (access : Access) : Course D d s (d.step (.openPath path access : Event D)) := by
  have hsame : d.step (.openPath path access : Event D) = d := by
    simp only [step, StagedFile.openPath, hs]
  rw [hsame]
  exact .on [] hs rfl

/-- A file with nothing out can be closed. -/
theorem close_of_idle {f : StagedFile} (hout : f.outstanding = 0) (st : σ) :
    (f.close st).2.1.session = none := by
  rcases hs : f.session with _ | s
  · rw [StagedFile.close_shut hs]
    exact hs
  · have hidle : s.stage.outstanding = 0 := by
      unfold StagedFile.outstanding at hout
      rw [hs] at hout
      exact hout
    exact StagedFile.close_ends hs hidle st

theorem course_of_close (hs : d.client.file.session = some s) :
    Course D d s (d.step (.close : Event D)) := by
  by_cases hout : s.stage.outstanding = 0
  · have hidle : d.client.file.outstanding = 0 := by
      unfold StagedFile.outstanding
      rw [hs]
      exact hout
    exact .ended hout (close_of_idle hidle d.client.store) rfl
  · have hsame : d.step (.close : Event D) = d := by
      simp only [step, StagedFile.close_busy hs hout]
    rw [hsame]
    exact .on [] hs rfl

/-- Every event takes a session further or ends it. -/
theorem course_of_step (hs : d.client.file.session = some s) (e : Event D) :
    Course D d s (d.step e) := by
  cases e with
  | openPath path access => exact course_of_openPath hs path access
  | ask act => exact course_of_ask hs act
  | readRaw offset len =>
    exact course_of_pass hs (fun raw st => raw.read offset len st) fun r st hread =>
      (RawFile.read_reads hread).light
  | readv extents => exact course_of_readv hs extents
  | stat =>
    exact course_of_pass hs (fun raw st => raw.stat st) fun r st => RawFile.stat_light
  | sync =>
    exact course_of_pass hs (fun raw st => raw.sync st) fun r st => RawFile.sync_light
  | truncate len =>
    exact course_of_pass hs (fun raw st => raw.truncate len st) fun r st => RawFile.truncate_light
  | close => exact course_of_close hs
  | others call => exact .on [.others call] hs rfl
  | befall blow => exact .on [.befall blow] hs rfl

/-! ## A file that is not open -/

/-- Where an open leads: to no session, or to one over a stage that was just built. -/
theorem openPath_shut {f f' : StagedFile} {path : String} {access : Access} {st st' : σ}
    {r : Except Failure Fd} (hs : f.session = none)
    (h : f.openPath path access st = (r, f', st')) :
    f'.session = none ∨ ∃ s fd, f'.session = some s ∧ Stage.build f.settings fd = .ok s.stage := by
  cases StagedFile.openPath_cases h with
  | already _ => exact .inl hs
  | unfit _ _ => exact .inl hs
  | refused _ _ => exact .inl hs
  | unbuilt _ _ _ => exact .inl hs
  | opened _ _ hbuild => exact .inr ⟨_, _, rfl, hbuild⟩

/-! ## What a file has out is owed -/

/-- The callers of an open file are settled, and nothing is due to any other. -/
inductive Settled (D : Desk σ) (d : FileDebtor σ) : Prop where
  | shut : d.client.file.session = none → d.client.due = none → Settled D d
  | opened {s : Session} : d.client.file.session = some s →
      (d.client.client s).Settled D d.lost → Settled D d

/-- A session ends with nothing due. -/
theorem due_of_idle {c : Client σ} {lost : Bool} (h : c.Settled D lost)
    (hout : c.stage.outstanding = 0) : c.due = none := by
  cases h with
  | idle _ hdue => exact hdue
  | owed hreq _ _ =>
    rw [Stage.outstanding_of_one hreq] at hout
    cases hout
  | lost hreq _ =>
    rw [Stage.outstanding_of_one hreq] at hout
    cases hout

theorem settled_of_course {d' : FileDebtor σ} (h : (d.client.client s).Settled D d.lost)
    (hcourse : Course D d s d') : Settled D d' := by
  cases hcourse with
  | @on s' events hs' hrun =>
    have hsettled := Debtor.settled_run (d := d.debtor s) h events
    rw [← hrun] at hsettled
    exact .opened hs' hsettled
  | ended hout hshut hdue => exact .shut hshut (hdue.trans (due_of_idle h hout))

/-- A file that is not open is opened, or stays as it is. -/
theorem settled_of_shut (hs : d.client.file.session = none) (hdue : d.client.due = none)
    (e : Event D) : Settled D (d.step e) := by
  cases e with
  | openPath path access =>
    rcases hopen : d.client.file.openPath path access d.client.store with ⟨r, file, store⟩
    simp only [step, hopen]
    rcases openPath_shut hs hopen with hnone | ⟨s, fd, hsome, hbuild⟩
    · exact .shut hnone hdue
    · refine .opened hsome ?_
      simp only [FileClient.client, hdue]
      exact Debtor.settled_of_build store d.lost hbuild
  | ask act =>
    simp only [step, FileClient.ask_shut hs hdue]
    exact .shut hs hdue
  | readRaw offset len =>
    simp only [step, FileClient.step, FileClient.pass_shut hs]
    exact .shut hs hdue
  | readv extents =>
    simp only [step, FileClient.step, StagedFile.readv_shut hs]
    exact .shut hs hdue
  | stat =>
    simp only [step, FileClient.step, FileClient.pass_shut hs]
    exact .shut hs hdue
  | sync =>
    simp only [step, FileClient.step, FileClient.pass_shut hs]
    exact .shut hs hdue
  | truncate len =>
    simp only [step, FileClient.step, FileClient.pass_shut hs]
    exact .shut hs hdue
  | close =>
    simp only [step, StagedFile.close_shut hs]
    exact .shut hs hdue
  | others call => exact .shut hs hdue
  | befall blow => exact .shut hs hdue

theorem settled_step (h : Settled D d) (e : Event D) : Settled D (d.step e) := by
  cases h with
  | shut hs hdue => exact settled_of_shut hs hdue e
  | opened hs hsettled => exact settled_of_course hsettled (course_of_step hs e)

theorem settled_run (h : Settled D d) (events : List (Event D)) : Settled D (d.run events) := by
  induction events generalizing d with
  | nil => exact h
  | cons e events ih => exact ih (settled_step h e)

/-- Over a store that never stops a file loses nothing. -/
theorem lost_step (hD : ∀ st, D.stopped st = false) (h : d.lost = false) (e : Event D) :
    (d.step e).lost = false := by
  cases e with
  | ask act =>
    show Client.lostAfter _ _ (D.stopped d.client.store) d.lost = false
    rw [hD, h]
    unfold Client.lostAfter
    split
    · rfl
    · rfl
  | openPath path access => exact h
  | readRaw offset len => exact h
  | readv extents => exact h
  | stat => exact h
  | sync => exact h
  | truncate len => exact h
  | close => exact h
  | others call => exact h
  | befall blow => exact h

theorem lost_run (hD : ∀ st, D.stopped st = false) (h : d.lost = false) (events : List (Event D)) :
    (d.run events).lost = false := by
  induction events generalizing d with
  | nil => exact h
  | cons e events ih => exact ih (lost_step hD h e)

/-- When the store holds nothing, nothing is out, no request is refused for one that
is, and the file can be closed; and taking the completion ends what is out. -/
structure Ends (D : Desk σ) (d : FileDebtor σ) : Prop where
  cleared : D.Empty d.client.store → d.client.file.outstanding = 0
  admits {s : Session} : D.Empty d.client.store → d.client.file.session = some s →
    s.stage.checkIdle = .ok ()
  closes : D.Empty d.client.store → (d.client.file.close d.client.store).2.1.session = none
  delivered : (d.client.ask .deliver).file.outstanding = 0

theorem ends_of_settled (h : Settled D d) (hlost : d.lost = false) : d.Ends D := by
  cases h with
  | shut hs hdue =>
    have hout : d.client.file.outstanding = 0 := by
      unfold StagedFile.outstanding
      rw [hs]
    refine ⟨fun _ => hout, ?_, fun _ => close_of_idle hout _, ?_⟩
    · intro s _ hopen
      rw [hs] at hopen
      cases hopen
    · rw [FileClient.ask_shut hs hdue]
      exact hout
  | @opened s hs hsettled =>
    rw [hlost] at hsettled
    have hcleared : D.Empty d.client.store → d.client.file.outstanding = 0 := by
      intro hempty
      unfold StagedFile.outstanding
      rw [hs]
      exact hsettled.cleared hempty
    refine ⟨hcleared, ?_, fun hempty => close_of_idle (hcleared hempty) _, ?_⟩
    · intro s' hempty hopen
      rw [hs] at hopen
      cases hopen
      exact Stage.checkIdle_of_idle (hsettled.cleared hempty)
    · have hfollows : FileClient.Follows d.client s ((d.client.client s).step .deliver).2
          (d.client.ask .deliver) := FileClient.ask_follows hs nofun
      unfold StagedFile.outstanding
      rw [hfollows.session]
      exact hsettled.delivered

end FileDebtor

/-! ## Requests end -/

/-- What a stage or a file has out ends, and nothing is out once the store holds
nothing that was handed in: over a store in memory in any case, and over a directory
store unless the request was handed in after the workers were stopped. One that was
handed in to a directory store without workers never ends, although nothing is left
that could end it. -/
theorem a_request_ends_unless_lost {settings : Settings} {fd : Fd} {stage : Stage}
    (hbuild : Stage.build settings fd = .ok stage) :
    (∀ (store : MemoryStore) (events : List (Debtor.Event MemoryStore.desk)),
      (Debtor.run { client := { stage, store } } events).Ends MemoryStore.desk) ∧
    (∀ (store : MemoryStore) (events : List (FileDebtor.Event MemoryStore.desk)),
      (FileDebtor.run { client := { file := .ofSettings settings, store } } events).Ends
        MemoryStore.desk) ∧
    (∀ (store : DirectoryStore) (events : List (Debtor.Event DirectoryStore.desk)),
      (Debtor.run { client := { stage, store } } events).lost = false →
      (Debtor.run { client := { stage, store } } events).Ends DirectoryStore.desk) ∧
    (∀ (store : DirectoryStore) (events : List (FileDebtor.Event DirectoryStore.desk)),
      (FileDebtor.run { client := { file := .ofSettings settings, store } } events).lost = false →
      (FileDebtor.run { client := { file := .ofSettings settings, store } } events).Ends
        DirectoryStore.desk) ∧
    (∀ (d : Debtor DirectoryStore) (act : Act) (ticket : Ticket)
        (events : List (Debtor.Event DirectoryStore.desk)),
      Debtor.Deserted d.client.store → d.client.stage.inflight.requests = [] →
      (d.client.step act).1 = .started (.ok (.submitted ticket)) →
      ((d.step (.ask act : Debtor.Event DirectoryStore.desk)).run events).client.stage.outstanding =
        1) := by
  refine ⟨?_, ?_, ?_, ?_, ?_⟩
  · intro store events
    apply Debtor.ends_of_settled
    · exact Debtor.settled_run (Debtor.settled_of_build store false hbuild) events
    · exact Debtor.lost_run (fun _ => rfl) rfl events
  · intro store events
    apply FileDebtor.ends_of_settled
    · exact FileDebtor.settled_run (.shut rfl rfl) events
    · exact FileDebtor.lost_run (fun _ => rfl) rfl events
  · intro store events hlost
    apply Debtor.ends_of_settled _ hlost
    exact Debtor.settled_run (Debtor.settled_of_build store false hbuild) events
  · intro store events hlost
    apply FileDebtor.ends_of_settled _ hlost
    exact FileDebtor.settled_run (.shut rfl rfl) events
  · intro d act ticket events hstore hreq hstep
    have hstranded := Debtor.stranded_of_submitted hstore hreq hstep
    exact (Debtor.Stranded.run (d := d.step (.ask act)) hstranded events).out

/-- Callers of a small stage on an open descriptor of a directory store. -/
def Debtor.small : Debtor DirectoryStore :=
  { client :=
      { stage := .small
        store := { root := "/", files := ({} : Table Fd OpenNode).insert .first ⟨1, .readWrite⟩ } } }

/-- The same callers after the workers were stopped. -/
def Debtor.unmanned : Debtor DirectoryStore :=
  Debtor.small.step (.befall .stopWorkers : Debtor.Event DirectoryStore.desk)

/-- And after they handed a read in to it. -/
def Debtor.late : Debtor DirectoryStore :=
  Debtor.unmanned.step (.ask (.readAio 0 2) : Debtor.Event DirectoryStore.desk)

/-- A read that is handed in before the workers stop. -/
def Debtor.inTime : List (Debtor.Event DirectoryStore.desk) :=
  [.ask (.readAio 0 2), .befall .stopWorkers, .ask .deliver]

theorem a_request_ends_in_time_and_never_too_late :
    Stage.build { bufferSize := 4 } .first = .ok .small ∧
      (Debtor.small.run Debtor.inTime).lost = false ∧
      (Debtor.small.run Debtor.inTime).client.store.parked = [] ∧
      (Debtor.small.run Debtor.inTime).client.stage.outstanding = 0 ∧
      (Debtor.late.run Debtor.inTime).client.stage.outstanding = 1 := by
  obtain ⟨-, -, hstage, -, hlost⟩ := a_request_ends_unless_lost Stage.small_built
  have hends := hstage Debtor.small.client.store Debtor.inTime rfl
  exact ⟨Stage.small_built, rfl, rfl, hends.cleared rfl,
    hlost Debtor.unmanned (.readAio 0 2) ⟨0⟩ Debtor.inTime ⟨rfl, rfl⟩ rfl rfl⟩

theorem a_request_is_out_with_nothing_parked :
    Debtor.late.client.store.parked = [] ∧ Debtor.late.client.stage.outstanding = 1 := by
  constructor
  · rfl
  · rfl

end StagedFiles
