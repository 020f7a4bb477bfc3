-- A descriptor of the store in memory that is open to be written and not to be read, while
-- no call is told to fail. Whatever else is done with the store, its writes go in full and
-- each of its reads is refused in the same way: at once, or when it is waited for.
import StagedFiles.Proofs.CalmObject
import StagedFiles.Proofs.Keeper
import StagedFiles.Proofs.MatchingStores
import StagedFiles.Proofs.MemoryTables
import StagedFiles.Proofs.OwedTransfers
import StagedFiles.Proofs.ReadOnlyObjects

namespace StagedFiles

/-- What a transfer of a writer comes to. -/
def Job.outcome : Job → Completion
  | .read _ _ _ => .bytes (.error (.badDescriptor .reading))
  | .write _ _ data => .count (.ok data.length)

namespace MemoryStore

variable {fd : Fd} {st st' : MemoryStore} {t ticket : Ticket} {job : Job}
  {out : Option (Ticket × Job)}

/-! ## The descriptor of a writer -/

/-- No call is told to fail, and the descriptor is open to be written only. It is given to
nobody else. -/
structure ForWriting (fd : Fd) (st : MemoryStore) : Prop where
  quiet : st.faults.Quiet
  handle : ∃ o access, st.handles.find? fd = some ⟨o, access⟩ ∧ access.write = true ∧
    access.read = false
  older : fd.number < st.nextFd.number

theorem ForWriting.move (h : ForWriting fd st) (hfaults : st'.faults = st.faults)
    (hhandle : st'.handles.find? fd = st.handles.find? fd)
    (hnext : st.nextFd.number ≤ st'.nextFd.number) : ForWriting fd st' := by
  refine ⟨?_, ?_, Int.lt_of_lt_of_le h.older hnext⟩
  · rw [hfaults]
    exact h.quiet
  · rw [hhandle]
    exact h.handle

theorem ForWriting.performRead (h : ForWriting fd st) (offset len : Nat) :
    st.performRead fd offset len = (.error (.badDescriptor .reading), st) := by
  obtain ⟨o, access, hhandle, -, hread⟩ := h.handle
  unfold MemoryStore.performRead
  rw [Fault.take_of_spent h.quiet.reads, hhandle]
  simp [hread]

theorem ForWriting.performWrite (h : ForWriting fd st) (offset : Nat) (data : Bytes)
    (aio : Bool) : (st.performWrite fd offset data aio).1 = .ok data.length := by
  obtain ⟨o, access, hhandle, hwrite, -⟩ := h.handle
  rw [performWrite_open hhandle hwrite h.quiet.writes]

/-- A transfer of the writer comes to its outcome, whenever it runs. -/
theorem ForWriting.outcome (h : ForWriting fd st) (hjob : job.fd = fd) :
    (st.perform job).1 = job.outcome := by
  cases job with
  | read fd' offset len =>
    obtain rfl : fd' = fd := hjob
    simp only [MemoryStore.perform, h.performRead offset len, Job.outcome]
  | write fd' offset data =>
    obtain rfl : fd' = fd := hjob
    exact congrArg Completion.count (h.performWrite offset data true)

/-! ### Transfers that run -/

/-- Whose transfer it may be, it leaves the writer its descriptor. -/
theorem ForWriting.perform (h : ForWriting fd st) (job : Job) :
    ForWriting fd (st.perform job).2 := by
  obtain ⟨faults, objects, written, hframe⟩ := perform_frame st job
  refine h.move (faults_perform h.quiet job) ?_ (Int.le_of_eq ?_)
  · rw [hframe]
  · rw [hframe]

theorem ForWriting.performAll (h : ForWriting fd st) (jobs : List (Ticket × Job)) :
    ForWriting fd (performAll keep jobs st) := by
  induction jobs generalizing st with
  | nil => exact h
  | cons e jobs ih =>
    rw [performAll_cons]
    have hran := h.perform e.2
    exact ih (hran.move rfl rfl (Int.le_refl _))

theorem ForWriting.await (h : ForWriting fd st) (ticket : Ticket) :
    ForWriting fd (st.await ticket).2 := by
  unfold MemoryStore.await
  split
  · unfold runOne
    split
    · exact h
    · rename_i job _
      have hrest : ForWriting fd { st with parked := st.parked.filter (·.1 ≠ ticket) } :=
        h.move rfl rfl (Int.le_refl _)
      exact hrest.perform job
  · have hstart : ForWriting fd { st with parked := [] } := h.move rfl rfl (Int.le_refl _)
    have hran := hstart.performAll st.parked
    exact hran.move rfl rfl (Int.le_refl _)

/-! ## A transfer that is out -/

/-- The transfer of the descriptor is owed under its ticket. It is parked or has come to its
outcome, and nothing else stands under the ticket. -/
structure Pledged (fd : Fd) (t : Ticket) (job : Job) (st : MemoryStore) : Prop where
  own : job.fd = fd
  owed : st.Owes t
  parked : ∀ x ∈ st.parked, x.1 = t → x.2 = job
  finished : ∀ x ∈ st.finished, x.1 = t → x.2 = job.outcome

theorem Pledged.of_same (h : Pledged fd t job st) (hsame : SameDesk st st') :
    Pledged fd t job st' := by
  refine ⟨h.own, h.owed.of_same hsame, ?_, ?_⟩
  · rw [hsame.parked]
    exact h.parked
  · rw [hsame.finished]
    exact h.finished

/-- What is owed was handed in before. -/
theorem Dated.owed_older (h : st.Dated) (howed : st.Owes t) :
    t.serial < st.nextTicket.serial := by
  rcases howed with hparked | ⟨-, hfinished⟩
  · obtain ⟨x, hx, rfl⟩ := List.mem_map.mp hparked
    exact h.parked x hx
  · obtain ⟨x, hx, rfl⟩ := List.mem_map.mp hfinished
    exact h.finished x hx

/-- When transfers run in order, the one under the ticket comes to its outcome. -/
theorem ForWriting.finished_performAll (h : ForWriting fd st) (hown : job.fd = fd)
    {jobs : List (Ticket × Job)} (hjobs : ∀ x ∈ jobs, x.1 = t → x.2 = job)
    (hfinished : ∀ x ∈ st.finished, x.1 = t → x.2 = job.outcome) :
    ∀ x ∈ (MemoryStore.performAll keep jobs st).finished, x.1 = t → x.2 = job.outcome := by
  induction jobs generalizing st with
  | nil => exact hfinished
  | cons e jobs ih =>
    rw [performAll_cons]
    have hran := h.perform e.2
    refine ih (hran.move rfl rfl (Int.le_refl _))
      (fun x hx => hjobs x (List.mem_cons_of_mem _ hx)) ?_
    obtain ⟨faults, objects, written, hframe⟩ := perform_frame st e.2
    have hkept : (st.perform e.2).2.finished = st.finished := by rw [hframe]
    intro x hx ht
    rcases List.mem_append.mp hx with hold | hnew
    · rw [hkept] at hold
      exact hfinished x hold ht
    · rw [List.mem_singleton.mp hnew] at ht ⊢
      have hjob : e.2 = job := hjobs e List.mem_cons_self ht
      subst hjob
      exact h.outcome hown

theorem Pledged.finished_runParked (h : Pledged fd t job st) (hwriting : ForWriting fd st) :
    ∀ x ∈ st.runParked.2.finished, x.1 = t → x.2 = job.outcome := by
  have hstart : ForWriting fd { st with parked := [] } :=
    hwriting.move rfl rfl (Int.le_refl _)
  exact hstart.finished_performAll h.own h.parked h.finished

/-- Waiting for another transfer leaves it out. -/
theorem Pledged.await (h : Pledged fd t job st) (hwriting : ForWriting fd st) (hne : ticket ≠ t) :
    Pledged fd t job (st.await ticket).2 := by
  have howed := h.owed.await hne
  unfold MemoryStore.await at howed ⊢
  split at howed
  · unfold runOne at howed ⊢
    split at howed
    · exact h
    · rename_i other _
      obtain ⟨faults, objects, written, hframe⟩ :=
        perform_frame { st with parked := st.parked.filter (·.1 ≠ ticket) } other
      dsimp only at howed ⊢
      refine ⟨h.own, howed, ?_, ?_⟩
      · rw [hframe]
        exact fun x hx => h.parked x (List.mem_filter.mp hx).1
      · rw [hframe]
        exact h.finished
  · obtain ⟨-, -, hnone, -⟩ := runParked_finished st
    refine ⟨h.own, howed, ?_, ?_⟩
    · intro x hx
      rw [show _ = [] from hnone] at hx
      cases hx
    · intro x hx
      exact h.finished_runParked hwriting x (List.mem_filter.mp hx).1

/-- And waiting for it tells its outcome. -/
theorem Pledged.fetched (h : Pledged fd t job st) (hwriting : ForWriting fd st) :
    (st.await t).1 = some job.outcome := by
  obtain ⟨c, st', hc⟩ := h.owed.fetched
  suffices hcame : c = job.outcome by rw [hc, hcame]
  unfold MemoryStore.await at hc
  split at hc
  · unfold runOne at hc
    split at hc
    · cases hc
    · rename_i own hfind
      have hjob : own = job :=
        h.parked _ (List.mem_of_find?_eq_some hfind) (by simpa using List.find?_some hfind)
      have hrest : ForWriting fd { st with parked := st.parked.filter (·.1 ≠ t) } :=
        hwriting.move rfl rfl (Int.le_refl _)
      obtain ⟨hran, -⟩ := Prod.mk.inj hc
      rw [← Option.some.inj hran, hjob]
      exact hrest.outcome h.own
  · obtain ⟨hfound, -⟩ := Prod.mk.inj hc
    obtain ⟨x, hfind, hx⟩ := Option.map_eq_some_iff.mp hfound
    rw [← hx]
    exact h.finished_runParked hwriting x (List.mem_of_find?_eq_some hfind)
      (by simpa using List.find?_some hfind)

/-! ## A store that serves a writer -/

/-- The descriptor is a writer's. When one of its transfers is out, that is pledged. -/
structure Serves (fd : Fd) (out : Option (Ticket × Job)) (st : MemoryStore) : Prop where
  writing : ForWriting fd st
  dated : st.Dated
  pledged : ∀ t job, out = some (t, job) → Pledged fd t job st

theorem serves_none (hwriting : ForWriting fd st) (hdated : st.Dated) : Serves fd none st := by
  refine ⟨hwriting, hdated, ?_⟩
  intro t job hout
  cases hout

/-- The descriptor and what was handed in are as they were, and no call is told to fail. -/
structure Spares (fd : Fd) (st st' : MemoryStore) : Prop extends SameDesk st st' where
  nextTicket : st'.nextTicket = st.nextTicket
  faults : st'.faults = st.faults
  handle : st'.handles.find? fd = st.handles.find? fd
  nextFd : st.nextFd.number ≤ st'.nextFd.number

theorem Spares.refl (fd : Fd) (st : MemoryStore) : Spares fd st st :=
  ⟨.refl st, rfl, rfl, rfl, Int.le_refl _⟩

theorem Serves.of_spares (h : Serves fd out st) (hspares : Spares fd st st') :
    Serves fd out st' :=
  ⟨h.writing.move hspares.faults hspares.handle hspares.nextFd,
    h.dated.of_same hspares.parked hspares.finished hspares.nextTicket,
    fun t job hout => (h.pledged t job hout).of_same hspares.toSameDesk⟩

/-- Counts are of no account. -/
theorem Serves.count (h : Serves fd out st) (f : CallCounts → CallCounts) :
    Serves fd out (st.count f) := h.of_spares ⟨⟨rfl, rfl, rfl⟩, rfl, rfl, rfl, Int.le_refl _⟩

/-! ### Handing in and waiting -/

/-- What others hand in stands under a ticket of its own. -/
theorem Serves.park (h : Serves fd out st) (job : Job) : Serves fd out (st.park job).2 := by
  refine ⟨h.writing.move rfl rfl (Int.le_refl _), h.dated.park job, ?_⟩
  intro t own hout
  have hpledged := h.pledged t own hout
  refine ⟨hpledged.own, ?_, ?_, hpledged.finished⟩
  · rcases hpledged.owed with hparked | hfinished
    · exact .inl (hparked.append _)
    · exact .inr hfinished
  · intro x hx ht
    rcases List.mem_append.mp hx with hold | hnew
    · exact hpledged.parked x hold ht
    · rw [List.mem_singleton.mp hnew] at ht
      have holder := h.dated.owed_older hpledged.owed
      rw [← ht] at holder
      exact absurd holder (Nat.lt_irrefl _)

/-- A transfer of the writer that is handed in is the one that is out. -/
theorem Serves.park_own (h : Serves fd none st) (job : Job) (hown : job.fd = fd) :
    Serves fd (some (st.nextTicket, job)) (st.park job).2 := by
  refine ⟨h.writing.move rfl rfl (Int.le_refl _), h.dated.park job, ?_⟩
  intro t job' hout
  cases hout
  refine ⟨hown, .inl (holds_last ..), ?_, ?_⟩
  · intro x hx ht
    rcases List.mem_append.mp hx with hold | hnew
    · have holder := h.dated.parked x hold
      rw [ht] at holder
      exact absurd holder (Nat.lt_irrefl _)
    · rw [List.mem_singleton.mp hnew]
  · intro x hx ht
    have holder := h.dated.finished x hx
    rw [ht] at holder
    exact absurd holder (Nat.lt_irrefl _)

theorem Serves.await (h : Serves fd out st) (hne : ∀ t job, out = some (t, job) → ticket ≠ t) :
    Serves fd out (st.await ticket).2 :=
  ⟨h.writing.await ticket, h.dated.await ticket,
    fun t job hout => (h.pledged t job hout).await h.writing (hne t job hout)⟩

/-- The transfer that is out comes to its outcome when it is waited for. -/
theorem Serves.await_own (h : Serves fd (some (t, job)) st) :
    ∃ st', st.await t = (some job.outcome, st') ∧ Serves fd none st' := by
  have hfetched := (h.pledged t job rfl).fetched h.writing
  exact ⟨(st.await t).2, Prod.ext hfetched rfl,
    serves_none (h.writing.await t) (h.dated.await t)⟩

theorem Serves.checkSubmit (h : Serves fd out st) (fd' : Fd) :
    (st.checkSubmit fd').2 = st := by
  unfold MemoryStore.checkSubmit
  rw [Fault.take_of_spent h.writing.quiet.submits]

theorem Serves.submitRead (h : Serves fd out st) (fd' : Fd) (offset len : Nat) :
    Serves fd out (st.submitRead fd' offset len).2 := by
  have hsame := h.checkSubmit fd'
  unfold MemoryStore.submitRead
  split
  · rename_i hcheck
    rw [hcheck] at hsame
    exact hsame ▸ h
  · rename_i hcheck
    rw [hcheck] at hsame
    obtain rfl : _ = st := hsame
    exact (h.count _).park _

theorem Serves.submitWrite (h : Serves fd out st) (fd' : Fd) (offset : Nat) (data : Bytes) :
    Serves fd out (st.submitWrite fd' offset data).2 := by
  have hsame := h.checkSubmit fd'
  unfold MemoryStore.submitWrite
  split
  · rename_i hcheck
    rw [hcheck] at hsame
    exact hsame ▸ h
  · rename_i hcheck
    rw [hcheck] at hsame
    obtain rfl : _ = st := hsame
    exact (h.count _).park _

theorem Serves.checkSubmit_own (h : Serves fd out st) : st.checkSubmit fd = (.ok (), st) := by
  obtain ⟨o, access, hhandle, -, -⟩ := h.writing.handle
  apply checkSubmit_open h.writing.quiet.submits
  unfold Table.contains
  rw [hhandle]
  rfl

/-! ### Calls of anyone -/

/-- An open that is not told to fail counts, and gives no ticket. -/
theorem openPath_quiet (hquiet : st.faults.Quiet) (path : String) (access : Access) :
    (st.openPath path access).2.nextTicket = st.nextTicket ∧
      (st.openPath path access).2.faults = st.faults := by
  have htake : (st.count fun c => { c with opens := c.opens + 1 }).faults.opens.take =
      (none, st.faults.opens) := Fault.take_of_spent hquiet.opens
  unfold MemoryStore.openPath MemoryStore.find
  dsimp only
  rw [htake]
  dsimp only
  split
  · rename_i hfind
    split at hfind
    · cases hfind
    · split at hfind
      · cases hfind
      · cases hfind
        exact ⟨rfl, rfl⟩
  · rename_i hfind
    split at hfind
    · cases hfind
      split
      · exact ⟨rfl, rfl⟩
      · exact ⟨rfl, rfl⟩
    · split at hfind
      · cases hfind
        exact ⟨rfl, rfl⟩
      · cases hfind

/-- An open gives a descriptor that nobody has. -/
theorem Serves.openPath (h : Serves fd out st) (path : String) (access : Access) :
    Serves fd out (st.openPath path access).2 := by
  have hne : fd ≠ st.nextFd := by
    rintro rfl
    exact Int.lt_irrefl _ h.writing.older
  obtain ⟨hticket, hfaults⟩ := openPath_quiet h.writing.quiet path access
  have hdesk := openPath_desk st path access
  have hopened := openPath_opened st path access
  rcases hopen : st.openPath path access with ⟨r, st1⟩
  rw [hopen] at hticket hfaults hdesk hopened
  cases hopened with
  | failed hhandles hnext =>
    refine h.of_spares ⟨hdesk, hticket, hfaults, ?_, ?_⟩
    · rw [hhandles]
    · exact Int.le_of_eq (congrArg Fd.number hnext).symm
  | granted hhandles hnext =>
    refine h.of_spares ⟨hdesk, hticket, hfaults, ?_, ?_⟩
    · rw [hhandles, Table.find?_insert_of_ne _ _ hne]
    · rw [hnext]
      exact Int.le_add_one (Int.le_refl _)

/-- A close of another descriptor. -/
theorem Serves.close (h : Serves fd out st) {fd' : Fd} (hne : fd' ≠ fd) :
    Serves fd out (st.close fd').2 := by
  have hclosed : (st.close fd').2 =
      { st.count fun c => { c with closes := c.closes + 1 } with
        handles := st.handles.erase fd' } := by
    unfold MemoryStore.close
    dsimp only
    rw [show (st.count fun c => { c with closes := c.closes + 1 }).faults.closes.take =
      (none, st.faults.closes) from Fault.take_of_spent h.writing.quiet.closes]
    rfl
  rw [hclosed]
  exact h.of_spares ⟨⟨rfl, rfl, rfl⟩, rfl, rfl, Table.find?_erase_of_ne _ hne.symm, Int.le_refl _⟩

/-- Where no call is told to fail, a transfer that runs spares the writer. -/
theorem performRead_spares (hquiet : st.faults.Quiet) (fd' : Fd) (offset len : Nat) :
    Spares fd st (st.performRead fd' offset len).2 := by
  unfold MemoryStore.performRead
  rw [Fault.take_of_spent hquiet.reads]
  dsimp only
  split
  · exact .refl fd st
  · split
    · exact .refl fd st
    · exact .refl fd st

theorem performWrite_spares (hquiet : st.faults.Quiet) (fd' : Fd) (offset : Nat) (data : Bytes)
    (aio : Bool) : Spares fd st (st.performWrite fd' offset data aio).2 := by
  unfold MemoryStore.performWrite
  rw [Fault.take_of_spent hquiet.writes]
  dsimp only
  split
  · exact .refl fd st
  · split
    · exact ⟨⟨rfl, rfl, rfl⟩, rfl, rfl, rfl, Int.le_refl _⟩
    · exact .refl fd st

/-- No call but a close of the descriptor and a wait for its transfer is of account to the
writer. -/
theorem Serves.call (h : Serves fd out st) (call : StoreCall) (hclose : call ≠ .close fd)
    (hawait : ∀ t job, out = some (t, job) → call ≠ .await t) : Serves fd out (call.on st) := by
  cases call with
  | openPath path access => exact h.openPath path access
  | close fd' => exact h.close fun he => hclose (congrArg StoreCall.close he)
  | readAt fd' offset len =>
    have hcounted := h.count fun c => { c with preads := c.preads + 1 }
    have hran : Spares fd _ _ := performRead_spares hcounted.writing.quiet fd' offset len
    show Serves fd out (st.readAt fd' offset len).2
    unfold MemoryStore.readAt
    dsimp only
    split
    · rename_i hr
      rw [hr] at hran
      exact hcounted.of_spares hran
    · rename_i hr
      rw [hr] at hran
      exact hcounted.of_spares hran
  | writeAt fd' offset data =>
    have hcounted := h.count fun c => { c with pwrites := c.pwrites + 1 }
    exact hcounted.of_spares
      (performWrite_spares hcounted.writing.quiet fd' offset data false)
  | submitRead fd' offset len => exact h.submitRead fd' offset len
  | submitWrite fd' offset data => exact h.submitWrite fd' offset data
  | await ticket =>
    exact h.await fun t job hout he => hawait t job hout (congrArg StoreCall.await he)
  | stat fd' =>
    show Serves fd out (st.stat fd').2
    unfold MemoryStore.stat
    split
    · exact h
    · exact h
  | sync fd' => exact h.count fun c => { c with fsyncs := c.fsyncs + 1 }
  | truncate fd' len =>
    have hcounted := h.count fun c => { c with truncates := c.truncates + 1 }
    show Serves fd out (st.truncate fd' len).2
    unfold MemoryStore.truncate
    dsimp only
    split
    · exact hcounted
    · split
      · exact hcounted.of_spares ⟨⟨rfl, rfl, rfl⟩, rfl, rfl, rfl, Int.le_refl _⟩
      · exact hcounted
  | statPath path =>
    show Serves fd out (st.statPath path).2
    unfold MemoryStore.statPath
    split
    · exact h
    · exact h
  | truncatePath path len =>
    have hcounted := h.count fun c => { c with truncates := c.truncates + 1 }
    show Serves fd out (st.truncatePath path len).2
    unfold MemoryStore.truncatePath
    dsimp only
    split
    · exact hcounted
    · exact hcounted.of_spares ⟨⟨rfl, rfl, rfl⟩, rfl, rfl, rfl, Int.le_refl _⟩
  | unlinkPath path =>
    show Serves fd out (st.unlinkPath path).2
    unfold MemoryStore.unlinkPath
    split
    · exact h.of_spares ⟨⟨rfl, rfl, rfl⟩, rfl, rfl, rfl, Int.le_refl _⟩
    · exact h

/-! ### Calls of the writer -/

theorem Serves.readAt_own (h : Serves fd out st) (offset len : Nat) :
    ∃ st', ObjectStore.readAt fd offset len st = (.error ⟨[], .badDescriptor .reading⟩, st') ∧
      Serves fd out st' := by
  have hcounted := h.count fun c => { c with preads := c.preads + 1 }
  refine ⟨_, ?_, hcounted⟩
  show MemoryStore.readAt fd offset len st = _
  unfold MemoryStore.readAt
  dsimp only
  rw [hcounted.writing.performRead]

theorem Serves.writeAt_own (h : Serves fd out st) (offset : Nat) (data : Bytes) :
    ∃ st', ObjectStore.writeAt fd offset data st = (.ok data.length, st') ∧
      Serves fd out st' := by
  have hcounted := h.count fun c => { c with pwrites := c.pwrites + 1 }
  exact ⟨_, Prod.ext (hcounted.writing.performWrite offset data false) rfl,
    hcounted.of_spares (performWrite_spares hcounted.writing.quiet fd offset data false)⟩

theorem Serves.submitRead_own (h : Serves fd none st) (offset len : Nat) :
    ∃ t st', ObjectStore.submitRead fd offset len st = (.ok t, st') ∧
      Serves fd (some (t, .read fd offset len)) st' := by
  have hcounted := h.count fun c => { c with aioReads := c.aioReads + 1 }
  refine ⟨_, _, ?_, hcounted.park_own (.read fd offset len) rfl⟩
  show MemoryStore.submitRead fd offset len st = _
  unfold MemoryStore.submitRead
  rw [h.checkSubmit_own]
  rfl

theorem Serves.submitWrite_own (h : Serves fd none st) (offset : Nat) (data : Bytes) :
    ∃ t st', ObjectStore.submitWrite fd offset data st = (.ok t, st') ∧
      Serves fd (some (t, .write fd offset data)) st' := by
  have hcounted := h.count fun c => { c with aioWrites := c.aioWrites + 1 }
  refine ⟨_, _, ?_, hcounted.park_own (.write fd offset data) rfl⟩
  show MemoryStore.submitWrite fd offset data st = _
  unfold MemoryStore.submitWrite
  rw [h.checkSubmit_own]
  rfl

/-! ## What others do -/

theorem Serves.runParked (h : Serves fd out st) (hdeferred : st.delivery = .deferred) :
    Serves fd out st.runParked.2 := by
  obtain ⟨-, -, hnone, hdelivery, -⟩ := runParked_finished st
  have hstart : ForWriting fd { st with parked := [] } := h.writing.move rfl rfl (Int.le_refl _)
  refine ⟨hstart.performAll st.parked, h.dated.runParked, ?_⟩
  intro t job hout
  have hpledged := h.pledged t job hout
  refine ⟨hpledged.own, .inr ⟨hdelivery.trans hdeferred, hpledged.owed.finished⟩, ?_,
    hpledged.finished_runParked h.writing⟩
  intro x hx
  rw [hnone] at hx
  cases hx

/-- Someone leaves the writer its descriptor and the transfer that is out. -/
def LeavesWriter (fd : Fd) (act : MemoryStore → MemoryStore) : Prop :=
  ∀ st out, Serves fd out st → Serves fd out (act st)

/-- Those who put objects into the store do. -/
theorem leavesWriter_insert (fd : Fd) (path : String) (data : Bytes) :
    LeavesWriter fd fun st => st.insert path data :=
  fun _ _ h => h.of_spares ⟨⟨rfl, rfl, rfl⟩, rfl, rfl, rfl, Int.le_refl _⟩

/-- So do those who have all that is parked run. -/
theorem leavesWriter_runParked (fd : Fd) : LeavesWriter fd (befall .runParked) := by
  intro st out h
  unfold MemoryStore.befall
  dsimp only
  split
  · exact h
  · rename_i hdeferred
    exact h.runParked hdeferred

/-- And those who make calls of their own, but close the descriptor and wait for nothing. -/
theorem leavesWriter_call {call : StoreCall} (hclose : call ≠ .close fd)
    (hawait : ∀ t, call ≠ .await t) : LeavesWriter fd call.on :=
  fun _ _ h => h.call _ hclose fun t _ _ => hawait t

/-! ## The keeper of a writer -/

/-- A store that serves a writer goes on to do so. What its object holds is left open. -/
def writerKeeper (fd : Fd) : Keeper MemoryStore fd where
  Keeps st _ out := Serves fd (out.map fun (t, errand) => (t, errand.job fd)) st
  read_ok h hc := by
    obtain ⟨st', hr, -⟩ := h.readAt_own _ _
    rw [hr] at hc
    cases hc
  read_error h hc := by
    obtain ⟨st', hr, hserves⟩ := h.readAt_own _ _
    rw [hr] at hc
    cases hc
    exact hserves
  write_ok h hc := by
    obtain ⟨st', hw, hserves⟩ := h.writeAt_own _ _
    rw [hw] at hc
    cases hc
    exact ⟨Nat.le_refl _, hserves⟩
  write_error h hc := by
    obtain ⟨st', hw, -⟩ := h.writeAt_own _ _
    rw [hw] at hc
    cases hc
  submitRead_ok h hc := by
    obtain ⟨t, st', hs, hserves⟩ := h.submitRead_own _ _
    rw [hs] at hc
    cases hc
    exact hserves
  submitRead_error h hc := by
    obtain ⟨t, st', hs, -⟩ := h.submitRead_own _ _
    rw [hs] at hc
    cases hc
  submitWrite_ok h hc := by
    obtain ⟨t, st', hs, hserves⟩ := h.submitWrite_own _ _
    rw [hs] at hc
    cases hc
    exact hserves
  submitWrite_error h hc := by
    obtain ⟨t, st', hs, -⟩ := h.submitWrite_own _ _
    rw [hs] at hc
    cases hc
  await_read h hc := by
    obtain ⟨st', hw, hserves⟩ := h.await_own
    cases hc.symm.trans hw
    exact ⟨hserves, .inl ⟨_, rfl⟩⟩
  await_write h hc := by
    obtain ⟨st', hw, hserves⟩ := h.await_own
    cases hc.symm.trans hw
    exact .inr ⟨_, rfl, Nat.le_refl _, hserves⟩
  stat h hc := by
    cases congrArg Prod.snd hc
    exact h.call (.stat fd) (by simp) (by simp)
  sync h hc := by
    cases congrArg Prod.snd hc
    exact h.call (.sync fd) (by simp) (by simp)
  truncate_ok h hc := by
    cases congrArg Prod.snd hc
    exact h.call (.truncate fd _) (by simp) (by simp)
  truncate_error h hc := by
    cases congrArg Prod.snd hc
    exact h.call (.truncate fd _) (by simp) (by simp)

/-- A descriptor that was just opened to be written is a writer's. -/
theorem Serves.of_openPath {st0 : MemoryStore} {path : String} {access : Access}
    (hopen : st0.openPath path access = (.ok fd, st)) (hwrite : access.write = true)
    (hread : access.read = false) (hquiet : st0.faults.Quiet) (hdated : st0.Dated) :
    Serves fd none st := by
  obtain ⟨hticket, hfaults⟩ := openPath_quiet hquiet path access
  have hdesk := openPath_desk st0 path access
  have hopened := openPath_opened st0 path access
  obtain ⟨o, hhandle⟩ := openPath_handle hopen
  rw [hopen] at hticket hfaults hdesk hopened
  have hwriting : ForWriting fd st := by
    refine ⟨?_, ⟨o, access, hhandle, hwrite, hread⟩, ?_⟩
    · rw [show st.faults = st0.faults from hfaults]
      exact hquiet
    · cases hopened with
      | granted _ hnext =>
        rw [hnext]
        exact Int.lt_succ _
  exact serves_none hwriting (hdated.of_same hdesk.parked hdesk.finished hticket)

end MemoryStore

end StagedFiles
