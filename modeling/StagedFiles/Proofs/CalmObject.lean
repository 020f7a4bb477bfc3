-- An object in memory that nothing troubles: no call is told to fail, and what others
-- have parked goes elsewhere. What is written through its descriptor goes in full and
-- stands in the log, and what is read comes in full, also when the transfers of others
-- run while one of the descriptor is waited for.
import StagedFiles.Proofs.MemoryShelf

namespace StagedFiles

/-- The transfer leaves none of these records in the log. -/
def Job.Unseen (mine : WriteRecord → Bool) : Job → Prop
  | .read _ _ _ => True
  | .write fd offset data => mine ⟨fd, offset, data.length, true⟩ = false

namespace MemoryStore

variable {fd : Fd} {o : ObjectId} {access : Access} {mine : WriteRecord → Bool}
  {st st' : MemoryStore} {b : Bytes}

/-! ## What runs besides -/

/-- What another store has in common with this one after transfers of others ran: all that
the descriptor can tell. -/
structure Beside (o : ObjectId) (mine : WriteRecord → Bool) (st st' : MemoryStore) : Prop where
  handles : st'.handles = st.handles
  content : st'.content o = st.content o
  faults : st'.faults = st.faults
  log : st'.log.filter mine = st.log.filter mine

theorem Beside.trans {st'' : MemoryStore} (h : Beside o mine st st') (h' : Beside o mine st' st'') :
    Beside o mine st st'' :=
  ⟨h'.handles.trans h.handles, h'.content.trans h.content, h'.faults.trans h.faults,
    h'.log.trans h.log⟩

theorem log_afterWrite (st : MemoryStore) (o : ObjectId) (record : WriteRecord) (data : Bytes) :
    (st.afterWrite o record data).log = st.log ++ [record] := List.reverse_cons

/-- A transfer uses up no fault where there is none. -/
theorem faults_perform (hquiet : st.faults.Quiet) (job : Job) :
    (st.perform job).2.faults = st.faults := by
  cases job with
  | read fd offset len =>
    unfold perform performRead
    rw [Fault.take_of_spent hquiet.reads]
    dsimp only
    split
    · rfl
    · split <;> rfl
  | write fd offset data =>
    unfold perform performWrite
    rw [Fault.take_of_spent hquiet.writes]
    dsimp only
    split
    · rfl
    · split <;> rfl

theorem log_perform {job : Job} (h : job.Unseen mine) :
    (st.perform job).2.log.filter mine = st.log.filter mine := by
  cases job with
  | read fd offset len =>
    rcases performRead_cases st fd offset len with ⟨f, faults, hr⟩ | ⟨_, _, hr⟩
    · simp only [perform, hr]
      rfl
    · simp only [perform, hr]
  | write fd offset data =>
    rcases performWrite_cases st fd offset data true with ⟨f, faults, hw⟩ | ⟨g, _, hw⟩
    · simp only [perform, hw]
      rfl
    · simp only [perform, hw]
      rw [log_afterWrite, List.filter_append, List.filter_cons_of_neg (by rw [h]; decide),
        List.filter_nil, List.append_nil]

/-- A transfer of others. -/
theorem beside_perform (hquiet : st.faults.Quiet) {job : Job} (hput : ¬ PutsInto st o job)
    (hunseen : job.Unseen mine) : Beside o mine st (st.perform job).2 := by
  obtain ⟨faults, objects, written, hframe⟩ := perform_frame st job
  exact ⟨by rw [hframe], content_perform st o job hput,
    faults_perform hquiet job, log_perform hunseen⟩

/-- Any number of them, with their completions kept for their owners. -/
theorem beside_performAll {jobs : List (Ticket × Job)} (hquiet : st.faults.Quiet)
    (hjobs : ∀ x ∈ jobs, ¬ PutsInto st o x.2 ∧ x.2.Unseen mine) :
    Beside o mine st (performAll keep jobs st) := by
  induction jobs generalizing st with
  | nil => exact ⟨rfl, rfl, rfl, rfl⟩
  | cons e jobs ih =>
    obtain ⟨hput, hunseen⟩ := hjobs e (List.mem_cons_self ..)
    have hran := beside_perform hquiet hput hunseen
    have hfirst : Beside o mine st (keep e.1 (st.perform e.2).1 (st.perform e.2).2) :=
      ⟨hran.handles, hran.content, hran.faults, hran.log⟩
    refine hfirst.trans (ih (hfirst.faults ▸ hquiet) ?_)
    intro x hx
    obtain ⟨hput', hunseen'⟩ := hjobs x (List.mem_cons_of_mem _ hx)
    refine ⟨?_, hunseen'⟩
    unfold PutsInto at hput' ⊢
    rw [hfirst.handles]
    exact hput'

/-- A transfer that is waited for runs on a store that is as this one, and what runs behind
it leaves what it left. -/
theorem await_beside {t : Ticket} {job : Job} (h : Kept fd o access st b (some (t, job)))
    (hquiet : st.faults.Quiet) (hunseen : ∀ x ∈ st.parked, x.1 ≠ t → x.2.Unseen mine) :
    ∃ ready, Beside o mine st ready ∧ (st.await t).1 = some (ready.perform job).1 ∧
      Beside o mine (ready.perform job).2 (st.await t).2 ∧
      ∀ x ∈ (st.await t).2.parked, x.2.Unseen mine := by
  obtain ⟨before, after, hparked, hforeign, hfinished⟩ := h.alone
  have hothers : ∀ x ∈ before ++ after, ¬ PutsInto st o x.2 ∧ x.2.Unseen mine := by
    intro x hx
    refine ⟨(hforeign x hx).2, hunseen x ?_ (hforeign x hx).1⟩
    rw [hparked]
    rcases List.mem_append.mp hx with hfront | hback
    · exact List.mem_append_left _ hfront
    · exact List.mem_append_right _ (List.mem_cons_of_mem _ hback)
  unfold MemoryStore.await
  split
  · -- it runs alone, and the others stay parked
    let ready : MemoryStore := { st with parked := before ++ after }
    obtain ⟨faults, objects, written, hframe⟩ := perform_frame ready job
    rw [runOne_at hparked fun x hx => (hforeign x hx).1]
    refine ⟨ready, ⟨rfl, rfl, rfl, rfl⟩, rfl, ⟨rfl, rfl, rfl, rfl⟩, ?_⟩
    intro x hx
    rw [congrArg MemoryStore.parked hframe] at hx
    exact (hothers x hx).2
  · -- all that is parked runs in order
    obtain ⟨hall, hfind⟩ := runParked_at hparked (fun x hx => (hforeign x hx).1) hfinished
    obtain ⟨-, -, hnone, -⟩ := runParked_finished st
    let start : MemoryStore := { st with parked := [] }
    let ready := performAll keep before start
    have hready : Beside o mine start ready :=
      beside_performAll hquiet fun x hx => hothers x (List.mem_append_left _ hx)
    have hspent : ready.faults.Quiet := hready.faults ▸ hquiet
    obtain ⟨faults, objects, written, hframe⟩ := perform_frame ready job
    let ran := keep t (ready.perform job).1 (ready.perform job).2
    have hran : ran.handles = st.handles :=
      (congrArg MemoryStore.handles hframe).trans hready.handles
    have hrest : Beside o mine ran (performAll keep after ran) := by
      refine beside_performAll ((faults_perform hspent job).symm ▸ hspent) fun x hx => ?_
      obtain ⟨hput, hunseen'⟩ := hothers x (List.mem_append_right _ hx)
      refine ⟨?_, hunseen'⟩
      unfold PutsInto at hput ⊢
      rw [hran]
      exact hput
    refine ⟨ready, ⟨hready.handles, hready.content, hready.faults, hready.log⟩, hfind, ?_, ?_⟩
    · dsimp only
      rw [hall]
      exact ⟨hrest.handles, hrest.content, hrest.faults, hrest.log⟩
    · intro x hx
      rw [show _ = [] from hnone] at hx
      cases hx

/-! ## The object -/

/-- The descriptor is open on the object, which has these bytes. No call is told to fail,
and the transfers of others neither touch the object nor leave any of these records. -/
structure Calm (fd : Fd) (o : ObjectId) (access : Access) (mine : WriteRecord → Bool)
    (st : MemoryStore) (b : Bytes) : Prop where
  kept : Kept fd o access st b none
  quiet : st.faults.Quiet
  unseen : ∀ x ∈ st.parked, x.2.Unseen mine

/-- An object that is kept, with no call told to fail, is calm for the records of its own
descriptor: what others have parked is written through other descriptors. -/
theorem Kept.calm (h : Kept fd o access st b none) (hquiet : st.faults.Quiet) :
    Calm fd o access (fun record => record.fd = fd) st b := by
  refine ⟨h, hquiet, ?_⟩
  rintro ⟨_, job⟩ hx
  cases job with
  | read _ _ _ => trivial
  | write fd' offset data =>
    apply decide_eq_false
    rintro rfl
    exact h.alone _ hx ⟨_, h.handle, rfl⟩

/-- Counts are of no account. -/
theorem Calm.count (h : Calm fd o access mine st b) (f : CallCounts → CallCounts) :
    Calm fd o access mine (st.count f) b :=
  ⟨h.kept.of_same rfl rfl rfl rfl rfl, h.quiet, h.unseen⟩

/-- A transfer of the descriptor that is handed in is the one that is out. -/
theorem Calm.park (h : Calm fd o access mine st b) (job : Job) :
    Kept fd o access (st.park job).2 b (some (st.nextTicket, job)) ∧
      (st.park job).2.faults.Quiet ∧
      ∀ x ∈ (st.park job).2.parked, x.1 ≠ st.nextTicket → x.2.Unseen mine := by
  refine ⟨h.kept.park job, h.quiet, ?_⟩
  intro x hx hne
  rcases List.mem_append.mp hx with hold | hnew
  · exact h.unseen x hold
  · rw [List.mem_singleton.mp hnew] at hne
    exact absurd rfl hne

theorem Calm.checkSubmit (h : Calm fd o access mine st b) : st.checkSubmit fd = (.ok (), st) := by
  apply checkSubmit_open h.quiet.submits
  unfold Table.contains
  rw [h.kept.handle]
  rfl

/-! ### Writes -/

section Writes

variable (offset : Nat) (data : Bytes) (hwrite : access.write = true)
  (hown : ∀ record : WriteRecord, record.fd = fd → mine record = true)

include hwrite hown

/-- A write lays its data over the object and is the next record. -/
theorem Calm.performWrite (h : Calm fd o access mine st b) (aio : Bool) :
    ∃ st', st.performWrite fd offset data aio = (.ok data.length, st') ∧
      Calm fd o access mine st' (Bytes.overlay b offset data) ∧
      st'.log.filter mine = st.log.filter mine ++ [⟨fd, offset, data.length, aio⟩] := by
  have hw := performWrite_open h.kept.handle hwrite h.quiet.writes offset data aio
  refine ⟨_, hw, ⟨(h.kept.performWrite_ok hw).2, h.quiet, h.unseen⟩, ?_⟩
  rw [log_afterWrite, List.filter_append, List.filter_cons_of_pos (hown _ rfl), List.filter_nil]

theorem Calm.writeAt (h : Calm fd o access mine st b) :
    ∃ st', ObjectStore.writeAt fd offset data st = (.ok data.length, st') ∧
      Calm fd o access mine st' (Bytes.overlay b offset data) ∧
      st'.log.filter mine = st.log.filter mine ++ [⟨fd, offset, data.length, false⟩] :=
  (h.count fun c => { c with pwrites := c.pwrites + 1 }).performWrite offset data hwrite hown false

/-- A write that is out lays its data over the object when it is waited for. -/
theorem await_write {t : Ticket} (h : Kept fd o access st b (some (t, .write fd offset data)))
    (hquiet : st.faults.Quiet) (hunseen : ∀ x ∈ st.parked, x.1 ≠ t → x.2.Unseen mine) :
    ∃ st', st.await t = (some (.count (.ok data.length)), st') ∧
      Calm fd o access mine st' (Bytes.overlay b offset data) ∧
      st'.log.filter mine = st.log.filter mine ++ [⟨fd, offset, data.length, true⟩] := by
  obtain ⟨ready, hready, hdone, hafter, hrest⟩ := await_beside h hquiet hunseen
  have hspent : ready.faults.Quiet := hready.faults ▸ hquiet
  have hw := performWrite_open (hready.handles ▸ h.handle) hwrite hspent.writes offset data true
  have hperform : ready.perform (.write fd offset data) = (.count (.ok data.length),
      ready.afterWrite o ⟨fd, offset, data.length, true⟩ data) := by
    simp only [perform, hw]
  rw [hperform] at hdone hafter
  rcases hawait : st.await t with ⟨c, st'⟩
  rw [hawait] at hdone hafter hrest
  cases hdone
  obtain ⟨ran, hran, hcame, hkept⟩ := h.await hawait
  rcases hran.perform_write offset data with ⟨f, hf, _⟩ | ⟨_, hlaid⟩
  · rw [hf] at hcame
    cases hcame
  · refine ⟨st', rfl, ⟨hkept _ hlaid, hafter.faults ▸ hspent, hrest⟩, ?_⟩
    rw [hafter.log, log_afterWrite, List.filter_append, hready.log,
      List.filter_cons_of_pos (hown _ rfl), List.filter_nil]

theorem Calm.submitWrite (h : Calm fd o access mine st b) :
    ∃ ticket st1 st2, ObjectStore.submitWrite fd offset data st = (.ok ticket, st1) ∧
      ObjectStore.await ticket st1 = (some (.count (.ok data.length)), st2) ∧
      Calm fd o access mine st2 (Bytes.overlay b offset data) ∧
      st2.log.filter mine = st.log.filter mine ++ [⟨fd, offset, data.length, true⟩] := by
  let counted := st.count fun c => { c with aioWrites := c.aioWrites + 1 }
  have hcounted : Calm fd o access mine counted b := h.count _
  obtain ⟨hout, hquiet, hunseen⟩ := hcounted.park (.write fd offset data)
  obtain ⟨st', hawait, hcalm, hlog⟩ := await_write offset data hwrite hown hout hquiet hunseen
  refine ⟨counted.nextTicket, (counted.park (.write fd offset data)).2, st', ?_, hawait, hcalm,
    hlog⟩
  show MemoryStore.submitWrite fd offset data st = _
  unfold MemoryStore.submitWrite
  rw [h.checkSubmit]
  rfl

end Writes

/-! ### Reads -/

section Reads

variable (offset len : Nat) (hread : access.read = true)

include hread

theorem Calm.readAt (h : Calm fd o access mine st b) :
    ∃ st', ObjectStore.readAt fd offset len st = (.ok (Bytes.slice b offset len), st') ∧
      Calm fd o access mine st' b := by
  let counted := st.count fun c => { c with preads := c.preads + 1 }
  have hcounted : Calm fd o access mine counted b := h.count _
  have hr := performRead_open hcounted.kept.handle hread hcounted.quiet.reads offset len
  refine ⟨counted, ?_, hcounted⟩
  show MemoryStore.readAt fd offset len st = _
  unfold MemoryStore.readAt
  dsimp only
  rw [hr, SparseBytes.slice_eq, hcounted.kept.content]

/-- A read that is out brings what the object holds when it is waited for. -/
theorem await_read {t : Ticket} (h : Kept fd o access st b (some (t, .read fd offset len)))
    (hquiet : st.faults.Quiet) (hunseen : ∀ x ∈ st.parked, x.1 ≠ t → x.2.Unseen mine) :
    ∃ st', st.await t = (some (.bytes (.ok (Bytes.slice b offset len))), st') ∧
      Calm fd o access mine st' b := by
  obtain ⟨ready, hready, hdone, hafter, hrest⟩ := await_beside h hquiet hunseen
  have hspent : ready.faults.Quiet := hready.faults ▸ hquiet
  have hr := performRead_open (hready.handles ▸ h.handle) hread hspent.reads offset len
  rw [SparseBytes.slice_eq, hready.content, h.content] at hr
  have hperform : ready.perform (.read fd offset len) =
      (.bytes (.ok (Bytes.slice b offset len)), ready) := by
    simp only [perform, hr]
  rw [hperform] at hdone hafter
  rcases hawait : st.await t with ⟨c, st'⟩
  rw [hawait] at hdone hafter hrest
  cases hdone
  obtain ⟨ran, hran, -, hkept⟩ := h.await hawait
  exact ⟨st', rfl, ⟨hkept _ (hran.perform_read offset len).1, hafter.faults ▸ hspent, hrest⟩⟩

theorem Calm.submitRead (h : Calm fd o access mine st b) :
    ∃ ticket st1 st2, ObjectStore.submitRead fd offset len st = (.ok ticket, st1) ∧
      ObjectStore.await ticket st1 = (some (.bytes (.ok (Bytes.slice b offset len))), st2) ∧
      Calm fd o access mine st2 b := by
  let counted := st.count fun c => { c with aioReads := c.aioReads + 1 }
  have hcounted : Calm fd o access mine counted b := h.count _
  obtain ⟨hout, hquiet, hunseen⟩ := hcounted.park (.read fd offset len)
  obtain ⟨st', hawait, hcalm⟩ := await_read offset len hread hout hquiet hunseen
  refine ⟨counted.nextTicket, (counted.park (.read fd offset len)).2, st', ?_, hawait, hcalm⟩
  show MemoryStore.submitRead fd offset len st = _
  unfold MemoryStore.submitRead
  rw [h.checkSubmit]
  rfl

end Reads

/-! ## As a file -/

/-- A calm object takes what is written to it, if it is open to be written. -/
def calmSink (fd : Fd) (o : ObjectId) (access : Access) (mine : WriteRecord → Bool)
    (hown : ∀ record : WriteRecord, record.fd = fd → mine record = true) :
    Sink MemoryStore fd where
  Holds := Calm fd o access mine
  Reaches _ := access.write = true
  reaches_of_le _ h := h
  write h _ hwrite := by
    obtain ⟨st', hw, hcalm, -⟩ := h.writeAt _ _ hwrite hown
    exact ⟨st', hw, hcalm⟩
  submitWrite h _ hwrite := by
    obtain ⟨ticket, st1, st2, hs, hwait, hcalm, -⟩ := h.submitWrite _ _ hwrite hown
    exact ⟨ticket, st1, st2, hs, hwait, hcalm⟩

/-- One that is open to be read is a file without errors. -/
def calmFile (fd : Fd) (o : ObjectId) (access : Access) (mine : WriteRecord → Bool)
    (hown : ∀ record : WriteRecord, record.fd = fd → mine record = true)
    (hread : access.read = true) : FlatFile MemoryStore fd where
  toSink := calmSink fd o access mine hown
  read offset len h := h.readAt offset len hread
  submitRead offset len h := h.submitRead offset len hread

/-- A write of an adapter that the caller waits for is one record, of all that is asked. -/
theorem Calm.adapter_write {a : Adapter} {count : Nat} (h : Calm fd o access mine st b)
    (offset : Nat) (hwrite : access.write = true)
    (hown : ∀ record : WriteRecord, record.fd = fd → mine record = true) (hfd : a.fd = fd)
    (hcap : count ≤ a.buffer.capacity) :
    ∃ st', a.write offset count st = (.ok count, a.wrote count, st') ∧
      Calm fd o access mine st' (Bytes.overlay b offset (a.buffer.peek 0 count)) ∧
      st'.log.filter mine =
        st.log.filter mine ++ [⟨fd, offset, count, decide (a.kind = .async)⟩] := by
  have hlen := Adapter.length_written hcap
  rcases hkind : a.kind with _ | _
  · obtain ⟨st', hw, hcalm, hlog⟩ := h.writeAt offset (a.buffer.peek 0 count) hwrite hown
    rw [hlen] at hw hlog
    refine ⟨st', ?_, hcalm, hlog⟩
    simp only [Adapter.write, Adapter.submitWrite, Adapter.checkCount_ok hcap, hkind,
      Adapter.writeNow, hfd, hw, Adapter.settle]
  · obtain ⟨ticket, st1, st2, hs, hwait, hcalm, hlog⟩ :=
      h.submitWrite offset (a.buffer.peek 0 count) hwrite hown
    rw [hlen] at hwait hlog
    refine ⟨st2, ?_, hcalm, hlog⟩
    simp only [Adapter.write, Adapter.submitWrite, Adapter.checkCount_ok hcap, hkind, hfd, hs,
      Adapter.settle, hwait, Adapter.finish]

end MemoryStore

end StagedFiles
