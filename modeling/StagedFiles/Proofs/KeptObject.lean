-- An object that the store in memory keeps. A descriptor that is open on an
-- object reads and writes that object, and what else is parked leaves it
-- alone, so the object changes only by the transfers of the descriptor, also
-- when all that is parked runs while one of them is waited for.
import StagedFiles.Proofs.Overlay
import StagedFiles.Store.Memory

namespace StagedFiles

namespace MemoryStore

/-! ## The content of an object -/

@[simp] theorem content_setContent_self (st : MemoryStore) (o : ObjectId) (c : SparseBytes) :
    (st.setContent o c).content o = c := by
  simp [content, setContent]

theorem content_setContent_of_ne (st : MemoryStore) {o p : ObjectId} (c : SparseBytes)
    (h : p ≠ o) : (st.setContent o c).content p = st.content p := by
  simp only [content, setContent, Table.find?_insert_of_ne _ _ h]

/-! ## One transfer -/

/-- All that a read can do: it fails and uses up a fault at most, or it brings
what the object holds. -/
theorem performRead_cases (st : MemoryStore) (fd : Fd) (offset len : Nat) :
    (∃ f faults, st.performRead fd offset len = (.error f, { st with faults := faults })) ∨
      ∃ h, st.handles.find? fd = some h ∧
        st.performRead fd offset len = (.ok ((st.content h.object).slice offset len), st) := by
  unfold performRead
  split
  · exact Or.inl ⟨_, _, rfl⟩
  · split
    · exact Or.inl ⟨_, st.faults, rfl⟩
    · rename_i h hh
      split
      · exact Or.inr ⟨h, hh, rfl⟩
      · exact Or.inl ⟨_, st.faults, rfl⟩

/-- The store after a write that went through. -/
def afterWrite (st : MemoryStore) (o : ObjectId) (record : WriteRecord) (data : Bytes) :
    MemoryStore :=
  { st.setContent o ((st.content o).overlay record.offset data) with
    written := record :: st.written }

/-- All that a write can do: it fails and uses up a fault at most, or it lays
the data over the object and is noted in the log. -/
theorem performWrite_cases (st : MemoryStore) (fd : Fd) (offset : Nat) (data : Bytes)
    (aio : Bool) :
    (∃ f faults, st.performWrite fd offset data aio = (.error f, { st with faults := faults })) ∨
      ∃ h, st.handles.find? fd = some h ∧
        st.performWrite fd offset data aio =
          (.ok data.length, st.afterWrite h.object ⟨fd, offset, data.length, aio⟩ data) := by
  unfold performWrite
  split
  · exact Or.inl ⟨_, _, rfl⟩
  · split
    · exact Or.inl ⟨_, st.faults, rfl⟩
    · rename_i h hh
      split
      · exact Or.inr ⟨h, hh, rfl⟩
      · exact Or.inl ⟨_, st.faults, rfl⟩

/-- A transfer changes faults, contents and the log, and nothing else. -/
theorem perform_frame (st : MemoryStore) (job : Job) :
    ∃ faults objects written,
      (st.perform job).2 = { st with faults := faults, objects := objects, written := written } := by
  cases job with
  | read fd offset len =>
    rcases performRead_cases st fd offset len with ⟨f, faults, hr⟩ | ⟨h, _, hr⟩
    · exact ⟨faults, st.objects, st.written, by simp only [perform, hr]⟩
    · exact ⟨st.faults, st.objects, st.written, by simp only [perform, hr]⟩
  | write fd offset data =>
    rcases performWrite_cases st fd offset data true with ⟨f, faults, hw⟩ | ⟨h, _, hw⟩
    · exact ⟨faults, st.objects, st.written, by simp only [perform, hw]⟩
    · let after := st.afterWrite h.object ⟨fd, offset, data.length, true⟩ data
      exact ⟨st.faults, after.objects, after.written, by simp only [perform, hw]; rfl⟩

/-- The transfer puts data into the object. -/
def PutsInto (st : MemoryStore) (o : ObjectId) : Job → Prop
  | .read _ _ _ => False
  | .write fd _ _ => ∃ h, st.handles.find? fd = some h ∧ h.object = o

/-- A transfer that puts nothing into an object leaves its content. -/
theorem content_perform (st : MemoryStore) (o : ObjectId) (job : Job) (h : ¬ PutsInto st o job) :
    (st.perform job).2.content o = st.content o := by
  cases job with
  | read fd offset len =>
    rcases performRead_cases st fd offset len with ⟨f, faults, hr⟩ | ⟨g, _, hr⟩
    · simp only [perform, hr]; rfl
    · simp only [perform, hr]
  | write fd offset data =>
    rcases performWrite_cases st fd offset data true with ⟨f, faults, hw⟩ | ⟨g, hg, hw⟩
    · simp only [perform, hw]; rfl
    · have hne : o ≠ g.object := fun he => h ⟨g, hg, he.symm⟩
      simp only [perform, hw]
      exact content_setContent_of_ne st _ hne

/-! ## All that is parked -/

theorem performAll_cons (react : Ticket → Completion → MemoryStore → MemoryStore)
    (e : Ticket × Job) (jobs : List (Ticket × Job)) (st : MemoryStore) :
    performAll react (e :: jobs) st =
      performAll react jobs (react e.1 (st.perform e.2).1 (st.perform e.2).2) := rfl

theorem performAll_append (react : Ticket → Completion → MemoryStore → MemoryStore)
    (jobs more : List (Ticket × Job)) (st : MemoryStore) :
    performAll react (jobs ++ more) st = performAll react more (performAll react jobs st) :=
  List.foldl_append ..

/-- Transfers run in order, and how they came out is kept under their tickets. -/
theorem performAll_ran (jobs : List (Ticket × Job)) (st : MemoryStore) :
    ∃ faults objects written more,
      performAll keep jobs st =
          { st with
            faults := faults, objects := objects, written := written
            finished := st.finished ++ more } ∧
        more.map (·.1) = jobs.map (·.1) := by
  induction jobs generalizing st with
  | nil => exact ⟨st.faults, st.objects, st.written, [], by simp [performAll], rfl⟩
  | cons e es ih =>
    obtain ⟨faults, objects, written, hf⟩ := perform_frame st e.2
    obtain ⟨faults', objects', written', more, hall, hmore⟩ :=
      ih (keep e.1 (st.perform e.2).1 (st.perform e.2).2)
    refine ⟨faults', objects', written', (e.1, (st.perform e.2).1) :: more, ?_, ?_⟩
    · rw [performAll_cons, hall, hf]
      simp [keep]
    · simp [hmore]

/-- After a run of all that is parked, what was parked or finished is finished. -/
theorem runParked_finished (st : MemoryStore) :
    ∃ more, st.runParked.2.finished = st.finished ++ more ∧ st.runParked.2.parked = [] ∧
      st.runParked.2.delivery = st.delivery ∧ more.map (·.1) = st.parked.map (·.1) := by
  obtain ⟨faults, objects, written, more, hran, htickets⟩ :=
    performAll_ran st.parked { st with parked := [] }
  have hall : st.runParked.2 = _ := hran
  rw [hall]
  exact ⟨more, rfl, rfl, rfl, htickets⟩

/-- The transfer of one ticket is taken from between the others and runs. -/
theorem runOne_at {st : MemoryStore} {t : Ticket} {job : Job}
    {before after : List (Ticket × Job)} (hjobs : st.parked = before ++ (t, job) :: after)
    (hforeign : ∀ x ∈ before ++ after, x.1 ≠ t) :
    st.runOne t =
      (some (({ st with parked := before ++ after } : MemoryStore).perform job).1,
        (({ st with parked := before ++ after } : MemoryStore).perform job).2) := by
  have hfind : st.parked.find? (·.1 = t) = some (t, job) := by
    rw [hjobs, List.find?_append, List.find?_eq_none.mpr]
    · simp
    · intro x hx
      simpa using hforeign x (List.mem_append_left _ hx)
  have hrest : st.parked.filter (·.1 ≠ t) = before ++ after := by
    rw [hjobs, List.filter_append, List.filter_cons_of_neg (by simp), ← List.filter_append,
      List.filter_eq_self.mpr]
    intro x hx
    simpa using hforeign x hx
  unfold runOne
  rw [hfind, hrest]

/-- Transfers that put nothing into an object leave its content. -/
theorem content_performAll (o : ObjectId) (jobs : List (Ticket × Job)) (st : MemoryStore)
    (h : ∀ e ∈ jobs, ¬ PutsInto st o e.2) :
    (performAll keep jobs st).content o = st.content o := by
  induction jobs generalizing st with
  | nil => rfl
  | cons e es ih =>
    obtain ⟨faults, objects, written, hf⟩ := perform_frame st e.2
    have hrest : ∀ x ∈ es, ¬ PutsInto (keep e.1 (st.perform e.2).1 (st.perform e.2).2) o x.2 := by
      intro x hx hp
      rw [hf] at hp
      exact h x (List.mem_cons_of_mem _ hx) hp
    rw [performAll_cons, ih _ hrest]
    exact content_perform st o e.2 (h e (List.mem_cons_self ..))

/-- Such transfers run in order and leave the content, too. -/
theorem performAll_keep (o : ObjectId) (jobs : List (Ticket × Job)) (st : MemoryStore)
    (h : ∀ e ∈ jobs, ¬ PutsInto st o e.2) :
    ∃ faults objects written more,
      performAll keep jobs st =
          { st with
            faults := faults, objects := objects, written := written
            finished := st.finished ++ more } ∧
        more.map (·.1) = jobs.map (·.1) ∧
        (performAll keep jobs st).content o = st.content o := by
  obtain ⟨faults, objects, written, more, hall, hmore⟩ := performAll_ran jobs st
  exact ⟨faults, objects, written, more, hall, hmore, content_performAll o jobs st h⟩

/-- What ran stands under the ticket of a transfer that was parked. -/
theorem ticket_of_ran {more : List (Ticket × Completion)} {jobs : List (Ticket × Job)}
    (h : more.map (·.1) = jobs.map (·.1)) {x : Ticket × Completion} (hx : x ∈ more) :
    ∃ y ∈ jobs, y.1 = x.1 := by
  have hx' : x.1 ∈ jobs.map (·.1) := h ▸ List.mem_map_of_mem hx
  exact List.mem_map.mp hx'

/-- The first completion under a ticket is the one that is found. -/
theorem find_completion {early late : List (Ticket × Completion)} {t : Ticket} {c : Completion}
    (h : ∀ x ∈ early, x.1 ≠ t) :
    ((early ++ (t, c) :: late).find? (·.1 = t)).map (·.2) = some c := by
  rw [List.find?_append, List.find?_eq_none.mpr (by simpa using h)]
  simp

/-- All that is parked runs in order, and a transfer between the others. Its completion is
the only one under its ticket. -/
theorem runParked_at {st : MemoryStore} {t : Ticket} {job : Job}
    {before after : List (Ticket × Job)} (hjobs : st.parked = before ++ (t, job) :: after)
    (hforeign : ∀ x ∈ before ++ after, x.1 ≠ t) (hfinished : ∀ x ∈ st.finished, x.1 ≠ t) :
    let ready := performAll keep before { st with parked := [] }
    st.runParked.2 = performAll keep after (keep t (ready.perform job).1 (ready.perform job).2) ∧
      (st.runParked.2.finished.find? (·.1 = t)).map (·.2) = some (ready.perform job).1 := by
  intro ready
  let ran := keep t (ready.perform job).1 (ready.perform job).2
  have hall : st.runParked.2 = performAll keep after ran := by
    show performAll keep st.parked { st with parked := [] } = _
    rw [hjobs, performAll_append, performAll_cons]
  refine ⟨hall, ?_⟩
  obtain ⟨_, _, _, more, hbefore, hmore⟩ := performAll_ran before { st with parked := [] }
  obtain ⟨_, _, _, hframe⟩ := perform_frame ready job
  obtain ⟨_, _, _, more', hafter, _⟩ := performAll_ran after ran
  have hdone : (ready.perform job).2.finished = st.finished ++ more := by
    rw [hframe]
    exact congrArg MemoryStore.finished hbefore
  have hfin : st.runParked.2.finished =
      (st.finished ++ more) ++ (t, (ready.perform job).1) :: more' := by
    rw [hall, hafter]
    simp [ran, keep, hdone]
  have hnot : ∀ x ∈ st.finished ++ more, x.1 ≠ t := by
    intro x hx
    rcases List.mem_append.mp hx with hx | hx
    · exact hfinished x hx
    · obtain ⟨y, hy, hyx⟩ := ticket_of_ran hmore hx
      rw [← hyx]
      exact hforeign y (List.mem_append_left _ hy)
  rw [hfin]
  exact find_completion hnot

/-! ## An object that is kept -/

/-- Of what is parked, only the transfer that is out concerns the object. -/
def Alone (st : MemoryStore) (o : ObjectId) : Option (Ticket × Job) → Prop
  | none => ∀ x ∈ st.parked, ¬ PutsInto st o x.2
  | some e => ∃ before after, st.parked = before ++ e :: after ∧
      (∀ x ∈ before ++ after, x.1 ≠ e.1 ∧ ¬ PutsInto st o x.2) ∧ ∀ x ∈ st.finished, x.1 ≠ e.1

/-- The descriptor is open on the object, which has these bytes, and nothing
else is about to change it. Tickets that were given out are older than the next. -/
structure Kept (fd : Fd) (o : ObjectId) (access : Access) (st : MemoryStore) (b : Bytes)
    (out : Option (Ticket × Job)) : Prop where
  handle : st.handles.find? fd = some ⟨o, access⟩
  content : (st.content o).toBytes = b
  parked_older : ∀ x ∈ st.parked, x.1.serial < st.nextTicket.serial
  finished_older : ∀ x ∈ st.finished, x.1.serial < st.nextTicket.serial
  alone : Alone st o out

variable {fd : Fd} {o : ObjectId} {access : Access} {st st' : MemoryStore} {b : Bytes}
  {out : Option (Ticket × Job)}

/-- Faults, counts, the log and other objects are none of the keeper's business. -/
theorem Kept.of_same (h : Kept fd o access st b out) (hh : st'.handles = st.handles)
    (hc : st'.content o = st.content o) (hp : st'.parked = st.parked)
    (hf : st'.finished = st.finished) (hn : st'.nextTicket = st.nextTicket) :
    Kept fd o access st' b out := by
  refine ⟨hh ▸ h.handle, hc ▸ h.content, hp ▸ hn ▸ h.parked_older, hf ▸ hn ▸ h.finished_older, ?_⟩
  have halone := h.alone
  unfold Alone PutsInto at halone ⊢
  rw [hh, hp, hf]
  exact halone

theorem Kept.performRead_ok (h : Kept fd o access st b out) {offset len : Nat} {bytes : Bytes}
    (hc : st.performRead fd offset len = (.ok bytes, st')) :
    Kept fd o access st' b out ∧ bytes = Bytes.slice b offset len := by
  rcases performRead_cases st fd offset len with ⟨f, faults, hr⟩ | ⟨g, hg, hr⟩
  · rw [hr] at hc
    simp at hc
  · rw [hr] at hc
    obtain ⟨hbytes, rfl⟩ := Prod.mk.inj hc
    rw [h.handle] at hg
    cases hg
    refine ⟨h, ?_⟩
    rw [← Except.ok.inj hbytes, SparseBytes.slice_eq, h.content]

theorem Kept.performRead_error (h : Kept fd o access st b out) {offset len : Nat} {f : Failure}
    (hc : st.performRead fd offset len = (.error f, st')) : Kept fd o access st' b out := by
  rcases performRead_cases st fd offset len with ⟨g, faults, hr⟩ | ⟨g, hg, hr⟩
  · rw [hr] at hc
    obtain ⟨_, rfl⟩ := Prod.mk.inj hc
    exact h.of_same rfl rfl rfl rfl rfl
  · rw [hr] at hc
    simp at hc

theorem Kept.performWrite_ok (h : Kept fd o access st b out) {offset n : Nat} {data : Bytes}
    {aio : Bool} (hc : st.performWrite fd offset data aio = (.ok n, st')) :
    n = data.length ∧ Kept fd o access st' (Bytes.overlay b offset data) out := by
  rcases performWrite_cases st fd offset data aio with ⟨f, faults, hw⟩ | ⟨g, hg, hw⟩
  · rw [hw] at hc
    simp at hc
  · rw [hw] at hc
    obtain ⟨hn, rfl⟩ := Prod.mk.inj hc
    rw [h.handle] at hg
    cases hg
    refine ⟨(Except.ok.inj hn).symm, h.handle, ?_, h.parked_older, h.finished_older, h.alone⟩
    have hcont : (st.afterWrite o ⟨fd, offset, data.length, aio⟩ data).content o =
        (st.content o).overlay offset data := content_setContent_self st o _
    rw [hcont, SparseBytes.toBytes_overlay, h.content]

theorem Kept.performWrite_error (h : Kept fd o access st b out) {offset : Nat} {data : Bytes}
    {aio : Bool} {f : Failure} (hc : st.performWrite fd offset data aio = (.error f, st')) :
    Kept fd o access st' b out := by
  rcases performWrite_cases st fd offset data aio with ⟨g, faults, hw⟩ | ⟨g, hg, hw⟩
  · rw [hw] at hc
    obtain ⟨_, rfl⟩ := Prod.mk.inj hc
    exact h.of_same rfl rfl rfl rfl rfl
  · rw [hw] at hc
    simp at hc

theorem Kept.perform_read (h : Kept fd o access st b out) (offset len : Nat) :
    Kept fd o access (st.perform (.read fd offset len)).2 b out ∧
      ((∃ f, (st.perform (.read fd offset len)).1 = .bytes (.error f)) ∨
        ∃ bytes, (st.perform (.read fd offset len)).1 = .bytes (.ok bytes) ∧
          Bytes.HasAt b offset bytes) := by
  rcases hr : st.performRead fd offset len with ⟨f | bytes, st'⟩
  · simp only [perform, hr]
    exact ⟨h.performRead_error hr, Or.inl ⟨f, rfl⟩⟩
  · simp only [perform, hr]
    obtain ⟨hk, rfl⟩ := h.performRead_ok hr
    exact ⟨hk, Or.inr ⟨_, rfl, Bytes.hasAt_slice ..⟩⟩

theorem Kept.perform_write (h : Kept fd o access st b out) (offset : Nat) (data : Bytes) :
    (∃ f, (st.perform (.write fd offset data)).1 = .count (.error f) ∧
        Kept fd o access (st.perform (.write fd offset data)).2 b out) ∨
      ((st.perform (.write fd offset data)).1 = .count (.ok data.length) ∧
        Kept fd o access (st.perform (.write fd offset data)).2
          (Bytes.overlay b offset data) out) := by
  rcases hw : st.performWrite fd offset data true with ⟨f | n, st'⟩
  · simp only [perform, hw]
    exact Or.inl ⟨f, rfl, h.performWrite_error hw⟩
  · simp only [perform, hw]
    obtain ⟨rfl, hk⟩ := h.performWrite_ok hw
    exact Or.inr ⟨rfl, hk⟩

/-! ## Transfers that are handed in -/

theorem checkSubmit_cases (st : MemoryStore) (fd : Fd) :
    (∃ f faults, st.checkSubmit fd = (.error f, { st with faults := faults })) ∨
      st.checkSubmit fd = (.ok (), st) := by
  unfold checkSubmit
  split
  · exact Or.inl ⟨_, _, rfl⟩
  · split
    · exact Or.inr rfl
    · exact Or.inl ⟨_, st.faults, rfl⟩

/-- A transfer that is parked on a store where none is out is the one that is out. -/
theorem Kept.park (h : Kept fd o access st b none) (job : Job) :
    Kept fd o access (st.park job).2 b (some (st.nextTicket, job)) := by
  refine ⟨h.handle, h.content, ?_, ?_, st.parked, [], rfl, ?_, ?_⟩
  · intro x hx
    rcases List.mem_append.mp hx with hx | hx
    · exact Nat.lt_succ_of_lt (h.parked_older x hx)
    · rw [List.mem_singleton.mp hx]
      exact Nat.lt_succ_self _
  · intro x hx
    exact Nat.lt_succ_of_lt (h.finished_older x hx)
  · intro x hx
    rw [List.append_nil] at hx
    refine ⟨?_, h.alone x hx⟩
    intro he
    have := h.parked_older x hx
    rw [he] at this
    exact Nat.lt_irrefl _ this
  · intro x hx he
    have := h.finished_older x hx
    rw [he] at this
    exact Nat.lt_irrefl _ this

/-- The transfer that is out runs alone. -/
theorem Kept.runOne {t : Ticket} {job : Job} (h : Kept fd o access st b (some (t, job))) :
    ∃ ready, Kept fd o access ready b none ∧
      st.runOne t = (some (ready.perform job).1, (ready.perform job).2) := by
  obtain ⟨before, after, hparked, hforeign, _⟩ := h.alone
  refine ⟨{ st with parked := before ++ after }, ⟨h.handle, h.content, ?_, h.finished_older, ?_⟩,
    runOne_at hparked fun x hx => (hforeign x hx).1⟩
  · intro x hx
    refine h.parked_older x (hparked ▸ ?_)
    rcases List.mem_append.mp hx with hfront | hback
    · exact List.mem_append_left _ hfront
    · exact List.mem_append_right _ (List.mem_cons_of_mem _ hback)
  · intro x hx
    exact (hforeign x hx).2

/-- With nothing out, completions may be kept for others. -/
theorem Kept.with_finished (h : Kept fd o access st b none) {l : List (Ticket × Completion)}
    (hl : ∀ x ∈ l, x.1.serial < st.nextTicket.serial) :
    Kept fd o access { st with finished := l } b none :=
  ⟨h.handle, h.content, h.parked_older, hl, h.alone⟩

theorem Kept.with_completion (h : Kept fd o access st b none) {t : Ticket} (c : Completion)
    (ht : t.serial < st.nextTicket.serial) : Kept fd o access (st.keep t c) b none := by
  refine h.with_finished ?_
  intro x hx
  rcases List.mem_append.mp hx with hx | hx
  · exact h.finished_older x hx
  · rw [List.mem_singleton.mp hx]
    exact ht

/-- The transfers of others run, and what is kept stays. -/
theorem Kept.performAll (h : Kept fd o access st b none) {jobs : List (Ticket × Job)}
    (hj : ∀ x ∈ jobs, x.1.serial < st.nextTicket.serial ∧ ¬ PutsInto st o x.2) :
    Kept fd o access (performAll keep jobs st) b none := by
  obtain ⟨fa, ob, wr, more, hrun, hmore, hcont⟩ :=
    performAll_keep o jobs st fun x hx => (hj x hx).2
  have hfin : ∀ x ∈ st.finished ++ more, x.1.serial < st.nextTicket.serial := by
    intro x hx
    rcases List.mem_append.mp hx with hx | hx
    · exact h.finished_older x hx
    · obtain ⟨y, hy, hyx⟩ := ticket_of_ran hmore hx
      rw [← hyx]
      exact (hj y hy).1
  exact (h.with_finished hfin).of_same (by rw [hrun]) hcont (by rw [hrun]) (by rw [hrun])
    (by rw [hrun])

/-- All that is parked runs in order, and the transfer that is out between the
others. Its completion is the only one under its ticket. -/
theorem Kept.runParked {t : Ticket} {job : Job} (h : Kept fd o access st b (some (t, job))) :
    ∃ ready, Kept fd o access ready b none ∧
      (st.runParked.2.finished.find? (·.1 = t)).map (·.2) = some (ready.perform job).1 ∧
      ∀ b', Kept fd o access (ready.perform job).2 b' none →
        Kept fd o access { st.runParked.2 with
          finished := st.runParked.2.finished.filter (·.1 ≠ t) } b' none := by
  obtain ⟨before, after, hparked, hforeign, hfinished⟩ := h.alone
  have hold : ∀ x ∈ before ++ (t, job) :: after, x.1.serial < st.nextTicket.serial :=
    hparked ▸ h.parked_older
  have ht : t.serial < st.nextTicket.serial := hold (t, job) (by simp)
  obtain ⟨hall, hfind⟩ := runParked_at hparked (fun x hx => (hforeign x hx).1) hfinished
  -- those before it
  let start : MemoryStore := { st with parked := [] }
  have hstart : Kept fd o access start b none :=
    ⟨h.handle, h.content, by simp [start], h.finished_older, by simp [start, Alone]⟩
  have hbefore : ∀ x ∈ before, x.1.serial < start.nextTicket.serial ∧ ¬ PutsInto start o x.2 :=
    fun x hx => ⟨hold x (List.mem_append_left _ hx), (hforeign x (List.mem_append_left _ hx)).2⟩
  obtain ⟨fa, ob, wr, more, hrun, _⟩ := performAll_ran before start
  have hready := hstart.performAll hbefore
  generalize MemoryStore.performAll keep before start = ready at hrun hready hall hfind
  -- the transfer itself
  obtain ⟨fa', ob', wr', hframe⟩ := perform_frame ready job
  generalize hc : (ready.perform job).1 = c at hall
  generalize hran : (ready.perform job).2 = ran at hframe hall
  have hhandles : ran.handles = st.handles := by rw [hframe, hrun]
  have hnext : ran.nextTicket = st.nextTicket := by rw [hframe, hrun]
  -- those after it
  have hafter : ∀ x ∈ after, x.1.serial < (keep t c ran).nextTicket.serial ∧
      ¬ PutsInto (keep t c ran) o x.2 := by
    intro x hx
    refine ⟨?_, ?_⟩
    · show x.1.serial < ran.nextTicket.serial
      rw [hnext]
      exact hold x (by simp [hx])
    · intro hp
      refine (hforeign x (List.mem_append_right _ hx)).2 ?_
      unfold PutsInto at hp ⊢
      rw [← hhandles]
      exact hp
  refine ⟨ready, hready, hfind, ?_⟩
  intro b' hk
  rw [hran] at hk
  have hkeep : Kept fd o access (keep t c ran) b' none := hk.with_completion c (hnext ▸ ht)
  have hlast := hkeep.performAll hafter
  rw [← hall] at hlast
  exact hlast.with_finished fun x hx => hlast.finished_older x (List.mem_of_mem_filter hx)

/-- Waiting for the transfer that is out runs it on a store that keeps the
same bytes. What it leaves is kept when its turn is over. -/
theorem Kept.await {t : Ticket} {job : Job} {c : Option Completion}
    (h : Kept fd o access st b (some (t, job))) (hc : st.await t = (c, st')) :
    ∃ ready, Kept fd o access ready b none ∧ c = some (ready.perform job).1 ∧
      ∀ b', Kept fd o access (ready.perform job).2 b' none → Kept fd o access st' b' none := by
  unfold MemoryStore.await at hc
  split at hc
  · obtain ⟨ready, hready, hrun⟩ := h.runOne
    rw [hrun] at hc
    obtain ⟨rfl, rfl⟩ := Prod.mk.inj hc
    exact ⟨ready, hready, rfl, fun _ hk => hk⟩
  · obtain ⟨ready, hready, hfind, hkept⟩ := h.runParked
    obtain ⟨rfl, rfl⟩ := Prod.mk.inj hc
    exact ⟨ready, hready, hfind, hkept⟩

end MemoryStore

end StagedFiles
