-- What a store owes for the transfers that were handed in to it. Each is owed
-- until it is waited for, whatever other calls are made and whatever befalls the
-- store. A store whose workers are stopped takes transfers in and owes nothing for them.
import StagedFiles.Proofs.MemoryKeeper
import StagedFiles.Proofs.StoreCalls
import StagedFiles.Store.Directory

namespace StagedFiles

/-! ## Desks -/

/-- A store as a desk where transfers are handed in and fetched. -/
structure Desk (σ : Type) [ObjectStore σ] where
  /-- What befalls the store apart from its calls. -/
  Blow : Type
  befall : Blow → σ → σ
  /-- The completion under the ticket is there when it is waited for. -/
  Owes : σ → Ticket → Prop
  /-- Nothing that was handed in waits to be fetched. -/
  Empty : σ → Prop
  /-- A transfer that is handed in is lost. -/
  stopped : σ → Bool
  owes_nothing {st : σ} {t : Ticket} : Empty st → ¬ Owes st t
  owes_call {st : σ} {t : Ticket} {call : StoreCall} : Owes st t → call ≠ .await t →
    Owes (call.on st) t
  owes_befall {st : σ} {t : Ticket} (blow : Blow) : Owes st t → Owes (befall blow st) t
  stopped_call (call : StoreCall) (st : σ) : stopped (call.on st) = stopped st
  submitRead {st st' : σ} {fd : Fd} {offset len : Nat} {t : Ticket} : stopped st = false →
    ObjectStore.submitRead fd offset len st = (.ok t, st') → Owes st' t
  submitWrite {st st' : σ} {fd : Fd} {offset : Nat} {data : Bytes} {t : Ticket} :
    stopped st = false → ObjectStore.submitWrite fd offset data st = (.ok t, st') → Owes st' t
  await {st : σ} {t : Ticket} : Owes st t → ∃ c st', ObjectStore.await t st = (some c, st')

/-- Of what is handed in under tickets, the one under this ticket is there. -/
def Holds {α : Type} (t : Ticket) (l : List (Ticket × α)) : Prop := t ∈ l.map (·.1)

theorem Holds.find? {α : Type} {t : Ticket} {l : List (Ticket × α)} (h : Holds t l) :
    ∃ x, l.find? (·.1 = t) = some x := by
  obtain ⟨x, hx, ht⟩ := List.mem_map.mp h
  rcases hfind : l.find? (·.1 = t) with _ | y
  · rw [List.find?_eq_none] at hfind
    exact absurd (by simpa using ht) (hfind x hx)
  · exact ⟨y, hfind⟩

theorem Holds.append {α : Type} {t : Ticket} {l : List (Ticket × α)} (h : Holds t l)
    (more : List (Ticket × α)) : Holds t (l ++ more) := by
  unfold Holds
  rw [List.map_append]
  exact List.mem_append_left _ h

theorem holds_last {α : Type} (t : Ticket) (l : List (Ticket × α)) (x : α) :
    Holds t (l ++ [(t, x)]) := by
  unfold Holds
  rw [List.map_append]
  exact List.mem_append_right _ (List.mem_singleton_self _)

/-- What is fetched under another ticket is of no account. -/
theorem Holds.filter {α : Type} {t other : Ticket} {l : List (Ticket × α)} (h : Holds t l)
    (hne : other ≠ t) : Holds t (l.filter (·.1 ≠ other)) := by
  obtain ⟨x, hx, rfl⟩ := List.mem_map.mp h
  exact List.mem_map.mpr ⟨x, List.mem_filter.mpr ⟨hx, by simpa using hne.symm⟩, rfl⟩

/-! ## The store in memory -/

namespace MemoryStore

variable {st st' : MemoryStore} {t : Ticket}

/-- A transfer is owed while it is parked and, when all that is parked runs
together, after it ran. -/
def Owes (st : MemoryStore) (t : Ticket) : Prop :=
  Holds t st.parked ∨ st.delivery = .deferred ∧ Holds t st.finished

/-- The call left what was handed in where it was. -/
structure SameDesk (st st' : MemoryStore) : Prop where
  delivery : st'.delivery = st.delivery
  parked : st'.parked = st.parked
  finished : st'.finished = st.finished

theorem SameDesk.refl (st : MemoryStore) : SameDesk st st := ⟨rfl, rfl, rfl⟩

theorem Owes.of_same (h : st.Owes t) (hsame : SameDesk st st') : st'.Owes t := by
  unfold Owes
  rw [hsame.delivery, hsame.parked, hsame.finished]
  exact h

theorem performRead_desk (st : MemoryStore) (fd : Fd) (offset len : Nat) :
    SameDesk st (st.performRead fd offset len).2 := by
  rcases performRead_cases st fd offset len with ⟨f, faults, hr⟩ | ⟨h, _, hr⟩
  · rw [hr]
    exact ⟨rfl, rfl, rfl⟩
  · rw [hr]
    exact .refl st

theorem performWrite_desk (st : MemoryStore) (fd : Fd) (offset : Nat) (data : Bytes) (aio : Bool) :
    SameDesk st (st.performWrite fd offset data aio).2 := by
  rcases performWrite_cases st fd offset data aio with ⟨f, faults, hw⟩ | ⟨h, _, hw⟩
  · rw [hw]
    exact ⟨rfl, rfl, rfl⟩
  · rw [hw]
    exact ⟨rfl, rfl, rfl⟩

theorem readAt_desk (st : MemoryStore) (fd : Fd) (offset len : Nat) :
    SameDesk st (st.readAt fd offset len).2 := by
  obtain ⟨hdelivery, hparked, hfinished⟩ :=
    performRead_desk (st.count fun c => { c with preads := c.preads + 1 }) fd offset len
  unfold MemoryStore.readAt
  dsimp only
  split
  · rename_i hr
    rw [hr] at hdelivery hparked hfinished
    exact ⟨hdelivery, hparked, hfinished⟩
  · rename_i hr
    rw [hr] at hdelivery hparked hfinished
    exact ⟨hdelivery, hparked, hfinished⟩

theorem writeAt_desk (st : MemoryStore) (fd : Fd) (offset : Nat) (data : Bytes) :
    SameDesk st (st.writeAt fd offset data).2 := by
  obtain ⟨hdelivery, hparked, hfinished⟩ := performWrite_desk
    (st.count fun c => { c with pwrites := c.pwrites + 1 }) fd offset data false
  exact ⟨hdelivery, hparked, hfinished⟩

theorem openPath_desk (st : MemoryStore) (path : String) (access : Access) :
    SameDesk st (st.openPath path access).2 := by
  unfold MemoryStore.openPath MemoryStore.find
  dsimp only
  split
  · exact ⟨rfl, rfl, rfl⟩
  · split
    · rename_i hfind
      split at hfind
      · cases hfind
      · split at hfind
        · cases hfind
        · cases hfind
          exact ⟨rfl, rfl, rfl⟩
    · rename_i hfind
      split at hfind
      · split at hfind
        · cases hfind
          exact ⟨rfl, rfl, rfl⟩
        · cases hfind
          exact ⟨rfl, rfl, rfl⟩
      · split at hfind
        · cases hfind
          exact ⟨rfl, rfl, rfl⟩
        · cases hfind

theorem close_desk (st : MemoryStore) (fd : Fd) : SameDesk st (st.close fd).2 := by
  unfold MemoryStore.close
  dsimp only
  split
  · exact ⟨rfl, rfl, rfl⟩
  · exact ⟨rfl, rfl, rfl⟩

theorem stat_desk (st : MemoryStore) (fd : Fd) : SameDesk st (st.stat fd).2 := by
  unfold MemoryStore.stat
  split
  · exact .refl st
  · exact .refl st

theorem truncate_desk (st : MemoryStore) (fd : Fd) (len : Nat) :
    SameDesk st (st.truncate fd len).2 := by
  unfold MemoryStore.truncate
  dsimp only
  split
  · exact ⟨rfl, rfl, rfl⟩
  · split
    · exact ⟨rfl, rfl, rfl⟩
    · exact ⟨rfl, rfl, rfl⟩

theorem statPath_desk (st : MemoryStore) (path : String) : SameDesk st (st.statPath path).2 := by
  unfold MemoryStore.statPath
  split
  · exact .refl st
  · exact .refl st

theorem truncatePath_desk (st : MemoryStore) (path : String) (len : Nat) :
    SameDesk st (st.truncatePath path len).2 := by
  unfold MemoryStore.truncatePath
  dsimp only
  split
  · exact ⟨rfl, rfl, rfl⟩
  · exact ⟨rfl, rfl, rfl⟩

theorem unlinkPath_desk (st : MemoryStore) (path : String) :
    SameDesk st (st.unlinkPath path).2 := by
  unfold MemoryStore.unlinkPath
  split
  · exact ⟨rfl, rfl, rfl⟩
  · exact .refl st

/-! ### Handing in and fetching -/

theorem checkSubmit_desk (st : MemoryStore) (fd : Fd) : SameDesk st (st.checkSubmit fd).2 := by
  rcases checkSubmit_cases st fd with ⟨f, faults, hs⟩ | hs
  · rw [hs]
    exact ⟨rfl, rfl, rfl⟩
  · rw [hs]
    exact .refl st

/-- A hand-in adds at most its own transfer to what is parked. -/
theorem submitRead_owes (h : st.Owes t) (fd : Fd) (offset len : Nat) :
    (st.submitRead fd offset len).2.Owes t := by
  have hsame := checkSubmit_desk st fd
  unfold MemoryStore.submitRead
  split
  · rename_i hcheck
    rw [hcheck] at hsame
    exact h.of_same hsame
  · rename_i hcheck
    rw [hcheck] at hsame
    obtain hparked | hfinished := h.of_same hsame
    · exact .inl (hparked.append _)
    · exact .inr hfinished

theorem submitWrite_owes (h : st.Owes t) (fd : Fd) (offset : Nat) (data : Bytes) :
    (st.submitWrite fd offset data).2.Owes t := by
  have hsame := checkSubmit_desk st fd
  unfold MemoryStore.submitWrite
  split
  · rename_i hcheck
    rw [hcheck] at hsame
    exact h.of_same hsame
  · rename_i hcheck
    rw [hcheck] at hsame
    obtain hparked | hfinished := h.of_same hsame
    · exact .inl (hparked.append _)
    · exact .inr hfinished

theorem owes_of_submitRead {fd : Fd} {offset len : Nat}
    (h : st.submitRead fd offset len = (.ok t, st')) : st'.Owes t := by
  unfold MemoryStore.submitRead at h
  split at h
  · cases h
  · cases h
    exact .inl (holds_last ..)

theorem owes_of_submitWrite {fd : Fd} {offset : Nat} {data : Bytes}
    (h : st.submitWrite fd offset data = (.ok t, st')) : st'.Owes t := by
  unfold MemoryStore.submitWrite at h
  split at h
  · cases h
  · cases h
    exact .inl (holds_last ..)

theorem Owes.finished (h : st.Owes t) : Holds t st.runParked.2.finished := by
  obtain ⟨more, hfinished, -, -, htickets⟩ := runParked_finished st
  unfold Holds
  rw [hfinished, List.map_append, htickets]
  obtain hparked | ⟨-, hdone⟩ := h
  · exact List.mem_append_right _ hparked
  · exact List.mem_append_left _ hdone

/-- Waiting for one transfer leaves the others. -/
theorem Owes.await (h : st.Owes t) {other : Ticket} (hne : other ≠ t) :
    (st.await other).2.Owes t := by
  unfold MemoryStore.await
  split
  · rename_i hthreaded
    have hparked : Holds t st.parked := by
      obtain hparked | ⟨hdeferred, -⟩ := h
      · exact hparked
      · rw [hthreaded] at hdeferred
        cases hdeferred
    unfold runOne
    split
    · exact .inl hparked
    · rename_i job _
      obtain ⟨faults, objects, written, hran⟩ :=
        perform_frame { st with parked := st.parked.filter (·.1 ≠ other) } job
      dsimp only
      rw [hran]
      exact .inl (hparked.filter hne)
  · rename_i hdeferred
    obtain ⟨-, -, -, hdelivery, -⟩ := runParked_finished st
    exact .inr ⟨hdelivery.trans hdeferred, h.finished.filter hne⟩

/-- What is owed is there. -/
theorem Owes.fetched (h : st.Owes t) : ∃ c st', st.await t = (some c, st') := by
  unfold MemoryStore.await
  split
  · rename_i hthreaded
    have hparked : Holds t st.parked := by
      obtain hparked | ⟨hdeferred, -⟩ := h
      · exact hparked
      · rw [hthreaded] at hdeferred
        cases hdeferred
    obtain ⟨⟨ticket, job⟩, hfind⟩ := hparked.find?
    unfold runOne
    rw [hfind]
    exact ⟨_, _, rfl⟩
  · obtain ⟨x, hfind⟩ := h.finished.find?
    dsimp only
    rw [hfind]
    exact ⟨_, _, rfl⟩

/-! ### The desk -/

/-- What befalls a store in memory. -/
inductive Blow where
  | fail (point : FaultPoint) (n : Nat) (errno : Int)
  | insert (path : String) (data : Bytes)
  /-- All that is parked runs, where it does not run on its own. -/
  | runParked

def befall (blow : Blow) (st : MemoryStore) : MemoryStore :=
  match blow with
  | .fail point n errno => st.failNext point n errno
  | .insert path data => st.insert path data
  | .runParked =>
    match st.delivery with
    | .threaded => st
    | .deferred => st.runParked.2

theorem Owes.befall (h : st.Owes t) (blow : Blow) : (befall blow st).Owes t := by
  cases blow with
  | fail point n errno => exact h.of_same ⟨rfl, rfl, rfl⟩
  | insert path data => exact h.of_same ⟨rfl, rfl, rfl⟩
  | runParked =>
    unfold MemoryStore.befall
    dsimp only
    split
    · exact h
    · rename_i hdeferred
      obtain ⟨-, -, -, hdelivery, -⟩ := runParked_finished st
      exact .inr ⟨hdelivery.trans hdeferred, h.finished⟩

theorem Owes.call (h : st.Owes t) {call : StoreCall} (hne : call ≠ .await t) :
    (call.on st).Owes t := by
  cases call with
  | openPath path access => exact h.of_same (openPath_desk st path access)
  | close fd => exact h.of_same (close_desk st fd)
  | readAt fd offset len => exact h.of_same (readAt_desk st fd offset len)
  | writeAt fd offset data => exact h.of_same (writeAt_desk st fd offset data)
  | submitRead fd offset len => exact submitRead_owes h fd offset len
  | submitWrite fd offset data => exact submitWrite_owes h fd offset data
  | await other => exact h.await fun he => hne (congrArg StoreCall.await he)
  | stat fd => exact h.of_same (stat_desk st fd)
  | sync fd => exact h.of_same ⟨rfl, rfl, rfl⟩
  | truncate fd len => exact h.of_same (truncate_desk st fd len)
  | statPath path => exact h.of_same (statPath_desk st path)
  | truncatePath path len => exact h.of_same (truncatePath_desk st path len)
  | unlinkPath path => exact h.of_same (unlinkPath_desk st path)

/-- A store that holds nothing that was handed in owes nothing. -/
theorem owes_nothing (hparked : st.parked = []) (hfinished : st.finished = []) : ¬ st.Owes t := by
  unfold Owes
  rw [hparked, hfinished]
  simp [Holds]

/-- A store in memory never stops. -/
def desk : Desk MemoryStore where
  Blow := Blow
  befall := befall
  Owes := Owes
  Empty st := st.parked = [] ∧ st.finished = []
  stopped _ := false
  owes_nothing h := owes_nothing h.1 h.2
  owes_call h hne := h.call hne
  owes_befall blow h := h.befall blow
  stopped_call _ _ := rfl
  submitRead _ h := owes_of_submitRead h
  submitWrite _ h := owes_of_submitWrite h
  await := Owes.fetched

end MemoryStore

/-! ## The directory store -/

namespace DirectoryStore

variable {st st' : DirectoryStore} {t : Ticket}

/-- A transfer is owed while it is parked. -/
def Owes (st : DirectoryStore) (t : Ticket) : Prop := Holds t st.parked

/-- The call left the workers and what was handed in. -/
structure SameDesk (st st' : DirectoryStore) : Prop where
  running : st'.running = st.running
  parked : st'.parked = st.parked

theorem SameDesk.refl (st : DirectoryStore) : SameDesk st st := ⟨rfl, rfl⟩

theorem Owes.of_same (h : st.Owes t) (hsame : SameDesk st st') : st'.Owes t := by
  unfold Owes
  rw [hsame.parked]
  exact h

theorem openPath_desk (st : DirectoryStore) (path : String) (access : Access) :
    SameDesk st (st.openPath path access).2 := by
  unfold DirectoryStore.openPath
  split
  · exact .refl st
  · split
    · exact ⟨rfl, rfl⟩
    · dsimp only
      split
      · exact ⟨rfl, rfl⟩
      · exact ⟨rfl, rfl⟩

theorem close_desk (st : DirectoryStore) (fd : Fd) : SameDesk st (st.close fd).2 := by
  unfold DirectoryStore.close
  split
  · exact .refl st
  · exact ⟨rfl, rfl⟩

theorem readAt_desk (st : DirectoryStore) (fd : Fd) (offset len : Nat) :
    SameDesk st (st.readAt fd offset len).2 := by
  unfold DirectoryStore.readAt
  split
  · exact .refl st
  · exact ⟨rfl, rfl⟩

theorem writeAt_desk (st : DirectoryStore) (fd : Fd) (offset : Nat) (data : Bytes) :
    SameDesk st (st.writeAt fd offset data).2 := by
  unfold DirectoryStore.writeAt
  split
  · exact .refl st
  · exact ⟨rfl, rfl⟩

theorem stat_desk (st : DirectoryStore) (fd : Fd) : SameDesk st (st.stat fd).2 := by
  unfold DirectoryStore.stat
  split
  · exact .refl st
  · exact .refl st

theorem sync_desk (st : DirectoryStore) (fd : Fd) : SameDesk st (st.sync fd).2 := by
  unfold DirectoryStore.sync
  split
  · exact .refl st
  · exact .refl st

theorem setSize_desk (f : OpenNode) (len : Nat) (st : DirectoryStore) :
    SameDesk st (setSize f len st).2 := by
  unfold setSize
  split
  · exact .refl st
  · exact ⟨rfl, rfl⟩

theorem truncate_desk (st : DirectoryStore) (fd : Fd) (len : Nat) :
    SameDesk st (st.truncate fd len).2 := by
  unfold DirectoryStore.truncate
  split
  · exact .refl st
  · exact setSize_desk _ len st

theorem statPath_desk (st : DirectoryStore) (path : String) :
    SameDesk st (st.statPath path).2 := by
  unfold DirectoryStore.statPath
  split
  · exact .refl st
  · split
    · exact .refl st
    · exact .refl st

theorem truncatePath_desk (st : DirectoryStore) (path : String) (len : Nat) :
    SameDesk st (st.truncatePath path len).2 := by
  unfold DirectoryStore.truncatePath
  split
  · exact .refl st
  · split
    · exact .refl st
    · rename_i f tree _
      obtain ⟨hrunning, hparked⟩ := setSize_desk f len { st with tree }
      exact ⟨hrunning, hparked⟩

theorem unlinkPath_desk (st : DirectoryStore) (path : String) :
    SameDesk st (st.unlinkPath path).2 := by
  unfold DirectoryStore.unlinkPath
  split
  · exact .refl st
  · split
    · exact .refl st
    · exact ⟨rfl, rfl⟩

/-! ### Handing in and fetching -/

theorem perform_desk (job : FileJob) (st : DirectoryStore) : SameDesk st (st.perform job).2 := by
  unfold DirectoryStore.perform
  split
  · split
    · exact ⟨rfl, rfl⟩
    · exact ⟨rfl, rfl⟩
  · exact ⟨rfl, rfl⟩

theorem Owes.park (h : st.Owes t) (job : FileJob) : (st.park job).2.Owes t := by
  show Holds t (if st.running then st.parked ++ [(st.nextTicket, job)] else st.parked)
  split
  · exact Holds.append h _
  · exact h

theorem owes_of_park (hrunning : st.running = true) (job : FileJob) :
    (st.park job).2.Owes st.nextTicket := by
  show Holds st.nextTicket (if st.running then st.parked ++ [(st.nextTicket, job)] else st.parked)
  rw [if_pos hrunning]
  exact holds_last ..

theorem Owes.await (h : st.Owes t) {other : Ticket} (hne : other ≠ t) :
    (st.await other).2.Owes t := by
  unfold DirectoryStore.await
  split
  · exact h
  · rename_i job _
    have hsame := perform_desk job { st with parked := st.parked.filter (·.1 ≠ other) }
    have hrest : Owes { st with parked := st.parked.filter (·.1 ≠ other) } t := Holds.filter h hne
    exact hrest.of_same hsame

theorem await_running (st : DirectoryStore) (other : Ticket) :
    (st.await other).2.running = st.running := by
  unfold DirectoryStore.await
  split
  · rfl
  · rename_i job _
    exact (perform_desk job { st with parked := st.parked.filter (·.1 ≠ other) }).running

theorem Owes.fetched (h : st.Owes t) : ∃ c st', st.await t = (some c, st') := by
  obtain ⟨⟨ticket, job⟩, hfind⟩ := Holds.find? h
  unfold DirectoryStore.await
  rw [hfind]
  exact ⟨_, _, rfl⟩

/-! ### The desk -/

/-- What befalls a directory store. -/
inductive Blow where
  | stopWorkers
  /-- The files change under it. -/
  | tree (tree : FileTree)

def befall (blow : Blow) (st : DirectoryStore) : DirectoryStore :=
  match blow with
  | .stopWorkers => st.stopWorkers
  | .tree tree => { st with tree }

/-- A hand-in adds at most its own transfer, and every other call leaves all of them. -/
theorem Owes.call (h : st.Owes t) {call : StoreCall} (hne : call ≠ .await t) :
    (call.on st).Owes t := by
  cases call with
  | openPath path access => exact h.of_same (openPath_desk st path access)
  | close fd => exact h.of_same (close_desk st fd)
  | readAt fd offset len => exact h.of_same (readAt_desk st fd offset len)
  | writeAt fd offset data => exact h.of_same (writeAt_desk st fd offset data)
  | submitRead fd offset len =>
    show (DirectoryStore.submitRead fd offset len st).2.Owes t
    unfold DirectoryStore.submitRead
    split
    · exact h
    · exact h.park _
  | submitWrite fd offset data =>
    show (DirectoryStore.submitWrite fd offset data st).2.Owes t
    unfold DirectoryStore.submitWrite
    split
    · exact h
    · exact h.park _
  | await other => exact h.await fun he => hne (congrArg StoreCall.await he)
  | stat fd => exact h.of_same (stat_desk st fd)
  | sync fd => exact h.of_same (sync_desk st fd)
  | truncate fd len => exact h.of_same (truncate_desk st fd len)
  | statPath path => exact h.of_same (statPath_desk st path)
  | truncatePath path len => exact h.of_same (truncatePath_desk st path len)
  | unlinkPath path => exact h.of_same (unlinkPath_desk st path)

/-- No call stops the workers or starts them again. -/
theorem call_running (call : StoreCall) (st : DirectoryStore) :
    (call.on st).running = st.running := by
  cases call with
  | openPath path access => exact (openPath_desk st path access).running
  | close fd => exact (close_desk st fd).running
  | readAt fd offset len => exact (readAt_desk st fd offset len).running
  | writeAt fd offset data => exact (writeAt_desk st fd offset data).running
  | submitRead fd offset len =>
    show (DirectoryStore.submitRead fd offset len st).2.running = _
    unfold DirectoryStore.submitRead
    split
    · rfl
    · rfl
  | submitWrite fd offset data =>
    show (DirectoryStore.submitWrite fd offset data st).2.running = _
    unfold DirectoryStore.submitWrite
    split
    · rfl
    · rfl
  | await other => exact await_running st other
  | stat fd => exact (stat_desk st fd).running
  | sync fd => exact (sync_desk st fd).running
  | truncate fd len => exact (truncate_desk st fd len).running
  | statPath path => exact (statPath_desk st path).running
  | truncatePath path len => exact (truncatePath_desk st path len).running
  | unlinkPath path => exact (unlinkPath_desk st path).running

theorem SameDesk.subset (h : SameDesk st st') : st'.parked ⊆ st.parked := by
  rw [h.parked]
  exact List.Subset.refl _

/-- Without workers nothing is parked anew. -/
theorem call_parked (hstopped : st.running = false) (call : StoreCall) :
    (call.on st).parked ⊆ st.parked := by
  have hpark : ∀ job, (st.park job).2.parked = st.parked := by
    intro job
    show (if st.running then st.parked ++ [(st.nextTicket, job)] else st.parked) = _
    rw [hstopped]
    rfl
  cases call with
  | openPath path access => exact (openPath_desk st path access).subset
  | close fd => exact (close_desk st fd).subset
  | readAt fd offset len => exact (readAt_desk st fd offset len).subset
  | writeAt fd offset data => exact (writeAt_desk st fd offset data).subset
  | submitRead fd offset len =>
    show (DirectoryStore.submitRead fd offset len st).2.parked ⊆ _
    unfold DirectoryStore.submitRead
    split
    · exact List.Subset.refl _
    · dsimp only
      rw [hpark]
      exact List.Subset.refl _
  | submitWrite fd offset data =>
    show (DirectoryStore.submitWrite fd offset data st).2.parked ⊆ _
    unfold DirectoryStore.submitWrite
    split
    · exact List.Subset.refl _
    · dsimp only
      rw [hpark]
      exact List.Subset.refl _
  | await other =>
    show (DirectoryStore.await other st).2.parked ⊆ _
    unfold DirectoryStore.await
    split
    · exact List.Subset.refl _
    · rename_i job _
      dsimp only
      rw [(perform_desk job { st with parked := st.parked.filter (·.1 ≠ other) }).parked]
      exact List.filter_sublist.subset
  | stat fd => exact (stat_desk st fd).subset
  | sync fd => exact (sync_desk st fd).subset
  | truncate fd len => exact (truncate_desk st fd len).subset
  | statPath path => exact (statPath_desk st path).subset
  | truncatePath path len => exact (truncatePath_desk st path len).subset
  | unlinkPath path => exact (unlinkPath_desk st path).subset

/-- So what it does not owe it never will. -/
theorem unowed_call (hstopped : st.running = false) (h : ¬ st.Owes t) (call : StoreCall) :
    ¬ (call.on st).Owes t :=
  fun howes => h (List.map_subset _ (call_parked hstopped call) howes)

/-- There is nothing to wait for under a ticket that is not owed. -/
theorem await_unowed (h : ¬ st.Owes t) : st.await t = (none, st) := by
  unfold DirectoryStore.await
  split
  · rfl
  · rename_i ticket job hfind
    have hticket : ticket = t := by simpa using List.find?_some hfind
    exact absurd (List.mem_map.mpr ⟨_, List.mem_of_find?_eq_some hfind, hticket⟩) h

theorem owes_nothing (hparked : st.parked = []) : ¬ st.Owes t := by
  unfold Owes
  rw [hparked]
  simp [Holds]

/-- A store whose workers are stopped loses what is handed in. -/
def desk : Desk DirectoryStore where
  Blow := Blow
  befall := befall
  Owes := Owes
  Empty st := st.parked = []
  stopped st := !st.running
  owes_nothing := owes_nothing
  owes_call h hne := h.call hne
  owes_befall := by
    intro st t blow h
    cases blow with
    | stopWorkers => exact h
    | tree tree => exact h
  stopped_call call st := congrArg Bool.not (call_running call st)
  submitRead := by
    intro st st' fd offset len t hrunning h
    replace h : DirectoryStore.submitRead fd offset len st = (.ok t, st') := h
    unfold DirectoryStore.submitRead at h
    split at h
    · cases h
    · cases h
      exact owes_of_park (by simpa using hrunning) _
  submitWrite := by
    intro st st' fd offset data t hrunning h
    replace h : DirectoryStore.submitWrite fd offset data st = (.ok t, st') := h
    unfold DirectoryStore.submitWrite at h
    split at h
    · cases h
    · cases h
      exact owes_of_park (by simpa using hrunning) _
  await := Owes.fetched

end DirectoryStore

end StagedFiles
