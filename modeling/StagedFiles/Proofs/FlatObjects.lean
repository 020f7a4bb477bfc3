-- The store in memory is a set of flat files. Through any run of acts and of
-- transfers that were handed in, with any faults, a descriptor stays on the object
-- that its path named when it was opened, a read brings what was last put at each
-- place, sizes are as writes and truncations make them, and what fails changes no
-- bytes and no log.
import StagedFiles.Proofs.Chronicle

namespace StagedFiles

/-! ## Runs -/

/-- A store in memory and its chronicle. -/
structure Annals where
  store : MemoryStore
  chronicle : Chronicle := {}

/-- What happens to a store in memory. -/
inductive Happening where
  | act (a : StoreAct)
  /-- A transfer that is parked runs, on its own. -/
  | run (ticket : Ticket)
  /-- All that is parked runs. -/
  | runParked

namespace Annals

/-- A transfer runs. -/
def perform (w : Annals) (job : Job) : Annals :=
  { store := (w.store.perform job).2
    chronicle := w.chronicle.ran job (w.store.perform job).1 }

/-- The store keeps a completion. -/
def keep (w : Annals) (ticket : Ticket) (c : Completion) : Annals :=
  { w with store := w.store.keep ticket c }

/-- Transfers run in order. -/
def performAll (w : Annals) (jobs : List (Ticket × Job)) : Annals :=
  jobs.foldl (fun w e => (w.perform e.2).keep e.1 (w.store.perform e.2).1) w

/-- The same with other transfers parked. -/
def park (w : Annals) (jobs : List (Ticket × Job)) : Annals :=
  { w with store := { w.store with parked := jobs } }

def after (w : Annals) : Happening → Annals
  | .act a =>
    { store := (a.on w.store).2
      chronicle := w.chronicle.note a (a.on w.store).1 }
  | .run ticket =>
    match w.store.parked.find? (·.1 = ticket) with
    | none => w
    | some (_, job) => (w.park (w.store.parked.filter (·.1 ≠ ticket))).perform job
  | .runParked => (w.park []).performAll w.store.parked

/-- All that happens, in order. -/
def through (w : Annals) (happenings : List Happening) : Annals := happenings.foldl after w

variable {w w' : Annals}

/-! ## The chronicle of a run -/

/-- The chronicle is that of the store. -/
def Told (w : Annals) : Prop := w.chronicle.Tells w.store

theorem Told.park (h : w.Told) (jobs : List (Ticket × Job)) : (w.park jobs).Told :=
  Chronicle.Tells.of_same h rfl rfl rfl rfl rfl rfl

theorem Told.perform (h : w.Told) (job : Job) : (w.perform job).Told :=
  Chronicle.Tells.perform h job

theorem Told.keep (h : w.Told) (ticket : Ticket) (c : Completion) : (w.keep ticket c).Told :=
  Chronicle.Tells.of_same h rfl rfl rfl rfl rfl rfl

theorem Told.performAll (h : w.Told) (jobs : List (Ticket × Job)) : (w.performAll jobs).Told := by
  induction jobs generalizing w with
  | nil => exact h
  | cons e es ih => exact ih ((h.perform e.2).keep e.1 _)

theorem Told.after (h : w.Told) (happening : Happening) : (w.after happening).Told := by
  cases happening with
  | act a => exact Chronicle.Tells.act h a
  | run ticket =>
    unfold Annals.after
    dsimp only
    split
    · exact h
    · exact (h.park _).perform _
  | runParked => exact (h.park []).performAll _

theorem Told.through (h : w.Told) (happenings : List Happening) : (w.through happenings).Told := by
  induction happenings generalizing w with
  | nil => exact h
  | cons x xs ih => exact ih (h.after x)

/-! ## Descriptors -/

/-- What is under the name of an open that came out well, and its descriptor. -/
theorem Told.openPath (h : w.Told) {path : String} {access : Access} {fd : Fd}
    (hopen : ((StoreAct.openPath path access).on w.store).1 = .opened (.ok fd)) :
    fd = w.store.nextFd ∧ w.chronicle.denotes fd = none ∧
      ∃ o, (w.after (.act (.openPath path access))).chronicle.named path = some o ∧
        (w.after (.act (.openPath path access))).chronicle.denotes fd = some ⟨o, access⟩ ∧
        ∀ o', w.chronicle.named path = some o' → o' = o := by
  have hnext : fd = w.store.nextFd := by
    obtain ⟨st', counts, faults, heffect, -⟩ := (StoreAct.openPath path access).effect w.store
    rw [hopen] at heffect
    cases heffect with
    | failed hfailed _ => exact hfailed.elim
    | opened _ => rfl
    | created _ => rfl
  have hnote : (w.after (.act (.openPath path access))).chronicle =
      (w.chronicle.found path access).opened path access fd := by
    show w.chronicle.note _ _ = _
    rw [hopen]
    rfl
  refine ⟨hnext, h.older_fds fd (hnext ▸ Int.le_refl _), ?_⟩
  obtain ⟨o, ho, hsame⟩ : ∃ o, (w.chronicle.found path access).named path = some o ∧
      ∀ o', w.chronicle.named path = some o' → o' = o := by
    rcases hname : w.chronicle.named path with _ | o
    · refine ⟨w.chronicle.births, ?_, fun _ ho' => nomatch ho'⟩
      unfold Chronicle.found
      rw [hname]
      exact Function.update_self ..
    · refine ⟨o, (h.emptied hname access).2, ?_⟩
      intro o' ho'
      exact (Option.some.inj ho').symm
  refine ⟨o, ?_, ?_, hsame⟩
  · rw [hnote]
    exact ho
  · rw [hnote]
    unfold Chronicle.opened
    dsimp only
    rw [Function.update_self, ho]
    rfl

end Annals

namespace Chronicle

variable {c : Chronicle}

@[simp] theorem denotes_changedBy (c : Chronicle) (fd : Fd) (change : Change) :
    (c.changedBy fd change).denotes = c.denotes := by
  unfold changedBy
  split
  · rfl
  · rfl

@[simp] theorem denotes_changedAt (c : Chronicle) (path : String) (change : Change) :
    (c.changedAt path change).denotes = c.denotes := by
  unfold changedAt
  split
  · rfl
  · rfl

@[simp] theorem denotes_wrote (c : Chronicle) (fd : Fd) (offset : Nat) (data : Bytes) (aio : Bool) :
    (c.wrote fd offset data aio).denotes = c.denotes := denotes_changedBy c fd _

@[simp] theorem denotes_found (c : Chronicle) (path : String) (access : Access) :
    (c.found path access).denotes = c.denotes := by
  unfold found
  split
  · split
    · rfl
    · rfl
  · rfl

@[simp] theorem denotes_ran (c : Chronicle) (job : Job) (completion : Completion) :
    (c.ran job completion).denotes = c.denotes := by
  unfold ran
  split
  · exact denotes_wrote ..
  · rfl

/-- Only an open that gives out the descriptor and a close of it change what it denotes. -/
theorem denotes_note (c : Chronicle) {act : StoreAct} {answer : StoreAnswer} {fd : Fd}
    (hclose : act ≠ .close fd) (hopen : answer ≠ .opened (.ok fd)) :
    (c.note act answer).denotes fd = c.denotes fd := by
  unfold note
  split
  · rfl
  · rename_i path access fd'
    have hne : fd ≠ fd' := fun he => hopen (by rw [he])
    show Function.update (c.found path access).denotes fd' _ fd = _
    rw [Function.update_of_ne hne, denotes_found]
  · rename_i fd'
    have hne : fd ≠ fd' := fun he => hclose (by rw [he])
    exact Function.update_of_ne hne ..
  · rw [denotes_wrote]
  · rw [denotes_changedBy]
  · rw [denotes_changedAt]
  · rfl
  · rfl

end Chronicle

namespace Annals

variable {w w' : Annals}

theorem denotes_performAll (jobs : List (Ticket × Job)) (w : Annals) :
    (w.performAll jobs).chronicle.denotes = w.chronicle.denotes := by
  induction jobs generalizing w with
  | nil => rfl
  | cons e es ih => exact (ih _).trans (Chronicle.denotes_ran ..)

/-- Whatever happens but its close, a descriptor denotes what it denoted. -/
theorem Told.denotes_after (h : w.Told) {fd : Fd} {handle : Handle}
    (hfd : w.chronicle.denotes fd = some handle) {happening : Happening}
    (hclose : happening ≠ .act (.close fd)) :
    (w.after happening).chronicle.denotes fd = some handle := by
  cases happening with
  | act a =>
    rw [← hfd]
    apply Chronicle.denotes_note
    · rintro rfl
      exact hclose rfl
    · intro hopen
      -- an open gives out a descriptor that denotes nothing yet
      have hnone : w.chronicle.denotes fd = none := by
        cases a with
        | openPath path access => exact (h.openPath hopen).2.1
        | _ => cases hopen
      rw [hfd] at hnone
      cases hnone
  | run ticket =>
    unfold Annals.after
    dsimp only
    split
    · exact hfd
    · exact (congrFun (Chronicle.denotes_ran ..) fd).trans hfd
  | runParked => exact (congrFun (denotes_performAll ..) fd).trans hfd

/-- A descriptor denotes for its whole life what it denoted at first. -/
theorem Told.denotes_through (h : w.Told) {fd : Fd} {handle : Handle}
    (hfd : w.chronicle.denotes fd = some handle) {later : List Happening}
    (hclose : .act (.close fd) ∉ later) :
    (w.through later).chronicle.denotes fd = some handle := by
  induction later generalizing w with
  | nil => exact hfd
  | cons x xs ih =>
    rw [List.mem_cons, not_or] at hclose
    exact ih (h.after x) (h.denotes_after hfd (Ne.symm hclose.1)) hclose.2

/-! ## Transfers -/

/-- No bytes of an object changed, and no write was noted. -/
def SameBytes (w w' : Annals) : Prop :=
  w'.store.content = w.store.content ∧ w'.store.log = w.store.log

theorem sameBytes_of_store {st : MemoryStore} (hstore : w'.store = st)
    (hcontent : st.content = w.store.content) (hlog : st.log = w.store.log) : w.SameBytes w' := by
  subst hstore
  exact ⟨hcontent, hlog⟩

/-- What a transfer that was handed in comes to when it runs. -/
inductive Ran (w : Annals) : Job → Completion → Annals → Prop where
  | failed {job : Job} {c : Completion} {w' : Annals} : c.Failed → w.SameBytes w' → Ran w job c w'
  | read {fd : Fd} {offset len : Nat} {h : Handle} {bytes : Bytes} {w' : Annals} :
      w.chronicle.denotes fd = some h → (w.chronicle.past h.object).Brings offset len bytes →
      w.SameBytes w' → Ran w (.read fd offset len) (.bytes (.ok bytes)) w'
  | wrote {fd : Fd} {offset : Nat} {data : Bytes} {h : Handle} {w' : Annals} :
      w.chronicle.denotes fd = some h →
      (w'.store.content h.object).size =
        max (w.store.content h.object).size (offset + data.length) →
      Ran w (.write fd offset data) (.count (.ok data.length)) w'

/-- What many come to that run in order. -/
inductive RanAll : Annals → List (Ticket × Job) → Annals → Prop where
  | nil {w : Annals} : RanAll w [] w
  | cons {w w₁ w₂ : Annals} {ticket : Ticket} {job : Job} {c : Completion}
      {jobs : List (Ticket × Job)} : Ran w job c w₁ → RanAll (w₁.keep ticket c) jobs w₂ →
      RanAll w ((ticket, job) :: jobs) w₂

/-- What a slice of an object brings is told by its past. -/
theorem Told.brings (h : w.Told) (o : ObjectId) (offset len : Nat) :
    (w.chronicle.past o).Brings offset len ((w.store.content o).slice offset len) := by
  rw [SparseBytes.slice_eq]
  exact (h.shows o).slice offset len

/-- The size of an object after a write. -/
theorem size_afterWrite (st : MemoryStore) (o : ObjectId) (record : WriteRecord) (data : Bytes) :
    ((st.afterWrite o record data).content o).size =
      max (st.content o).size (record.offset + data.length) := by
  have hcontent : (st.afterWrite o record data).content o =
      (st.content o).overlay record.offset data := MemoryStore.content_setContent_self st o _
  rw [hcontent]
  rfl

theorem Told.ran (h : w.Told) (job : Job) :
    w.Ran job (w.store.perform job).1 (w.perform job) := by
  have hout := w.store.perform_outcome job
  rcases hperform : w.store.perform job with ⟨c, st'⟩
  rw [hperform] at hout
  have hstore : (w.perform job).store = st' := congrArg Prod.snd hperform
  cases hout with
  | readFault htake => exact .failed trivial (sameBytes_of_store hstore rfl rfl)
  | writeFault htake => exact .failed trivial (sameBytes_of_store hstore rfl rfl)
  | unread hbad => exact .failed trivial (sameBytes_of_store hstore rfl rfl)
  | unwritten hbad => exact .failed trivial (sameBytes_of_store hstore rfl rfl)
  | read hh =>
    exact .read ((h.handles _).symm.trans hh) (h.brings _ _ _)
      (sameBytes_of_store hstore rfl rfl)
  | wrote hh =>
    refine .wrote ((h.handles _).symm.trans hh) ?_
    rw [hstore]
    exact size_afterWrite ..

theorem Told.ranAll (h : w.Told) (jobs : List (Ticket × Job)) :
    RanAll w jobs (w.performAll jobs) := by
  induction jobs generalizing w with
  | nil => exact .nil
  | cons e es ih => exact .cons (h.ran e.2) (ih ((h.perform e.2).keep e.1 _))

/-- What else is parked does not matter to a transfer that runs. -/
theorem Ran.of_park {jobs : List (Ticket × Job)} {job : Job} {c : Completion}
    (h : (w.park jobs).Ran job c w') : w.Ran job c w' := by
  cases h with
  | failed hfailed hsame => exact .failed hfailed hsame
  | read hfd hbrings hsame => exact .read hfd hbrings hsame
  | wrote hfd hsize => exact .wrote hfd hsize

/-- A transfer that runs on its own is one of those that are parked. -/
theorem Told.run (h : w.Told) {ticket : Ticket} {c : Completion}
    (hrun : (w.store.runOne ticket).1 = some c) :
    ∃ job, (ticket, job) ∈ w.store.parked ∧ w.Ran job c (w.after (.run ticket)) := by
  rcases hfind : w.store.parked.find? (·.1 = ticket) with _ | ⟨t, job⟩
  · unfold MemoryStore.runOne at hrun
    rw [hfind] at hrun
    cases hrun
  · obtain rfl : t = ticket := by simpa using List.find?_some hfind
    refine ⟨job, List.mem_of_find?_eq_some hfind, ?_⟩
    have hran := (h.park (w.store.parked.filter (·.1 ≠ t))).ran job
    unfold MemoryStore.runOne at hrun
    rw [hfind] at hrun
    obtain rfl := Option.some.inj hrun
    have hafter : w.after (.run t) = (w.park (w.store.parked.filter (·.1 ≠ t))).perform job := by
      unfold Annals.after
      dsimp only
      rw [hfind]
    rw [hafter]
    exact hran.of_park

/-! ## Calls -/

/-- The store after an act that had an effect. -/
theorem content_effect {a : StoreAct} {answer : StoreAnswer}
    (hanswer : (a.on w.store).1 = answer) :
    ∃ st', a.Effect w.store answer st' ∧ (w.after (.act a)).store.content = st'.content ∧
      (w.after (.act a)).store.log = st'.log := by
  obtain ⟨st', counts, faults, heffect, hst⟩ := a.effect w.store
  rw [hanswer] at heffect
  have hstore : (w.after (.act a)).store = st'.charged counts faults := hst
  rw [hstore]
  exact ⟨st', heffect, rfl, rfl⟩

/-- An act that fails changes no bytes and no log. -/
theorem sameBytes_of_failed {a : StoreAct} (hfailed : (a.on w.store).1.Failed) :
    w.SameBytes (w.after (.act a)) := by
  obtain ⟨st', heffect, hcontent, hlog⟩ := content_effect (w := w) (a := a) rfl
  generalize (a.on w.store).1 = answer at hfailed heffect
  cases heffect with
  | failed _ _ => exact ⟨hcontent, hlog⟩
  | closed => exact ⟨hcontent, hlog⟩
  | _ => exact hfailed.elim

/-- A read that comes out well brings what the past of its object tells. -/
theorem Told.readAt (h : w.Told) {fd : Fd} {offset len : Nat} {bytes : Bytes}
    (hread : ((StoreAct.readAt fd offset len).on w.store).1 = .bytes (.ok bytes)) :
    ∃ handle, w.chronicle.denotes fd = some handle ∧
      (w.chronicle.past handle.object).Brings offset len bytes ∧
      w.SameBytes (w.after (.act (.readAt fd offset len))) := by
  obtain ⟨st', heffect, hcontent, hlog⟩ := content_effect hread
  cases heffect with
  | failed hfailed _ => exact hfailed.elim
  | @read _ _ _ handle hh =>
    exact ⟨handle, (h.handles fd).symm.trans hh, h.brings _ _ _, hcontent, hlog⟩

/-- A write that comes out well is whole, and the object reaches at least to its end. -/
theorem Told.writeAt (h : w.Told) {fd : Fd} {offset n : Nat} {data : Bytes}
    (hwrite : ((StoreAct.writeAt fd offset data).on w.store).1 = .count (.ok n)) :
    n = data.length ∧ ∃ handle, w.chronicle.denotes fd = some handle ∧
      ((w.after (.act (.writeAt fd offset data))).store.content handle.object).size =
        max (w.store.content handle.object).size (offset + data.length) := by
  obtain ⟨st', heffect, hcontent, -⟩ := content_effect hwrite
  cases heffect with
  | failed hfailed _ => exact hfailed.elim
  | @wrote _ _ _ handle hh =>
    refine ⟨rfl, handle, (h.handles fd).symm.trans hh, ?_⟩
    rw [hcontent]
    exact size_afterWrite ..

/-- A length that is set is the size, by descriptor or by name. -/
theorem Told.truncate (h : w.Told) {fd : Fd} {len : Nat}
    (htruncate : ((StoreAct.truncate fd len).on w.store).1 = .done (.ok ())) :
    ∃ handle, w.chronicle.denotes fd = some handle ∧
      ((w.after (.act (.truncate fd len))).store.content handle.object).size = len := by
  obtain ⟨st', heffect, hcontent, -⟩ := content_effect htruncate
  cases heffect with
  | failed hfailed _ => exact hfailed.elim
  | @sized _ _ handle hh =>
    refine ⟨handle, (h.handles fd).symm.trans hh, ?_⟩
    rw [hcontent, MemoryStore.content_setContent_self]
    rfl

theorem Told.truncatePath (h : w.Told) {path : String} {len : Nat}
    (htruncate : ((StoreAct.truncatePath path len).on w.store).1 = .done (.ok ())) :
    ∃ o, w.chronicle.named path = some o ∧
      ((w.after (.act (.truncatePath path len))).store.content o).size = len := by
  obtain ⟨st', heffect, hcontent, -⟩ := content_effect htruncate
  cases heffect with
  | failed hfailed _ => exact hfailed.elim
  | @sizedPath _ _ o ho =>
    refine ⟨o, (h.names path).symm.trans ho, ?_⟩
    rw [hcontent, MemoryStore.content_setContent_self]
    rfl

/-- A new object under a name is none that a descriptor denotes. -/
theorem Told.insert (h : w.Told) (path : String) (data : Bytes) {fd : Fd} {handle : Handle}
    (hfd : w.chronicle.denotes fd = some handle) :
    (w.after (.act (.insert path data))).store.content handle.object =
      w.store.content handle.object := by
  have hne : handle.object ≠ w.store.nextObject := by
    rw [h.births]
    exact Nat.ne_of_lt (h.older_handles fd handle hfd)
  show (((w.store.objects.insert w.store.nextObject (.ofBytes data)).find?
    handle.object).getD {}) = _
  rw [Table.find?_insert_of_ne _ _ hne]
  rfl

/-- A name that is taken away takes no bytes away. -/
theorem unlinkPath_content (w : Annals) (path : String) :
    (w.after (.act (.unlinkPath path))).store.content = w.store.content := by
  obtain ⟨st', heffect, hcontent, -⟩ := content_effect (w := w) (a := .unlinkPath path) rfl
  rw [hcontent]
  generalize ((StoreAct.unlinkPath path).on w.store).1 = answer at heffect
  cases heffect with
  | failed _ _ => rfl
  | unlinked => rfl
  | accepted hjob _ => cases hjob

/-! ## Flat files -/

/-- The laws of flat files, at one point of a run. -/
structure FlatFiles (w : Annals) : Prop where
  /-- What the store holds is what came of all that was done. -/
  told : w.Told
  /-- An open gives a descriptor that was not open, on the object that the path names. -/
  opens : ∀ path access fd,
    ((StoreAct.openPath path access).on w.store).1 = .opened (.ok fd) →
    w.chronicle.denotes fd = none ∧
      ∃ o, (w.after (.act (.openPath path access))).chronicle.named path = some o ∧
        (w.after (.act (.openPath path access))).chronicle.denotes fd = some ⟨o, access⟩ ∧
        ∀ o', w.chronicle.named path = some o' → o' = o
  /-- Until it is closed the descriptor denotes that object. -/
  lasts : ∀ fd handle later, w.chronicle.denotes fd = some handle → .act (.close fd) ∉ later →
    (w.through later).store.handles.find? fd = some handle
  /-- What becomes of names changes nothing that a descriptor sees. -/
  unseen : ∀ fd handle, w.chronicle.denotes fd = some handle →
    (∀ path data, (w.after (.act (.insert path data))).store.content handle.object =
      w.store.content handle.object) ∧
    ∀ path, (w.after (.act (.unlinkPath path))).store.content handle.object =
      w.store.content handle.object
  /-- A read brings what lies between the offset and the end, each byte the one that was
  last put at its place. -/
  reads : ∀ fd offset len bytes,
    ((StoreAct.readAt fd offset len).on w.store).1 = .bytes (.ok bytes) →
    ∃ handle, w.chronicle.denotes fd = some handle ∧
      (w.chronicle.past handle.object).Brings offset len bytes ∧
      w.SameBytes (w.after (.act (.readAt fd offset len)))
  writes : ∀ fd offset data n,
    ((StoreAct.writeAt fd offset data).on w.store).1 = .count (.ok n) →
    n = data.length ∧ ∃ handle, w.chronicle.denotes fd = some handle ∧
      ((w.after (.act (.writeAt fd offset data))).store.content handle.object).size =
        max (w.store.content handle.object).size (offset + data.length)
  truncates : ∀ fd len, ((StoreAct.truncate fd len).on w.store).1 = .done (.ok ()) →
    ∃ handle, w.chronicle.denotes fd = some handle ∧
      ((w.after (.act (.truncate fd len))).store.content handle.object).size = len
  truncates_paths : ∀ path len,
    ((StoreAct.truncatePath path len).on w.store).1 = .done (.ok ()) →
    ∃ o, w.chronicle.named path = some o ∧
      ((w.after (.act (.truncatePath path len))).store.content o).size = len
  /-- A transfer that was handed in does the same when it runs, alone or with all others. -/
  runs : ∀ ticket c, (w.store.runOne ticket).1 = some c →
    ∃ job, (ticket, job) ∈ w.store.parked ∧ w.Ran job c (w.after (.run ticket))
  runs_all : RanAll (w.park []) w.store.parked (w.after .runParked)
  failures : ∀ a : StoreAct, (a.on w.store).1.Failed → w.SameBytes (w.after (.act a))

theorem Told.flatFiles (h : w.Told) : w.FlatFiles where
  told := h
  opens _ _ _ hopen := (h.openPath hopen).2
  lasts fd _ later hfd hclose :=
    ((h.through later).handles fd).trans (h.denotes_through hfd hclose)
  unseen _ _ hfd :=
    ⟨fun path data => h.insert path data hfd, fun path => congrFun (unlinkPath_content w path) _⟩
  reads _ _ _ _ hread := h.readAt hread
  writes _ _ _ _ hwrite := h.writeAt hwrite
  truncates _ _ htruncate := h.truncate htruncate
  truncates_paths _ _ htruncate := h.truncatePath htruncate
  runs _ _ hrun := h.run hrun
  runs_all := (h.park []).ranAll w.store.parked
  failures _ hfailed := sameBytes_of_failed hfailed

end Annals

/-- Whatever happens to a store in memory, it is a set of flat files. -/
theorem a_store_in_memory_is_a_set_of_flat_files (delivery : Delivery)
    (happenings : List Happening) :
    (Annals.through { store := { delivery } } happenings).FlatFiles := by
  have hfresh : Annals.Told { store := { delivery } } := Chronicle.tells_fresh delivery
  exact (hfresh.through happenings).flatFiles

end StagedFiles
