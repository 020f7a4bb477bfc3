-- Any number of files over one store in memory. They are made, opened, used,
-- closed and let go of in any order, and every call of the store may fail. What
-- the store has open is at every moment what the files have open, no two have the
-- same descriptor, and each that was granted is given up by one close at most.
import Mathlib.Data.List.Perm.Basic
import StagedFiles.Proofs.Descriptors

namespace StagedFiles

/-- Files over a store, and the descriptors that their opens answered, newest first. -/
structure Fleet where
  files : List ObjectFile := []
  store : Shared MemoryStore
  granted : List Fd := []

/-- What can happen to the files. -/
inductive FleetAct where
  /-- A new raw file, not open. -/
  | raw (grouping : Grouping)
  /-- A new file with a stage, not open. -/
  | staged (settings : Settings)
  | openPath (i : Nat) (path : String) (access : Access)
  | use (i : Nat) (u : Use)
  | close (i : Nat)
  /-- The file is let go of, open or not. -/
  | drop (i : Nat)
  /-- Someone waits for a transfer. -/
  | await (ticket : Ticket)

namespace Fleet

/-- The descriptors of the files that are open. -/
def live (t : Fleet) : List Fd := t.files.filterMap ObjectFile.fd

/-- The descriptors that were granted, after an open. -/
def grantedBy (granted : List Fd) : Except Failure Fd → List Fd
  | .ok fd => fd :: granted
  | .error _ => granted

/-- One thing that happens. A file that is not there does nothing. -/
def step (t : Fleet) : FleetAct → Fleet
  | .raw grouping => { t with files := t.files ++ [.raw { grouping }] }
  | .staged settings => { t with files := t.files ++ [.staged (StagedFile.ofSettings settings)] }
  | .openPath i path access =>
    match t.files[i]? with
    | none => t
    | some f =>
      let (r, f, store) := f.openPath path access t.store
      { files := t.files.set i f, store, granted := grantedBy t.granted r }
  | .use i u =>
    match t.files[i]? with
    | none => t
    | some f =>
      let (f, store) := f.use t.store u
      { t with files := t.files.set i f, store }
  | .close i =>
    match t.files[i]? with
    | none => t
    | some f =>
      let (_, f, store) := f.close t.store
      { t with files := t.files.set i f, store }
  | .drop i =>
    match t.files[i]? with
    | none => t
    | some f => { t with files := t.files.eraseIdx i, store := (f.drop t.store).2 }
  | .await ticket => { t with store := (ObjectStore.await ticket t.store).2 }

def run (t : Fleet) (acts : List FleetAct) : Fleet := acts.foldl step t

/-! ## Live descriptors and one of the files -/

variable {files : List ObjectFile} {f f' : ObjectFile} {i : Nat}

/-- The descriptor of one file before those of the others. -/
theorem live_at (hf : files[i]? = some f) :
    (files.filterMap ObjectFile.fd).Perm ((f :: files.eraseIdx i).filterMap ObjectFile.fd) := by
  obtain ⟨hi, rfl⟩ := List.getElem?_eq_some_iff.mp hf
  exact (List.getElem_cons_eraseIdx_perm hi).symm.filterMap _

theorem live_set (hf : files[i]? = some f) :
    ((files.set i f').filterMap ObjectFile.fd).Perm
      ((f' :: files.eraseIdx i).filterMap ObjectFile.fd) := by
  obtain ⟨hi, _⟩ := List.getElem?_eq_some_iff.mp hf
  exact (List.set_perm_cons_eraseIdx hi f').filterMap _

/-- A file that keeps its descriptor. -/
theorem live_same (hf : files[i]? = some f) (hfd : f'.fd = f.fd) :
    (files.filterMap ObjectFile.fd).Perm ((files.set i f').filterMap ObjectFile.fd) := by
  refine (live_at hf).trans ((?_ : List.Perm _ _).trans (live_set hf).symm)
  rw [List.filterMap_cons, List.filterMap_cons, hfd]

theorem whole_set (hwhole : ∀ g ∈ files, g.Whole) (hf' : f'.Whole) :
    ∀ g ∈ files.set i f', g.Whole := by
  intro g hg
  rcases List.mem_or_eq_of_mem_set hg with hold | rfl
  · exact hwhole g hold
  · exact hf'

/-! ## What every step keeps -/

/-- The descriptors of the files, of the store and of the record agree. -/
structure Accounted (t : Fleet) : Prop where
  balanced : Balanced t.store.inner.handles.keys t.live t.store.closed t.granted
    t.store.inner.nextFd
  whole : ∀ f ∈ t.files, f.Whole
  others : Shared.LeaveHandles t.store.others

namespace Accounted

variable {t : Fleet} {store : Shared MemoryStore}

/-- A file comes that is not open. -/
theorem add (h : t.Accounted) (hfd : f.fd = none) (hwhole : f.Whole) :
    Accounted { t with files := t.files ++ [f] } := by
  refine ⟨?_, ?_, h.others⟩
  · have hlive : (t.files ++ [f]).filterMap ObjectFile.fd = t.files.filterMap ObjectFile.fd := by
      rw [List.filterMap_append, List.filterMap_cons, hfd, List.filterMap_nil, List.append_nil]
    unfold live
    dsimp only
    rw [hlive]
    exact h.balanced
  · intro g hg
    rcases List.mem_append.mp hg with hold | hnew
    · exact h.whole g hold
    · rw [List.mem_singleton.mp hnew]
      exact hwhole

/-- A file goes on with the descriptor it has, over a store where the same are open. -/
theorem same (h : t.Accounted) (hf : t.files[i]? = some f) (hfd : f'.fd = f.fd)
    (hwhole : f'.Whole) (hsame : t.store.SameDescriptors store) :
    Accounted { t with files := t.files.set i f', store } := by
  refine ⟨?_, whole_set h.whole hwhole, hsame.others ▸ h.others⟩
  dsimp only
  rw [hsame.handles, hsame.closed, hsame.nextFd]
  exact h.balanced.perm (live_same hf hfd)

/-- A file that was not open gets the next number. -/
theorem grant (h : t.Accounted) (hf : t.files[i]? = some f) (hfd : f.fd = none)
    (hnew : f'.fd = some t.store.inner.nextFd) (hwhole : f'.Whole)
    (hgrants : t.store.Grants store) :
    Accounted { files := t.files.set i f', store, granted := t.store.inner.nextFd :: t.granted } := by
  refine ⟨?_, whole_set h.whole hwhole, hgrants.others ▸ h.others⟩
  obtain ⟨handle, hhandles⟩ := hgrants.handles
  have hrest := h.balanced.perm (live_at hf)
  rw [List.filterMap_cons, hfd] at hrest
  have hmore := hrest.grant
  dsimp only at hmore ⊢
  rw [hhandles, Table.keys_insert, hgrants.closed, hgrants.nextFd]
  refine hmore.perm (List.Perm.trans ?_ (live_set hf).symm)
  rw [List.filterMap_cons, hnew]

/-- The descriptor of one file is given up; the others are as they were. -/
theorem release_rest {fd : Fd} (h : t.Accounted) (hf : t.files[i]? = some f)
    (hfd : f.fd = some fd) (hreleases : t.store.Releases fd store) :
    Balanced store.inner.handles.keys ((t.files.eraseIdx i).filterMap ObjectFile.fd) store.closed
      t.granted store.inner.nextFd := by
  have hall := h.balanced.perm (live_at hf)
  rw [List.filterMap_cons, hfd] at hall
  rw [hreleases.handles, Table.keys_erase, hreleases.closed, hreleases.nextFd]
  exact hall.release

theorem close (h : t.Accounted) {fd : Fd} (hf : t.files[i]? = some f) (hfd : f.fd = some fd)
    (hgone : f'.fd = none) (hwhole : f'.Whole) (hreleases : t.store.Releases fd store) :
    Accounted { t with files := t.files.set i f', store } := by
  refine ⟨?_, whole_set h.whole hwhole, hreleases.others ▸ h.others⟩
  refine (h.release_rest hf hfd hreleases).perm (List.Perm.trans ?_ (live_set hf).symm)
  rw [List.filterMap_cons, hgone]

theorem drop (h : t.Accounted) (hf : t.files[i]? = some f) :
    Accounted { t with files := t.files.eraseIdx i, store := (f.drop t.store).2 } := by
  have hwhole : ∀ g ∈ t.files.eraseIdx i, g.Whole :=
    fun g hg => h.whole g (List.mem_of_mem_eraseIdx hg)
  have hfile := h.whole f (List.mem_of_getElem? hf)
  rcases hfd : f.fd with _ | fd
  · rw [ObjectFile.drop_shut hfile hfd]
    refine ⟨?_, hwhole, h.others⟩
    have hall := h.balanced.perm (live_at hf)
    rwa [List.filterMap_cons, hfd] at hall
  · have hreleases := ObjectFile.drop_releases hfile h.others hfd
    exact ⟨h.release_rest hf hfd hreleases, hwhole, hreleases.others ▸ h.others⟩

/-- Whatever happens, and whatever of it fails. -/
theorem step (h : t.Accounted) (act : FleetAct) : (t.step act).Accounted := by
  cases act with
  | raw grouping => exact h.add rfl trivial
  | staged settings => exact h.add rfl rfl
  | openPath i path access =>
    unfold Fleet.step
    dsimp only
    split
    · exact h
    · rename_i f hf
      have hfile := h.whole f (List.mem_of_getElem? hf)
      have hopens := ObjectFile.openPath_opens path access hfile h.others
      generalize f.openPath path access t.store = out at hopens
      cases hopens with
      | failed hsame => exact h.same hf rfl hfile hsame
      | opened hfd hnew hwhole hgrants => exact h.grant hf hfd hnew hwhole hgrants
  | use i u =>
    unfold Fleet.step
    dsimp only
    split
    · exact h
    · rename_i f hf
      rcases hu : f.use t.store u with ⟨f', store⟩
      obtain ⟨hused, hfd, hwhole⟩ := ObjectFile.use_used (h.whole f (List.mem_of_getElem? hf)) hu
      exact h.same hf hfd hwhole (Shared.used_descriptors hused h.others)
  | close i =>
    unfold Fleet.step
    dsimp only
    split
    · exact h
    · rename_i f hf
      have hfile := h.whole f (List.mem_of_getElem? hf)
      have hcloses := ObjectFile.close_closes hfile h.others
      generalize f.close t.store = out at hcloses
      cases hcloses with
      | shut _ => exact h.same hf rfl hfile (.refl t.store)
      | busy _ _ _ => exact h.same hf rfl hfile (.refl t.store)
      | closed hfd hgone hwhole hreleases => exact h.close hf hfd hgone hwhole hreleases
  | drop i =>
    unfold Fleet.step
    dsimp only
    split
    · exact h
    · rename_i f hf
      exact h.drop hf
  | await ticket =>
    have huses : StoreCall.Uses (.await ticket) := trivial
    have hsame := Shared.uses_descriptors huses t.store h.others
    refine ⟨?_, h.whole, hsame.others ▸ h.others⟩
    show Balanced (StoreCall.on (.await ticket) t.store).inner.handles.keys t.live
      (StoreCall.on (.await ticket) t.store).closed t.granted
      (StoreCall.on (.await ticket) t.store).inner.nextFd
    rw [hsame.handles, hsame.closed, hsame.nextFd]
    exact h.balanced

theorem run (h : t.Accounted) (acts : List FleetAct) : (t.run acts).Accounted := by
  induction acts generalizing t with
  | nil => exact h
  | cons act acts ih => exact ih (h.step act)

/-- No files over a store that has nothing open. -/
theorem start (hnone : store.inner.handles.keys = []) (hclosed : store.closed = [])
    (hothers : Shared.LeaveHandles store.others) : Accounted { store } := by
  refine ⟨?_, fun f hf => (List.not_mem_nil hf).elim, hothers⟩
  dsimp only
  rw [hnone, hclosed]
  exact ⟨.refl _, .refl _, List.nodup_nil, fun fd hfd => (List.not_mem_nil hfd).elim⟩

end Accounted

/-! ## Descriptors do not leak -/

/-- The open descriptors of the store are those of the files, no two the same. Each
that was granted is one of these or was given up, once. -/
structure Tidy (t : Fleet) : Prop where
  open_fds : t.store.inner.handles.keys.Perm t.live
  apart : t.live.Nodup
  matched : (t.store.closed ++ t.live).Perm t.granted
  once : t.granted.Nodup

theorem Accounted.tidy {t : Fleet} (h : t.Accounted) : t.Tidy :=
  ⟨h.balanced.open_fds, h.balanced.apart, h.balanced.matched, h.balanced.once⟩

/-- Whatever was done with the files and whatever of it failed, the fleet is tidy. An
open that fails leaves its file and what is open, a close that is not refused gives
one descriptor up, and so does letting go of a file that is open. -/
theorem descriptors_do_not_leak {store : Shared MemoryStore}
    (hnone : store.inner.handles.keys = []) (hclosed : store.closed = [])
    (hothers : Shared.LeaveHandles store.others) (acts : List FleetAct) :
    (run { store } acts).Tidy ∧
      ∀ f ∈ (run { store } acts).files,
        (∀ path access, ObjectFile.Opens f (run { store } acts).store
          (f.openPath path access (run { store } acts).store)) ∧
        ObjectFile.Closes f (run { store } acts).store (f.close (run { store } acts).store) ∧
        (f.fd = none → (f.drop (run { store } acts).store).2 = (run { store } acts).store) ∧
        ∀ fd, f.fd = some fd →
          (run { store } acts).store.Releases fd (f.drop (run { store } acts).store).2 := by
  have h := (Accounted.start hnone hclosed hothers).run acts
  refine ⟨h.tidy, fun f hf => ?_⟩
  have hwhole := h.whole f hf
  exact ⟨fun path access => ObjectFile.openPath_opens path access hwhole h.others,
    ObjectFile.close_closes hwhole h.others, ObjectFile.drop_shut hwhole,
    fun fd => ObjectFile.drop_releases hwhole h.others⟩

/-- A store whose first open fails, and from its fourth call on the next write and the
next close as well, over and over. -/
def stormy : Shared MemoryStore :=
  { inner := ({ delivery := .deferred } : MemoryStore).insert "log" [1, 2, 3]
    others := fun n st =>
      { st with faults :=
          if n = 0 then { opens := ⟨1, 24⟩ } else { writes := ⟨1, 28⟩, closes := ⟨1, 5⟩ } } }

/-- A file with a stage is let go of with a request out and another with staged bytes
that do not reach the store; a raw file is closed and the close fails. -/
def voyage : List FleetAct :=
  [ .raw .default, .staged { bufferSize := 4 }, .staged { bufferSize := 4 },
    .openPath 1 "log" .readWrite, .openPath 1 "log" .readWrite, .openPath 0 "log" .readOnly,
    .openPath 2 "log" .readWrite, .use 1 (.readAio 0 2), .use 2 (.write 0 [9]), .close 1, .drop 1,
    .drop 1, .close 0 ]

theorem descriptors_do_not_leak_in_a_storm :
    stormy.inner.handles.keys = [] ∧ stormy.closed = [] ∧ Shared.LeaveHandles stormy.others ∧
      (run { store := stormy } voyage).granted = [⟨5⟩, ⟨4⟩, ⟨3⟩] ∧
      (run { store := stormy } voyage).live = [] ∧ (run { store := stormy } voyage).Tidy := by
  refine ⟨rfl, rfl, fun n st => ⟨rfl, rfl⟩, rfl, rfl, ?_⟩
  exact (descriptors_do_not_leak rfl rfl (fun n st => ⟨rfl, rfl⟩) voyage).1

end Fleet

end StagedFiles
