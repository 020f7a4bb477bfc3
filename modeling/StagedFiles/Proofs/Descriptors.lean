-- The descriptors of any number of files over one store in memory. An open that
-- comes out well brings a new number, which one close of the store gives up when
-- its file is closed or let go of, whatever fails meanwhile and whatever is out.
-- What the store has open is what the files have open, and no two have the same.
import StagedFiles.Proofs.FileUses
import StagedFiles.Proofs.FlatStage
import StagedFiles.Proofs.MemoryTables

namespace StagedFiles

/-! ## The account of descriptors -/

/-- The keys of the store are the descriptors of live files. Each that was granted
is live or was given up, and only one of the two; the numbers to come are new. -/
structure Balanced (keys live closed granted : List Fd) (next : Fd) : Prop where
  open_fds : keys.Perm live
  matched : (closed ++ live).Perm granted
  once : granted.Nodup
  fresh : ∀ fd ∈ granted, fd.number < next.number

namespace Balanced

variable {keys live live' closed granted : List Fd} {next fd : Fd}

theorem perm (h : Balanced keys live closed granted next) (hlive : live.Perm live') :
    Balanced keys live' closed granted next :=
  ⟨h.open_fds.trans hlive, (hlive.symm.append_left closed).trans h.matched, h.once, h.fresh⟩

/-- No two live files have the same descriptor. -/
theorem apart (h : Balanced keys live closed granted next) : live.Nodup :=
  (List.nodup_append.mp (h.matched.nodup_iff.mpr h.once)).2.1

/-- One more is granted. -/
theorem grant (h : Balanced keys live closed granted next) :
    Balanced (next :: keys.filter (· ≠ next)) (next :: live) closed (next :: granted) next.next := by
  have hnew : next ∉ granted := fun hmem => Int.lt_irrefl _ (h.fresh next hmem)
  have hfree : keys.filter (· ≠ next) = keys := by
    apply List.filter_eq_self.mpr
    intro fd hfd
    have hlive : fd ∈ granted :=
      h.matched.subset (List.mem_append_right _ (h.open_fds.subset hfd))
    have hne : fd ≠ next := by
      rintro rfl
      exact hnew hlive
    simpa using hne
  refine ⟨?_, List.perm_middle.trans (h.matched.cons next), List.nodup_cons.mpr ⟨hnew, h.once⟩, ?_⟩
  · rw [hfree]
    exact h.open_fds.cons next
  · intro fd hfd
    rcases List.mem_cons.mp hfd with rfl | hold
    · exact Int.lt_succ _
    · exact Int.lt_trans (h.fresh fd hold) (Int.lt_succ _)

/-- A live one is given up. -/
theorem release (h : Balanced keys (fd :: live) closed granted next) :
    Balanced (keys.filter (· ≠ fd)) live (fd :: closed) granted next := by
  have hnot : fd ∉ live := (List.nodup_cons.mp h.apart).1
  have hrest : (fd :: live).filter (· ≠ fd) = live := by
    rw [List.filter_cons_of_neg (by simp)]
    apply List.filter_eq_self.mpr
    intro other hother
    have hne : other ≠ fd := by
      rintro rfl
      exact hnot hother
    simpa using hne
  refine ⟨?_, List.perm_middle.symm.trans h.matched, h.once, h.fresh⟩
  have hkeys := h.open_fds.filter (· ≠ fd)
  rwa [hrest] at hkeys

end Balanced

/-! ## A shared store whose others open and close nothing -/

namespace Shared

/-- The others leave the handles alone; they may make any call fail. -/
def LeaveHandles (others : Nat → MemoryStore → MemoryStore) : Prop :=
  ∀ n st, (others n st).handles = st.handles ∧ (others n st).nextFd = st.nextFd

/-- The descriptors stand as they did. -/
structure SameDescriptors (st st' : Shared MemoryStore) : Prop where
  handles : st'.inner.handles = st.inner.handles
  nextFd : st'.inner.nextFd = st.inner.nextFd
  closed : st'.closed = st.closed
  others : st'.others = st.others

variable {st st' : Shared MemoryStore}

theorem SameDescriptors.refl (st : Shared MemoryStore) : st.SameDescriptors st :=
  ⟨rfl, rfl, rfl, rfl⟩

theorem SameDescriptors.trans {st'' : Shared MemoryStore} (h : st.SameDescriptors st')
    (h' : st'.SameDescriptors st'') : st.SameDescriptors st'' :=
  ⟨h'.handles.trans h.handles, h'.nextFd.trans h.nextFd, h'.closed.trans h.closed,
    h'.others.trans h.others⟩

/-- A use of an open descriptor is made in turn. -/
theorem on_uses {call : StoreCall} (huses : call.Uses) (st : Shared MemoryStore) :
    call.on st = { st with
      inner := call.on (st.others st.calls st.inner)
      calls := st.calls + 1 } := by
  cases call with
  | openPath path access => exact huses.elim
  | close fd => exact huses.elim
  | statPath path => exact huses.elim
  | truncatePath path len => exact huses.elim
  | unlinkPath path => exact huses.elim
  | _ => rfl

theorem uses_descriptors {call : StoreCall} (huses : call.Uses) (st : Shared MemoryStore)
    (hothers : LeaveHandles st.others) : st.SameDescriptors (call.on st) := by
  have htables := MemoryStore.uses_tables call huses (st.others st.calls st.inner)
  obtain ⟨hhandles, hnext⟩ := hothers st.calls st.inner
  rw [on_uses huses]
  exact ⟨htables.handles.trans hhandles, htables.nextFd.trans hnext, rfl, rfl⟩

/-- Neither do any number of them change what is open. -/
theorem used_descriptors (h : Used st st') (hothers : LeaveHandles st.others) : st.SameDescriptors st' := by
  refine h.keeps (P := fun st' => st.SameDescriptors st') ?_ (.refl st)
  intro call st1 huses hsame
  exact hsame.trans (uses_descriptors huses st1 (hsame.others ▸ hothers))

end Shared

/-! ## Open and close of the store -/

namespace Shared

variable {st st' : Shared MemoryStore} {fd : Fd}

/-- The store has one more descriptor, under the next number. -/
structure Grants (st st' : Shared MemoryStore) : Prop where
  handles : ∃ h, st'.inner.handles = st.inner.handles.insert st.inner.nextFd h
  nextFd : st'.inner.nextFd = st.inner.nextFd.next
  closed : st'.closed = st.closed
  others : st'.others = st.others

/-- The store was told once to give the descriptor up, and did. -/
structure Releases (fd : Fd) (st st' : Shared MemoryStore) : Prop where
  handles : st'.inner.handles = st.inner.handles.erase fd
  nextFd : st'.inner.nextFd = st.inner.nextFd
  closed : st'.closed = fd :: st.closed
  others : st'.others = st.others

/-- What the store did before it was told does not matter. -/
theorem Releases.after {st1 : Shared MemoryStore} (h : st1.Releases fd st')
    (hsame : st.SameDescriptors st1) : st.Releases fd st' :=
  ⟨hsame.handles ▸ h.handles, h.nextFd.trans hsame.nextFd, hsame.closed ▸ h.closed,
    h.others.trans hsame.others⟩

theorem openPath_cases {path : String} {access : Access} {r : Except Failure Fd}
    (hothers : LeaveHandles st.others) (h : ObjectStore.openPath path access st = (r, st')) :
    (∃ e, r = .error e ∧ st.SameDescriptors st') ∨ r = .ok st.inner.nextFd ∧ st.Grants st' := by
  obtain ⟨hhandles, hnext⟩ := hothers st.calls st.inner
  have hopened := MemoryStore.openPath_opened (st.others st.calls st.inner) path access
  replace h : st.turn (MemoryStore.openPath path access) = (r, st') := h
  unfold turn at h
  generalize (st.others st.calls st.inner).openPath path access = out at h hopened
  cases hopened with
  | failed hh hn =>
    cases h
    exact .inl ⟨_, rfl, hh.trans hhandles, hn.trans hnext, rfl, rfl⟩
  | @granted g _ hh hn =>
    rw [hhandles, hnext] at hh
    rw [hnext] at hn h
    cases h
    exact .inr ⟨rfl, ⟨g, hh⟩, hn, rfl, rfl⟩

theorem close_releases (fd : Fd) (hothers : LeaveHandles st.others) :
    st.Releases fd (ObjectStore.close fd st).2 := by
  obtain ⟨hhandles, hnext⟩ := hothers st.calls st.inner
  obtain ⟨hh, hn⟩ := MemoryStore.close_handles (st.others st.calls st.inner) fd
  refine ⟨?_, ?_, rfl, rfl⟩
  · rw [← hhandles]
    exact hh
  · rw [← hnext]
    exact hn

end Shared

/-! ## Open, close and the end of a file -/

namespace ObjectFile

open Shared

variable {f f' : ObjectFile} {st st' : Shared MemoryStore}

/-- What an open of a file comes to: it fails and leaves the file and what the store
has open, or the file, which was not open, gets the next number. -/
inductive Opens (f : ObjectFile) (st : Shared MemoryStore) :
    Except Failure Fd × ObjectFile × Shared MemoryStore → Prop where
  | failed {e : Failure} {st' : Shared MemoryStore} : st.SameDescriptors st' →
      Opens f st (.error e, f, st')
  | opened {f' : ObjectFile} {st' : Shared MemoryStore} : f.fd = none →
      f'.fd = some st.inner.nextFd → f'.Whole → st.Grants st' →
      Opens f st (.ok st.inner.nextFd, f', st')

/-- What a close of a file comes to: it is refused, because the file is not open or
has a request out, and nothing changes, or the descriptor is given up. -/
inductive Closes (f : ObjectFile) (st : Shared MemoryStore) :
    Except Failure Unit × ObjectFile × Shared MemoryStore → Prop where
  | shut : f.fd = none → Closes f st (.error .notOpen, f, st)
  | busy {fd : Fd} {n : Nat} : f.fd = some fd → f.stage?.map (·.outstanding) = some n → n ≠ 0 →
      Closes f st (.error (.inFlight fd n), f, st)
  | closed {r : Except Failure Unit} {fd : Fd} {f' : ObjectFile} {st' : Shared MemoryStore} :
      f.fd = some fd → f'.fd = none → f'.Whole → st.Releases fd st' → Closes f st (r, f', st')

theorem openPath_opens (path : String) (access : Access) (hwhole : f.Whole)
    (hothers : LeaveHandles st.others) : Opens f st (f.openPath path access st) := by
  cases f with
  | raw f =>
    unfold ObjectFile.openPath RawFile.openPath
    dsimp only
    rcases hfd : f.fd with _ | fd
    · dsimp only
      rcases ho : ObjectStore.openPath path access st with ⟨r, st'⟩
      rcases openPath_cases hothers ho with ⟨e, rfl, hsame⟩ | ⟨rfl, hgrants⟩
      · exact .failed hsame
      · exact .opened hfd rfl trivial hgrants
    · exact .failed (.refl st)
  | staged f =>
    obtain ⟨raw, settings, _ | s, bytes, last⟩ := f
    · have hraw : raw.fd = none := hwhole
      unfold ObjectFile.openPath StagedFile.openPath
      dsimp only
      rcases hcheck : settings.check with e | u
      · exact .failed (.refl st)
      · dsimp only
        unfold RawFile.openPath
        rw [hraw]
        dsimp only
        rcases ho : ObjectStore.openPath path access st with ⟨r, st'⟩
        rcases openPath_cases hothers ho with ⟨e, rfl, hsame⟩ | ⟨rfl, hgrants⟩
        · exact .failed hsame
        · -- settings that break no rule always make a stage
          obtain ⟨stage, hbuild⟩ := Stage.build_of_check hcheck st.inner.nextFd
          dsimp only
          rw [hbuild]
          exact .opened rfl rfl rfl hgrants
    · exact .failed (.refl st)

theorem close_closes (hwhole : f.Whole) (hothers : LeaveHandles st.others) :
    Closes f st (f.close st) := by
  cases f with
  | raw f =>
    unfold ObjectFile.close RawFile.close
    dsimp only
    rcases hfd : f.fd with _ | fd
    · exact .shut hfd
    · exact .closed hfd rfl trivial (close_releases fd hothers)
  | staged f =>
    unfold ObjectFile.close
    dsimp only
    rcases hs : f.session with _ | s
    · have hfd : f.fd = none := by
        unfold StagedFile.fd
        rw [hs]
        rfl
      rw [StagedFile.close_shut hs]
      exact .shut hfd
    · have hfd : f.fd = some s.fd := by
        unfold StagedFile.fd
        rw [hs]
        rfl
      have hraw : f.raw.fd = some s.fd := hwhole.trans hfd
      by_cases hidle : s.stage.outstanding = 0
      · rcases hflush : s.lastFlush st with ⟨flushed, stage, st1⟩
        have hsame := used_descriptors (Session.lastFlush_used hflush) hothers
        have hreleases := (close_releases s.fd (hsame.others ▸ hothers)).after hsame
        rw [StagedFile.close_idle hs hidle, hflush]
        dsimp only
        unfold RawFile.close
        rw [hraw]
        dsimp only
        cases flushed with
        | error e => exact .closed hfd rfl rfl hreleases
        | ok n => exact .closed hfd rfl rfl hreleases
      · rw [StagedFile.close_busy hs hidle]
        refine .busy hfd ?_ hidle
        show (f.session.map (·.stage)).map (·.outstanding) = some s.stage.outstanding
        rw [hs]
        rfl

/-- Letting go of an open file gives its descriptor up, by the close of the file or,
where that is refused, by the raw file under it. -/
theorem drop_releases {fd : Fd} (hwhole : f.Whole) (hothers : LeaveHandles st.others)
    (hfd : f.fd = some fd) : st.Releases fd (f.drop st).2 := by
  cases f with
  | raw f =>
    unfold ObjectFile.drop RawFile.drop
    dsimp only
    rw [show f.fd = some fd from hfd]
    exact close_releases fd hothers
  | staged f =>
    rcases hc : f.close st with ⟨r, g, st1⟩
    have hcloses : Closes (.staged f) st (r, .staged g, st1) := by
      have h := close_closes (f := .staged f) hwhole hothers
      simp only [ObjectFile.close, hc] at h
      exact h
    have hraw : f.raw.fd = some fd := Eq.trans hwhole hfd
    simp only [ObjectFile.drop, StagedFile.drop, hc]
    unfold RawFile.drop
    generalize hg : ObjectFile.staged g = file at hcloses
    cases hcloses with
    | shut hnone =>
      rw [hfd] at hnone
      cases hnone
    | busy _ _ _ =>
      cases hg
      rw [hraw]
      exact close_releases fd hothers
    | closed hfd' hnone hwhole' hreleases =>
      subst hg
      have hgone : g.raw.fd = none := Eq.trans hwhole' hnone
      rw [hfd] at hfd'
      cases hfd'
      rw [hgone]
      exact hreleases

/-- Letting go of a file that is not open does nothing to the store. -/
theorem drop_shut (hwhole : f.Whole) (hfd : f.fd = none) : (f.drop st).2 = st := by
  cases f with
  | raw f =>
    unfold ObjectFile.drop RawFile.drop
    dsimp only
    rw [show f.fd = none from hfd]
  | staged f =>
    obtain ⟨raw, settings, _ | s, bytes, last⟩ := f
    · have hraw : raw.fd = none := hwhole
      unfold ObjectFile.drop StagedFile.drop StagedFile.close RawFile.drop
      dsimp only
      rw [hraw]
    · cases hfd

end ObjectFile

end StagedFiles
