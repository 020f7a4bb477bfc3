-- An object of the store in memory that a descriptor only reads. The calls of a reader
-- leave its bytes and the log of the descriptor, whatever fails: the descriptor lets no
-- write through, and the parked transfers that its waits set off land elsewhere.
import StagedFiles.Proofs.ReadOnlyCalls
import StagedFiles.Proofs.StoreActs

namespace StagedFiles

/-! ## An object that is only read -/

namespace MemoryStore

/-- The transfer would write to the object if it ran now. -/
def LandsIn (st : MemoryStore) (o : ObjectId) : Job → Prop
  | .read .. => False
  | .write fd _ _ => ∃ h, st.handles.find? fd = some h ∧ h.object = o ∧ h.access.write = true

/-- The object has these bytes and the log these records of the descriptor, which is not
open for writing. Nothing is parked that would write to the object. -/
structure Untouched (fd : Fd) (o : ObjectId) (bytes : Bytes) (records : List WriteRecord)
    (st : MemoryStore) : Prop where
  barred : ∀ h, st.handles.find? fd = some h → h.access.write = false
  content : (st.content o).toBytes = bytes
  logged : st.log.filter (·.fd = fd) = records
  harmless : ∀ x ∈ st.parked, ¬ st.LandsIn o x.2

variable {fd : Fd} {o : ObjectId} {bytes : Bytes} {records : List WriteRecord}
  {st st' : MemoryStore}

/-- No handle is new, the object and the log stand, and only reads were taken in. -/
theorem Untouched.move (h : Untouched fd o bytes records st)
    (hhandles : ∀ fd' g, st'.handles.find? fd' = some g → st.handles.find? fd' = some g)
    (hcontent : st'.content o = st.content o) (hlog : st'.log = st.log)
    (hparked : ∀ x ∈ st'.parked, x ∈ st.parked ∨ ∃ fd' offset len, x.2 = .read fd' offset len) :
    Untouched fd o bytes records st' := by
  refine ⟨fun g hg => h.barred g (hhandles fd g hg), ?_, ?_, ?_⟩
  · rw [hcontent]
    exact h.content
  · rw [hlog]
    exact h.logged
  · intro x hx hlands
    rcases hparked x hx with hold | ⟨fd', offset, len, hread⟩
    · refine h.harmless x hold ?_
      rcases x with ⟨t, fd' | ⟨fd', offset, data⟩⟩
      · exact hlands
      · obtain ⟨g, hg, hin⟩ := hlands
        exact ⟨g, hhandles fd' g hg, hin⟩
    · rw [hread] at hlands
      exact hlands

/-- Counts and faults touch nothing. -/
theorem Untouched.charged (h : Untouched fd o bytes records st) (counts : CallCounts)
    (faults : Faults) : Untouched fd o bytes records (st.charged counts faults) :=
  h.move (fun _ _ hg => hg) rfl rfl fun _ hx => .inl hx

/-! ## Transfers that run -/

/-- A transfer that would not write to the object does not, and the log grows by no
write of the descriptor. -/
theorem Untouched.perform {job : Job} (h : Untouched fd o bytes records st)
    (hjob : ¬ st.LandsIn o job) : Untouched fd o bytes records (st.perform job).2 := by
  cases job with
  | read fd' offset len =>
    rcases performRead_cases st fd' offset len with ⟨f, faults, hr⟩ | ⟨g, _, hr⟩
    · simp only [MemoryStore.perform, hr]
      exact h.charged st.counts faults
    · simp only [MemoryStore.perform, hr]
      exact h
  | write fd' offset data =>
    unfold MemoryStore.perform performWrite
    dsimp only
    split
    · exact h.charged st.counts _
    · split
      · exact h
      · rename_i g hg
        split
        · rename_i hwrite
          have hother : o ≠ g.object := fun heq => hjob ⟨g, hg, heq.symm, hwrite⟩
          have hfd : fd' ≠ fd := by
            rintro rfl
            rw [h.barred g hg] at hwrite
            cases hwrite
          refine ⟨h.barred, ?_, ?_, h.harmless⟩
          · exact (congrArg SparseBytes.toBytes (content_setContent_of_ne st _ hother)).trans
              h.content
          · unfold log
            rw [List.reverse_cons, List.filter_append, List.filter_cons_of_neg (by simpa using hfd),
              List.filter_nil, List.append_nil]
            exact h.logged
        · exact h

/-- Neither do any number of them. A transfer opens and closes nothing, so those that
are still to run stay harmless. -/
theorem Untouched.performAll (jobs : List (Ticket × Job)) (h : Untouched fd o bytes records st)
    (hjobs : ∀ x ∈ jobs, ¬ st.LandsIn o x.2) :
    Untouched fd o bytes records (performAll keep jobs st) := by
  induction jobs generalizing st with
  | nil => exact h
  | cons e es ih =>
    rw [performAll_cons]
    have hran := h.perform (hjobs e List.mem_cons_self)
    obtain ⟨faults, objects, written, hframe⟩ := perform_frame st e.2
    refine ih ⟨hran.barred, hran.content, hran.logged, hran.harmless⟩ ?_
    intro x hx hlands
    refine hjobs x (List.mem_cons_of_mem _ hx) ?_
    rw [hframe] at hlands
    rcases x with ⟨t, fd' | ⟨fd', offset, data⟩⟩
    · exact hlands
    · exact hlands

theorem Untouched.runParked (h : Untouched fd o bytes records st) :
    Untouched fd o bytes records st.runParked.2 := by
  have hemptied : Untouched fd o bytes records { st with parked := [] } :=
    ⟨h.barred, h.content, h.logged, fun x hx => by cases hx⟩
  refine hemptied.performAll st.parked ?_
  intro x hx hlands
  refine h.harmless x hx ?_
  rcases x with ⟨t, fd' | ⟨fd', offset, data⟩⟩
  · exact hlands
  · exact hlands

theorem Untouched.await (h : Untouched fd o bytes records st) (ticket : Ticket) :
    Untouched fd o bytes records (st.await ticket).2 := by
  unfold MemoryStore.await
  split
  · unfold runOne
    split
    · exact h
    · rename_i t job hjob
      have hrest : Untouched fd o bytes records
          { st with parked := st.parked.filter (·.1 ≠ ticket) } :=
        h.move (fun _ _ hg => hg) rfl rfl fun x hx => .inl (List.mem_of_mem_filter hx)
      refine hrest.perform ?_
      intro hlands
      refine h.harmless (t, job) (List.mem_of_find?_eq_some hjob) ?_
      rcases job with ⟨fd', offset, len⟩ | ⟨fd', offset, data⟩
      · exact hlands
      · exact hlands
  · have hran := h.runParked
    exact ⟨hran.barred, hran.content, hran.logged, hran.harmless⟩

/-! ## The calls of a reader -/

/-- The store refuses to set the length through the descriptor. -/
theorem Untouched.truncate_refused (h : Untouched fd o bytes records st) (len : Nat) :
    ∃ e, st.truncate fd len =
      (.error e, st.count fun c => { c with truncates := c.truncates + 1 }) := by
  unfold MemoryStore.truncate
  dsimp only
  split
  · exact ⟨_, rfl⟩
  · rename_i g hg
    have hbarred := h.barred g hg
    rw [hbarred]
    exact ⟨_, rfl⟩

theorem Untouched.readAt (h : Untouched fd o bytes records st) (fd' : Fd) (offset len : Nat) :
    Untouched fd o bytes records (st.readAt fd' offset len).2 := by
  obtain ⟨st1, counts, faults, heffect, hst⟩ := st.readAt_comes fd' offset len
  rcases hread : st.readAt fd' offset len with ⟨r, st2⟩
  rw [hread] at heffect hst
  obtain rfl : st2 = st1.charged counts faults := hst
  have hread : StoreAct.Effect st (.readAt fd' offset len) (.bytes r) st1 := heffect
  cases hread with
  | failed _ _ => exact h.charged counts faults
  | read _ => exact h.charged counts faults

/-- A read that is taken in is parked behind the others, and lands nowhere. -/
theorem Untouched.submitRead (h : Untouched fd o bytes records st) (fd' : Fd) (offset len : Nat) :
    Untouched fd o bytes records (st.submitRead fd' offset len).2 := by
  obtain ⟨st1, counts, faults, heffect, hst⟩ := st.submitRead_comes fd' offset len
  rcases hsubmit : st.submitRead fd' offset len with ⟨r, st2⟩
  rw [hsubmit] at heffect hst
  obtain rfl : st2 = st1.charged counts faults := hst
  have hsubmit : StoreAct.Effect st (.submitRead fd' offset len) (.ticket r) st1 := heffect
  refine Untouched.charged ?_ counts faults
  cases hsubmit with
  | failed _ _ => exact h
  | accepted hjob _ =>
    cases hjob
    refine h.move (fun _ _ hg => hg) rfl rfl ?_
    intro x hx
    rcases List.mem_append.mp hx with hold | hnew
    · exact .inl hold
    · rw [List.mem_singleton.mp hnew]
      exact .inr ⟨fd', offset, len, rfl⟩

/-- A close takes a handle away. -/
theorem Untouched.close (h : Untouched fd o bytes records st) (fd' : Fd) :
    Untouched fd o bytes records (st.close fd').2 := by
  have hclosed : Untouched fd o bytes records { st with handles := st.handles.erase fd' } := by
    refine h.move ?_ rfl rfl fun _ hx => .inl hx
    intro fd'' g hg
    rw [Table.find?_erase] at hg
    split at hg
    · cases hg
    · exact hg
  obtain ⟨st1, counts, faults, heffect, hst⟩ := st.close_comes fd'
  obtain rfl : st1 = { st with handles := st.handles.erase fd' } := by
    cases heffect with
    | failed _ hne => exact absurd rfl (hne fd')
    | closed => rfl
  have hstore : (st.close fd').2 = MemoryStore.charged _ counts faults := hst
  rw [hstore]
  exact hclosed.charged counts faults

theorem Untouched.on (h : Untouched fd o bytes records st) {call : StoreCall}
    (hreads : call.ReadsBy fd) : Untouched fd o bytes records (call.on st) := by
  cases call with
  | readAt fd' offset len => exact h.readAt fd' offset len
  | submitRead fd' offset len => exact h.submitRead fd' offset len
  | await ticket => exact h.await ticket
  | stat fd' =>
    show Untouched fd o bytes records (st.stat fd').2
    unfold MemoryStore.stat
    split
    · exact h
    · exact h
  | sync fd' => exact h.charged _ st.faults
  | truncate fd' len =>
    obtain rfl : fd' = fd := hreads
    obtain ⟨e, he⟩ := h.truncate_refused len
    show Untouched fd' o bytes records (st.truncate fd' len).2
    rw [he]
    exact h.charged _ st.faults
  | close fd' => exact h.close fd'
  | openPath _ _ => exact hreads.elim
  | writeAt _ _ _ => exact hreads.elim
  | submitWrite _ _ _ => exact hreads.elim
  | statPath _ => exact hreads.elim
  | truncatePath _ _ => exact hreads.elim
  | unlinkPath _ => exact hreads.elim

/-- An open that comes out well puts a handle with the access asked for on some object. -/
theorem openPath_handle {path : String} {access : Access}
    (h : st.openPath path access = (.ok fd, st')) :
    ∃ o, st'.handles.find? fd = some ⟨o, access⟩ := by
  obtain ⟨st1, counts, faults, heffect, hst⟩ := st.openPath_comes path access
  rw [h] at heffect hst
  obtain rfl : st' = st1.charged counts faults := hst
  have hopened : StoreAct.Effect st (.openPath path access) (.opened (.ok fd)) st1 := heffect
  cases hopened with
  | failed hfailed _ => exact hfailed.elim
  | @opened _ _ o _ =>
    refine ⟨o, ?_⟩
    have hnext : (st.emptied o access).nextFd = st.nextFd := by
      unfold emptied
      split
      · rfl
      · rfl
    rw [← hnext]
    exact Table.find?_insert_self ..
  | created _ => exact ⟨st.nextObject, Table.find?_insert_self ..⟩

end MemoryStore

end StagedFiles
