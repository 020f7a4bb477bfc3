-- Descriptors that a store in memory has not given out yet. They lead nowhere, so
-- whatever is called nothing goes through them, and the one that an open gives out
-- has clean books.
import StagedFiles.Proofs.WriteLog
import StagedFiles.Proofs.MemoryTables

namespace StagedFiles.MemoryStore

variable {fd : Fd} {st st' : MemoryStore}

/-- A descriptor that was not given out yet leads nowhere, and nothing went through it. -/
def Numbered (st : MemoryStore) : Prop :=
  ∀ fd : Fd, st.nextFd.number ≤ fd.number →
    st.handles.find? fd = none ∧ Booked fd st.parked st 0 none

/-- A store that was not used yet. -/
theorem numbered_of_unused (hhandles : st.handles = {}) (hparked : st.parked = [])
    (hfinished : st.finished = []) (hwritten : st.written = []) : st.Numbered := by
  intro fd _
  have hnone : st.logged fd = 0 := by
    unfold logged log
    rw [hwritten]
    rfl
  refine ⟨by rw [hhandles]; rfl, ?_, ?_, .nothing ?_ hnone⟩
  · rw [hparked]
    exact fun x hx => (List.not_mem_nil hx).elim
  · rw [hfinished]
    exact fun x hx => (List.not_mem_nil hx).elim
  · rw [hparked]
    exact fun x hx => (List.not_mem_nil hx).elim

/-- No write goes through a descriptor that leads nowhere. -/
theorem Booked.unopened {n : Nat} (h : Booked fd st.parked st n none)
    (hnone : st.handles.find? fd = none) (call : StoreCall) :
    Booked fd (call.on st).parked (call.on st) n none := by
  by_cases hapart : Apart fd none call
  · exact h.call hapart
  · cases call with
    | writeAt fd' offset data =>
      obtain rfl : fd' = fd := Classical.not_not.mp hapart
      rcases performWrite_cases (st.count fun c => { c with pwrites := c.pwrites + 1 }) fd' offset
        data false with ⟨f, faults, hw⟩ | ⟨g, hg, _⟩
      · show Booked fd' (MemoryStore.performWrite ..).2.parked (MemoryStore.performWrite ..).2 n none
        rw [hw]
        exact h.of_same (logged_eq_of_written rfl) rfl rfl rfl
      · replace hg : st.handles.find? fd' = some g := hg
        rw [hnone] at hg
        cases hg
    | submitWrite fd' offset data =>
      obtain rfl : fd' = fd := Classical.not_not.mp hapart
      have hunknown : st.handles.contains fd' = false := by
        unfold Table.contains
        rw [hnone]
        rfl
      have hrefused : ∃ f, (st.checkSubmit fd').1 = .error f := by
        unfold MemoryStore.checkSubmit
        split
        · exact ⟨_, rfl⟩
        · rw [hunknown]
          exact ⟨_, rfl⟩
      obtain ⟨f, hf⟩ := hrefused
      rcases hc : st.checkSubmit fd' with ⟨r, st1⟩
      rw [hc] at hf
      subst hf
      show Booked fd' (st.submitWrite fd' offset data).2.parked (st.submitWrite fd' offset data).2 n
        none
      unfold MemoryStore.submitWrite
      rw [hc]
      exact h.checkSubmit hc
    | await t => exact (hapart fun e he => nomatch he).elim
    | _ => exact (hapart trivial).elim

/-- A call gives out the next descriptor at most. -/
theorem call_handles (call : StoreCall) (st : MemoryStore) :
    st.nextFd.number ≤ (call.on st).nextFd.number ∧
      ∀ fd, (call.on st).nextFd.number ≤ fd.number → st.handles.find? fd = none →
        (call.on st).handles.find? fd = none := by
  have hsame : (call.on st).handles = st.handles → (call.on st).nextFd = st.nextFd →
      st.nextFd.number ≤ (call.on st).nextFd.number ∧
        ∀ fd, (call.on st).nextFd.number ≤ fd.number → st.handles.find? fd = none →
          (call.on st).handles.find? fd = none := by
    intro hhandles hnext
    rw [hhandles, hnext]
    exact ⟨Int.le_refl _, fun _ _ h => h⟩
  by_cases huses : call.Uses
  · have htables := uses_tables call huses st
    exact hsame htables.handles htables.nextFd
  · cases call with
    | openPath path access =>
      have hopened := openPath_opened st path access
      show st.nextFd.number ≤ (st.openPath path access).2.nextFd.number ∧
        ∀ fd, (st.openPath path access).2.nextFd.number ≤ fd.number →
          st.handles.find? fd = none → (st.openPath path access).2.handles.find? fd = none
      rcases ho : st.openPath path access with ⟨r, st'⟩
      rw [ho] at hopened
      cases hopened with
      | failed hhandles hnext =>
        rw [hhandles, hnext]
        exact ⟨Int.le_refl _, fun _ _ h => h⟩
      | granted hhandles hnext =>
        have hmore : st.nextFd.next.number = st.nextFd.number + 1 := rfl
        rw [hhandles, hnext]
        refine ⟨by omega, ?_⟩
        intro fd hfd hnone
        have hne : fd ≠ st.nextFd := by
          rintro rfl
          omega
        rw [Table.find?_insert_of_ne _ _ hne]
        exact hnone
    | close fd' =>
      obtain ⟨hhandles, hnext⟩ := close_handles st fd'
      show st.nextFd.number ≤ (st.close fd').2.nextFd.number ∧
        ∀ fd, (st.close fd').2.nextFd.number ≤ fd.number →
          st.handles.find? fd = none → (st.close fd').2.handles.find? fd = none
      rw [hhandles, hnext]
      refine ⟨Int.le_refl _, ?_⟩
      intro fd _ hnone
      rw [Table.find?_erase, hnone, ite_self]
    | statPath path =>
      apply hsame
      · show (st.statPath path).2.handles = _
        unfold MemoryStore.statPath
        split <;> rfl
      · show (st.statPath path).2.nextFd = _
        unfold MemoryStore.statPath
        split <;> rfl
    | truncatePath path len =>
      apply hsame
      · show (st.truncatePath path len).2.handles = _
        unfold MemoryStore.truncatePath
        dsimp only
        split <;> rfl
      · show (st.truncatePath path len).2.nextFd = _
        unfold MemoryStore.truncatePath
        dsimp only
        split <;> rfl
    | unlinkPath path =>
      apply hsame
      · show (st.unlinkPath path).2.handles = _
        unfold MemoryStore.unlinkPath
        split <;> rfl
      · show (st.unlinkPath path).2.nextFd = _
        unfold MemoryStore.unlinkPath
        split <;> rfl
    | _ => exact (huses trivial).elim

/-- Whatever is called, descriptors that were not given out stay unused. -/
theorem Numbered.call (h : st.Numbered) (call : StoreCall) : Numbered (call.on st) := by
  obtain ⟨hnext, hhandles⟩ := call_handles call st
  intro fd hfd
  obtain ⟨hnone, hbooked⟩ := h fd (Int.le_trans hnext hfd)
  exact ⟨hhandles fd hfd hnone, hbooked.unopened hnone call⟩

/-- An open gives out a descriptor that nothing went through. -/
theorem Numbered.opened {path : String} {access : Access} (h : st.Numbered)
    (ho : st.openPath path access = (.ok fd, st')) : Booked fd st'.parked st' 0 none := by
  have hopened := openPath_opened st path access
  rw [ho] at hopened
  cases hopened with
  | granted hhandles hnext =>
    obtain ⟨_, hbooked⟩ := h st.nextFd (Int.le_refl _)
    have hquiet := hbooked.quiet (.openPath path access) trivial
    have hst : StoreCall.on (.openPath path access) st = st' := congrArg Prod.snd ho
    rw [hst] at hquiet
    exact hquiet

/-- Whatever befalls the store, too. -/
theorem Numbered.befall (h : st.Numbered) (blow : Blow) : Numbered (befall blow st) := by
  have hsame : (MemoryStore.befall blow st).handles = st.handles ∧
      (MemoryStore.befall blow st).nextFd = st.nextFd := by
    cases blow with
    | fail point k errno => exact ⟨rfl, rfl⟩
    | insert path data => exact ⟨rfl, rfl⟩
    | runParked =>
      unfold MemoryStore.befall
      dsimp only
      split
      · exact ⟨rfl, rfl⟩
      · obtain ⟨faults, objects, written, more, hran, _⟩ :=
          performAll_ran st.parked { st with parked := [] }
        have hrun : st.runParked.2 = performAll keep st.parked { st with parked := [] } := rfl
        rw [hrun, hran]
        exact ⟨rfl, rfl⟩
  intro fd hfd
  rw [hsame.2] at hfd
  obtain ⟨hnone, hbooked⟩ := h fd hfd
  rw [hsame.1]
  exact ⟨hnone, hbooked.befall blow⟩

end StagedFiles.MemoryStore
