-- For each of its files a store in memory is like the cell of that file, whatever the
-- other files have there.
import StagedFiles.Proofs.FileResemblance
import StagedFiles.Proofs.SeatCalls

namespace StagedFiles

namespace MemoryStore

variable {ι : Type} [DecidableEq ι]

/-- The store is like the cell of a file as far as the descriptor of that file goes. -/
def likeness (mode : Delivery) (paths : ι → String) (seats : ι → Seat) (i : ι) (fd : Fd) :
    Likeness MemoryStore Cell Waits fd where
  Like st tt out := Seated mode paths (Function.update seats i ⟨tt, some fd, out.map (·.1)⟩) st
  readAt := by
    intro st tt out offset len h hwaits
    replace h := h.count fun c => { c with preads := c.preads + 1 }
    obtain ⟨o, access, b, errand, rfl, hopen⟩ := h.seat.open
    have hnow := hopen.now_eq h.sound (by simpa using hwaits)
    refine ⟨(Cell.reads access b offset len).mapError (Torn.mk []), _, _, ?_, rfl, h, hwaits⟩
    show MemoryStore.readAt fd offset len st = _
    unfold MemoryStore.readAt
    dsimp only
    rw [performRead_quiet h.sound.quiet hopen.handle hnow]
    cases Cell.reads access b offset len with
    | error _ => rfl
    | ok _ => rfl
  truncate := by
    intro st tt out len h hwaits
    replace h := h.count fun c => { c with truncates := c.truncates + 1 }
    obtain ⟨o, access, b, errand, rfl, hopen⟩ := h.seat.open
    have hnow := hopen.now_eq h.sound (by simpa using hwaits)
    show ∃ r st1 tt1, MemoryStore.truncate fd len st = (r, st1) ∧
      Cell.truncate len ⟨some b, some access, errand⟩ = (r, tt1) ∧ _
    unfold MemoryStore.truncate Cell.truncate
    dsimp only
    rw [hopen.handle]
    dsimp only
    split
    · refine ⟨_, _, _, rfl, rfl, ?_, hwaits⟩
      refine h.touch hopen (sameBut_setContent ..)
        (hopen.still_out h.sound (by simpa using hwaits) rfl ?_)
      rw [content_setContent_self, SparseBytes.toBytes_resize, hnow]
    · exact ⟨_, _, _, rfl, rfl, h, hwaits⟩
  writeAt := by
    intro st tt offset data h
    replace h := h.count fun c => { c with pwrites := c.pwrites + 1 }
    obtain ⟨o, access, b, errand, rfl, hopen⟩ := h.seat.open
    have hnow := hopen.now_eq h.sound (by simp)
    obtain ⟨st1, hw, hcontent, hsame⟩ :=
      performWrite_quiet h.sound.quiet hopen.handle hnow offset data false
    exact ⟨_, st1, _, hw, rfl, h.touch hopen hsame
      (hopen.still_out h.sound (by simp) hsame.parked hcontent)⟩
  submitRead := by
    intro st tt offset len h
    obtain ⟨hcheck, tt1, hsubmit, hlike⟩ :=
      h.handIn (fun c => { c with aioReads := c.aioReads + 1 }) (.read offset len)
    refine ⟨st.nextTicket, ⟨0⟩, _, tt1, ?_, hsubmit, hlike, waits_parked ..⟩
    show MemoryStore.submitRead fd offset len st = _
    unfold MemoryStore.submitRead
    rw [hcheck]
    rfl
  submitWrite := by
    intro st tt offset data h
    obtain ⟨hcheck, tt1, hsubmit, hlike⟩ :=
      h.handIn (fun c => { c with aioWrites := c.aioWrites + 1 }) (.write offset data)
    refine ⟨st.nextTicket, ⟨0⟩, _, tt1, ?_, hsubmit, hlike, waits_parked ..⟩
    show MemoryStore.submitWrite fd offset data st = _
    unfold MemoryStore.submitWrite
    rw [hcheck]
    rfl
  await := by
    intro st tt t u h
    obtain ⟨o, access, b, errand, rfl, hopen⟩ := h.seat.open
    obtain ⟨e, rfl⟩ : ∃ e, errand = some e := hopen.errand_some
    obtain ⟨st1, hwait, hafter⟩ := Seated.await h
    exact ⟨_, st1, _, hwait, rfl, hafter⟩

/-- And as far as its name goes. -/
def resemblance (mode : Delivery) (paths : ι → String) (seats : ι → Seat) (i : ι) :
    Resemblance MemoryStore Cell Waits (paths i) where
  opened := likeness mode paths seats i
  Shut st tt := Seated mode paths (Function.update seats i ⟨tt, none, none⟩) st
  openPath := by
    intro st tt access h
    have hopen := h.openPath access
    rcases hfound : Cell.found access tt.content with _ | b
    · rw [hfound] at hopen
      obtain ⟨st1, ho, hshut⟩ := hopen
      refine .inl ⟨_, st1, tt, ho, ?_, hshut⟩
      show Cell.openPath (paths i) access tt = _
      unfold Cell.openPath
      rw [hfound]
    · rw [hfound] at hopen
      obtain ⟨fd, st1, ho, hlike⟩ := hopen
      refine .inr ⟨fd, st1, _, ho, ?_, hlike⟩
      show Cell.openPath (paths i) access tt = _
      unfold Cell.openPath
      rw [hfound]
  close := by
    intro fd st tt h
    obtain ⟨o, access, b, errand, rfl, hopen⟩ := h.seat.open
    obtain rfl : errand = none := hopen.errand_none
    obtain ⟨st1, hclose, hshut⟩ := h.close hopen
    exact ⟨_, st1, _, hclose, rfl, hshut⟩

end MemoryStore

end StagedFiles
