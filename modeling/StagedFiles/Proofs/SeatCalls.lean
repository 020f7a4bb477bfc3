-- The calls of one file on a store in memory that many files use. Each answers what the
-- cell of the file answers and moves its seat as the cell moves, whatever the others
-- have under way, and leaves the others their seats.
import StagedFiles.Proofs.Seats

namespace StagedFiles

open MemoryStore

namespace Seated

variable {ι : Type} {mode : Delivery} {paths : ι → String} {seats : ι → Seat} {i j : ι}
  {st st' : MemoryStore} {o : ObjectId} {fd : Fd} {t : Ticket} {access : Access} {b : Bytes}
  {errand : Errand}

/-- Counts are of no account. -/
theorem count (h : Seated mode paths seats st) (f : CallCounts → CallCounts) :
    Seated mode paths seats (st.count f) :=
  ⟨h.sound.of_same rfl rfl rfl rfl rfl rfl rfl, h.distinct,
    fun j => (h.held j).spared ⟨rfl, fun _ _ => rfl, fun _ _ => rfl, Int.le_refl _,
      fun _ _ _ hmem => hmem, fun _ _ => rfl, rfl⟩, h.tickets, h.owned⟩

/-! ## All that is parked -/

/-- The first transfer of the queue runs, and its file has it out as before. -/
theorem runFirst [DecidableEq ι] (h : Seated .deferred paths seats st) {x : Ticket × Job}
    {rest : List (Ticket × Job)} (hjobs : st.parked = x :: rest) :
    ∃ c st1, ({ st with parked := [] } : MemoryStore).perform x.2 = (c, st1) ∧ st1.parked = [] ∧
      Seated .deferred paths seats { st1.keep x.1 c with parked := rest } := by
  obtain ⟨t, job⟩ := x
  have hmem : (t, job) ∈ st.parked := hjobs ▸ List.mem_cons_self
  have hwaits : st.Waits t := List.mem_map_of_mem hmem
  have hnot : ¬ Holds t rest := by
    have honce := h.sound.once
    rw [hjobs] at honce
    exact (List.nodup_cons.mp honce).1
  obtain ⟨i, hi⟩ := h.owned t hwaits
  obtain ⟨fd, o, access, b, errand, hseat, hopen⟩ := (h.held i).transfer hi
  have hjob : job = errand.job fd := by
    cases hopen.out with
    | parked _ hmem' => exact h.sound.job_eq hmem hmem'
    | ran _ _ ho =>
      rw [h.sound.unfinished t hwaits] at ho
      cases ho
  have hnow : (st.content o).toBytes = b :=
    hopen.now_eq h.sound fun t' ht' => Option.some.inj ht' ▸ hwaits
  let bare : MemoryStore := { st with parked := [] }
  have hquiet : bare.faults.Quiet := h.sound.quiet
  obtain ⟨st1, hrun, hcontent, hsame⟩ := perform_quiet hquiet hopen.handle hnow errand
  refine ⟨_, st1, hjob ▸ hrun, hsame.parked, ?_⟩
  have hrest : rest.Sublist st.parked := hjobs ▸ List.sublist_cons_self ..
  let after : MemoryStore := { st1 with parked := rest }
  have hafter : SameBut o { st with parked := rest } after :=
    ⟨hsame.names, hsame.handles, hsame.nextObject, hsame.nextFd, hsame.faults, rfl, hsame.finished,
      hsame.nextTicket, hsame.delivery, hsame.content⟩
  have hsound : after.Sound .deferred := (h.sound.unpark hrest).of_sameBut hafter
  have hfresh : after.outcomeOf t = none := by
    rw [← h.sound.unfinished t hwaits]
    unfold outcomeOf
    rw [hafter.finished]
  have holder : t.serial < after.nextTicket.serial :=
    hafter.nextTicket ▸ h.sound.waits_older t hwaits
  rw [← Function.update_eq_self i seats] at h ⊢
  refine h.put (hsound.keep _ holder hnot) ?_ ?_ (fun t' ht' j hj => h.ticket_ne ht' hj) ?_
  · rw [hseat]
    exact .opened ⟨hafter.names ▸ hopen.name, hafter.handles ▸ hopen.handle,
      hafter.nextFd ▸ hopen.number, .ran hcontent hsound.delivery (outcomeOf_keep_self hfresh _)⟩
  · intro j hj
    refine (h.spared hopen.name ?_ hafter hj).keep _ (h.ticket_ne hi hj)
    intro x hx hnot'
    rw [hjobs] at hx
    rcases List.mem_cons.mp hx with rfl | hx
    · exact absurd hi hnot'
    · exact hx
  · intro t' hw
    by_cases ht' : (seats i).ticket = some t'
    · exact .inl ht'
    · refine .inr ⟨?_, ht'⟩
      unfold Waits Holds
      rw [hjobs]
      exact List.mem_cons_of_mem _ hw

theorem performAll [DecidableEq ι] {jobs : List (Ticket × Job)}
    (h : Seated .deferred paths seats { st with parked := jobs }) :
    Seated .deferred paths seats (MemoryStore.performAll keep jobs { st with parked := [] }) := by
  induction jobs generalizing st with
  | nil => exact h
  | cons x rest ih =>
    obtain ⟨c, st1, hrun, hparked, hrest⟩ := h.runFirst rfl
    rw [performAll_cons]
    have hrun' : ({ st with parked := [] } : MemoryStore).perform x.2 = (c, st1) := hrun
    rw [hrun']
    have hempty : st1.keep x.1 c = { st1.keep x.1 c with parked := [] } := by
      unfold MemoryStore.keep
      rw [← hparked]
    dsimp only
    rw [hempty]
    exact ih hrest

/-- All that is parked runs, and each file has out what it had. -/
theorem runParked [DecidableEq ι] (h : Seated .deferred paths seats st) :
    Seated .deferred paths seats st.runParked.2 ∧ st.runParked.2.parked = [] := by
  refine ⟨performAll h, ?_⟩
  obtain ⟨_, _, _, _, hran, -⟩ := performAll_ran st.parked { st with parked := [] }
  show (MemoryStore.performAll keep st.parked { st with parked := [] }).parked = []
  rw [hran]

/-! ## Handing in and waiting -/

variable [DecidableEq ι]

/-- A transfer is parked under a ticket that no other file has. -/
theorem park (h : Seated mode paths
      (Function.update seats i ⟨⟨some b, some access, none⟩, some fd, none⟩) st)
    (hopen : st.OpenOn (paths i) fd o access b none none) (errand : Errand) :
    Seated mode paths
      (Function.update seats i ⟨⟨some b, some access, some errand⟩, some fd, some st.nextTicket⟩)
      (st.park (errand.job fd)).2 := by
  have hnow := hopen.now_eq h.sound fun t ht => by cases ht
  refine h.put (h.sound.park _) (.opened ⟨hopen.name, hopen.handle, hopen.number, ?_⟩) ?_ ?_ ?_
  · exact .parked hnow (List.mem_append_right _ (List.mem_singleton_self _))
  · intro j hj
    exact ⟨rfl, fun _ _ => rfl, fun _ _ => rfl, Int.le_refl _,
      fun _ _ _ hmem => List.mem_append_left _ hmem, fun _ _ => rfl, rfl⟩
  · intro t ht j hj hother
    obtain rfl : st.nextTicket = t := Option.some.inj ht
    have hheld := h.held j
    rw [Function.update_of_ne hj] at hheld
    exact absurd (hheld.ticket_older h.sound hother) (Nat.lt_irrefl _)
  · intro t hw
    rcases waits_park hw with hw | rfl
    · exact .inr ⟨hw, fun ht => by cases ht⟩
    · exact .inl rfl

/-- A hand-in is taken by the store as by the cell. -/
theorem handIn {cell : Cell} (h : Seated mode paths (Function.update seats i ⟨cell, some fd, none⟩) st)
    (f : CallCounts → CallCounts) (errand : Errand) :
    st.checkSubmit fd = (.ok (), st) ∧ ∃ cell', cell.submit errand = (.ok ⟨0⟩, cell') ∧
      Seated mode paths (Function.update seats i ⟨cell', some fd, some st.nextTicket⟩)
        ((st.count f).park (errand.job fd)).2 := by
  replace h := h.count f
  obtain ⟨o, access, b, out, rfl, hopen⟩ := h.seat.open
  obtain rfl : out = none := hopen.errand_none
  refine ⟨checkSubmit_open h.sound.quiet.submits ?_, _, rfl, h.park hopen errand⟩
  unfold Table.contains
  rw [show st.handles.find? fd = some ⟨o, access⟩ from hopen.handle]
  rfl

/-- A transfer that is waited for alone runs alone. -/
theorem runOne (h : Seated mode paths
      (Function.update seats i ⟨⟨some b, some access, some errand⟩, some fd, some t⟩) st)
    (hopen : st.OpenOn (paths i) fd o access b (some errand) (some t))
    (hmem : (t, errand.job fd) ∈ st.parked) :
    ∃ st1, st.runOne t = (some (Cell.outcome access b errand).1, st1) ∧
      Seated mode paths (Function.update seats i
        ⟨⟨some (Cell.outcome access b errand).2, some access, none⟩, some fd, none⟩) st1 := by
  have hwaits : st.Waits t := List.mem_map_of_mem hmem
  have hnow : (st.content o).toBytes = b :=
    hopen.now_eq h.sound fun t' ht' => Option.some.inj ht' ▸ hwaits
  obtain ⟨before, after, hjobs, hforeign⟩ := h.sound.split hmem
  let bare : MemoryStore := { st with parked := before ++ after }
  have hquiet : bare.faults.Quiet := h.sound.quiet
  obtain ⟨st1, hrun, hcontent, hsame⟩ := perform_quiet hquiet hopen.handle hnow errand
  have hrest : (before ++ after).Sublist st.parked := by
    rw [hjobs]
    exact List.Sublist.append_left (List.sublist_cons_self ..) before
  refine ⟨st1, ?_, h.put ((h.sound.unpark hrest).of_sameBut hsame) (.opened ⟨hsame.names ▸ hopen.name,
    hsame.handles ▸ hopen.handle, hsame.nextFd ▸ hopen.number, .nothing hcontent⟩) ?_
    (fun t' ht' => by cases ht') ?_⟩
  · rw [runOne_at hjobs hforeign, hrun]
  · intro j hj
    refine h.spared hopen.name ?_ hsame hj
    intro x hx hnot
    rw [hjobs] at hx
    rcases List.mem_append.mp hx with hfront | hback
    · exact List.mem_append_left _ hfront
    · rcases List.mem_cons.mp hback with rfl | hback
      · exact absurd rfl hnot
      · exact List.mem_append_right _ hback
  · intro t' hw
    unfold Waits at hw
    rw [hsame.parked] at hw
    obtain ⟨x, hx, rfl⟩ := List.mem_map.mp hw
    refine .inr ⟨List.mem_map_of_mem (hrest.subset hx), fun he => ?_⟩
    exact hforeign x hx (Option.some.inj he).symm

/-- What is waited for comes to what it comes to in the cell, whether it runs now or has
run while another was waited for. -/
theorem await (h : Seated mode paths
      (Function.update seats i ⟨⟨some b, some access, some errand⟩, some fd, some t⟩) st) :
    ∃ st1, st.await t = (some (Cell.outcome access b errand).1, st1) ∧
      Seated mode paths (Function.update seats i
        ⟨⟨some (Cell.outcome access b errand).2, some access, none⟩, some fd, none⟩) st1 := by
  unfold MemoryStore.await
  cases mode with
  | threaded =>
    rw [h.sound.delivery]
    obtain ⟨o, _, _, _, hcell, hopen⟩ := h.seat.open
    cases hcell
    cases hopen.out with
    | parked _ hmem => exact h.runOne hopen hmem
    | ran _ hd _ =>
      rw [h.sound.delivery] at hd
      cases hd
  | deferred =>
    rw [h.sound.delivery]
    obtain ⟨hran, hempty⟩ := h.runParked
    obtain ⟨o, _, _, _, hcell, hopen⟩ := hran.seat.open
    cases hcell
    have hnot : ∀ t', ¬ st.runParked.2.Waits t' := by
      intro t' hw
      unfold Waits at hw
      rw [hempty] at hw
      cases hw
    cases hopen.out with
    | parked _ hmem => exact absurd (List.mem_map_of_mem hmem) (hnot t)
    | ran hnow _ ho =>
      refine ⟨st.runParked.2.handOver t, Prod.ext ho rfl, ?_⟩
      refine hran.put (hran.sound.handOver (hnot t)) (.opened ⟨hopen.name, hopen.handle,
        hopen.number, .nothing hnow⟩) ?_ (fun t' ht' => by cases ht')
        fun t' hw => absurd hw (hnot t')
      exact fun j hj => (Seat.Spared.refl _ _ _).handOver (hran.ticket_ne rfl hj)

/-! ## Opening and closing -/

/-- An open finds, makes or empties the object that the cell does. -/
theorem find {cell : Cell} (h : Seated mode paths (Function.update seats i ⟨cell, none, none⟩) st)
    (access : Access) {b : Bytes} (hfound : Cell.found access cell.content = some b) :
    ∃ o st1, st.find (paths i) access = (.ok o, st1) ∧ st1.names.find? (paths i) = some o ∧
      Seated mode paths (Function.update seats i ⟨⟨some b, none, none⟩, none, none⟩) st1 := by
  have hseat := h.seat
  unfold MemoryStore.find
  cases hseat with
  | missing hname =>
    rw [hname]
    have hmade : access.create = true ∧ b = [] := by
      unfold Cell.found at hfound
      dsimp only at hfound
      split at hfound
      · rename_i hcreate
        exact ⟨hcreate, (Option.some.inj hfound).symm⟩
      · cases hfound
    obtain ⟨hcreate, rfl⟩ := hmade
    dsimp only
    rw [if_pos hcreate]
    have hnew : (st.insert (paths i) []).names.find? (paths i) = some st.nextObject :=
      Table.find?_insert_self ..
    have hcontent : ((st.insert (paths i) []).content st.nextObject).toBytes = [] := by
      unfold MemoryStore.content MemoryStore.insert
      dsimp only
      rw [Table.find?_insert_self]
      exact SparseBytes.toBytes_ofBytes []
    refine ⟨_, _, rfl, hnew, h.put (h.sound.insert _ _) (.shut hnew hcontent) ?_
      (fun t ht => by cases ht) fun t hw => .inr ⟨hw, fun ht => by cases ht⟩⟩
    intro j hj
    have hother : paths j ≠ paths i := fun he => hj (h.distinct he)
    refine ⟨Table.find?_insert_of_ne _ _ hother, ?_, fun _ _ => rfl, Int.le_refl _,
      fun _ _ _ hmem => hmem, fun _ _ => rfl, rfl⟩
    intro o ho
    unfold MemoryStore.content MemoryStore.insert
    dsimp only
    rw [Table.find?_insert_of_ne _ _ (Nat.ne_of_lt (h.sound.given _ _ ho))]
  | @shut o old hname hold =>
    rw [hname]
    dsimp only
    have hb : b = if access.truncate ∧ access.write then [] else old :=
      (Option.some.inj hfound).symm
    have hcut : ((if access.truncate = true ∧ access.write = true then st.setContent o {}
        else st).content o).toBytes = b := by
      rw [hb]
      split
      · rw [content_setContent_self]
        rfl
      · exact hold
    have hsame : SameBut o st
        (if access.truncate = true ∧ access.write = true then st.setContent o {} else st) := by
      split
      · exact sameBut_setContent o st {}
      · exact sameBut_count o st id
    have hname' := hsame.names ▸ hname
    refine ⟨o, _, rfl, hname', h.put (h.sound.of_sameBut hsame) (.shut hname' hcut)
      (fun j hj => h.spared hname (fun _ hx _ => hx) hsame hj) (fun t ht => by cases ht) ?_⟩
    intro t hw
    unfold Waits at hw
    rw [hsame.parked] at hw
    exact .inr ⟨hw, fun ht => by cases ht⟩

/-- A descriptor under the next number, which no other file has. -/
theorem grant (h : Seated mode paths (Function.update seats i ⟨⟨some b, none, none⟩, none, none⟩) st)
    (hname : st.names.find? (paths i) = some o) (access : Access) :
    Seated mode paths (Function.update seats i ⟨⟨some b, some access, none⟩, some st.nextFd, none⟩)
      (st.grant o access).2 := by
  have hnow : (st.content o).toBytes = b := by
    cases h.seat with
    | shut hname' hb =>
      rw [hname] at hname'
      cases hname'
      exact hb
  refine h.put (h.sound.of_same rfl rfl rfl rfl rfl rfl rfl) (.opened ⟨hname,
    Table.find?_insert_self .., ?_, .nothing hnow⟩) ?_ (fun t ht => by cases ht)
    fun t hw => .inr ⟨hw, fun ht => by cases ht⟩
  · exact Int.lt_succ _
  · intro j hj
    refine ⟨rfl, fun _ _ => rfl, ?_, Int.le_of_lt (Int.lt_succ _), fun _ _ _ hmem => hmem,
      fun _ _ => rfl, rfl⟩
    intro g hg
    refine Table.find?_insert_of_ne _ _ (h.fd_ne_next (j := j) ?_)
    rw [Function.update_of_ne hj]
    exact hg

theorem openPath {cell : Cell}
    (h : Seated mode paths (Function.update seats i ⟨cell, none, none⟩) st) (access : Access) :
    match Cell.found access cell.content with
    | none => ∃ st1, st.openPath (paths i) access = (.error (.notFound (paths i)), st1) ∧
        Seated mode paths (Function.update seats i ⟨cell, none, none⟩) st1
    | some b => ∃ fd st1, st.openPath (paths i) access = (.ok fd, st1) ∧
        Seated mode paths
          (Function.update seats i ⟨⟨some b, some access, none⟩, some fd, none⟩) st1 := by
  have hcount := h.count fun c => { c with opens := c.opens + 1 }
  unfold MemoryStore.openPath
  dsimp only
  rw [Fault.take_of_spent hcount.sound.quiet.opens]
  dsimp only
  split
  · rename_i hfound
    have hmissing : st.names.find? (paths i) = none ∧ access.create = false := by
      cases h.seat with
      | missing hname =>
        refine ⟨hname, ?_⟩
        unfold Cell.found at hfound
        simpa using hfound
      | shut _ _ => cases hfound
    refine ⟨_, ?_, hcount⟩
    unfold MemoryStore.find
    rw [show (st.count _).names.find? (paths i) = none from hmissing.1, hmissing.2]
    rfl
  · rename_i b hfound
    obtain ⟨o, st1, hfind, hname, hshut⟩ := hcount.find access hfound
    rw [hfind]
    exact ⟨_, _, rfl, hshut.grant hname access⟩

/-- A close takes the descriptor away. -/
theorem close (h : Seated mode paths
      (Function.update seats i ⟨⟨some b, some access, none⟩, some fd, none⟩) st)
    (hopen : st.OpenOn (paths i) fd o access b none none) :
    ∃ st1, st.close fd = (.ok (), st1) ∧
      Seated mode paths (Function.update seats i ⟨⟨some b, none, none⟩, none, none⟩) st1 := by
  have hnow := hopen.now_eq h.sound fun t ht => by cases ht
  have hknown : st.handles.contains fd = true := by
    unfold Table.contains
    rw [hopen.handle]
    rfl
  unfold MemoryStore.close
  dsimp only
  rw [Fault.take_of_spent (h.count _).sound.quiet.closes]
  dsimp only
  rw [show (st.count _).handles.contains fd = true from hknown, if_pos rfl]
  refine ⟨_, rfl, h.put (h.sound.of_same rfl rfl rfl rfl rfl rfl rfl) (.shut hopen.name hnow) ?_
    (fun t ht => by cases ht) fun t hw => .inr ⟨hw, fun ht => by cases ht⟩⟩
  intro j hj
  refine ⟨rfl, fun _ _ => rfl, ?_, Int.le_refl _, fun _ _ _ hmem => hmem, fun _ _ => rfl, rfl⟩
  intro g hg
  refine Table.find?_erase_of_ne _ (h.fd_ne hopen.name hopen.handle hj ?_)
  rw [Function.update_of_ne hj]
  exact hg

end Seated

end StagedFiles
