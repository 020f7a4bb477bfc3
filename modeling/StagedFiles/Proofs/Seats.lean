-- A store in memory that many files use at once, without faults. Each file has a seat:
-- what a cell of its own would hold, and the numbers under which the store knows it.
-- A transfer that is out may have run while another was waited for; the cell of its
-- file is then still as it was, and the store has what becomes of it.
import Mathlib.Data.List.Nodup
import StagedFiles.Proofs.Cell
import StagedFiles.Proofs.OwedTransfers

namespace StagedFiles

namespace MemoryStore

variable {st st' : MemoryStore} {mode : Delivery} {t : Ticket} {fd : Fd} {o : ObjectId}

/-! ## Stores without faults -/

/-- The transfer of this ticket has still to run. -/
def Waits (st : MemoryStore) (t : Ticket) : Prop := Holds t st.parked

/-- What came of a transfer that ran while another was waited for. -/
def outcomeOf (st : MemoryStore) (t : Ticket) : Option Completion :=
  (st.finished.find? (·.1 = t)).map (·.2)

@[simp] theorem waits_count (st : MemoryStore) (f : CallCounts → CallCounts) (t : Ticket) :
    (st.count f).Waits t ↔ st.Waits t := Iff.rfl

theorem waits_parked (st : MemoryStore) (job : Job) : (st.park job).2.Waits st.nextTicket :=
  holds_last ..

/-- No two names lead to one object, no call is told to fail, and each transfer has a
ticket of its own and runs once. -/
structure Sound (mode : Delivery) (st : MemoryStore) : Prop where
  delivery : st.delivery = mode
  apart : ∀ p q o, st.names.find? p = some o → st.names.find? q = some o → p = q
  given : ∀ p o, st.names.find? p = some o → o < st.nextObject
  quiet : st.faults.Quiet
  once : (st.parked.map (·.1)).Nodup
  unfinished : ∀ t, st.Waits t → st.outcomeOf t = none
  waits_older : ∀ t, st.Waits t → t.serial < st.nextTicket.serial
  finished_older : ∀ x ∈ st.finished, x.1.serial < st.nextTicket.serial

/-- Contents, handles, counts and the log are of no account. -/
theorem Sound.of_same (h : st.Sound mode) (hd : st'.delivery = st.delivery)
    (hn : st'.names = st.names) (hobject : st'.nextObject = st.nextObject)
    (hf : st'.faults = st.faults) (hp : st'.parked = st.parked)
    (hfin : st'.finished = st.finished) (ht : st'.nextTicket = st.nextTicket) :
    st'.Sound mode := by
  have hwaits : ∀ t, st'.Waits t ↔ st.Waits t := fun t => by unfold Waits; rw [hp]
  have houtcome : ∀ t, st'.outcomeOf t = st.outcomeOf t := fun t => by unfold outcomeOf; rw [hfin]
  refine ⟨hd.trans h.delivery, ?_, ?_, hf ▸ h.quiet, hp ▸ h.once, ?_, ?_, ?_⟩
  · rw [hn]
    exact h.apart
  · rw [hn, hobject]
    exact h.given
  · intro t hw
    rw [houtcome]
    exact h.unfinished t ((hwaits t).mp hw)
  · intro t hw
    rw [ht]
    exact h.waits_older t ((hwaits t).mp hw)
  · rw [hfin, ht]
    exact h.finished_older

theorem Sound.of_sameBut (h : st.Sound mode) (hs : SameBut o st st') : st'.Sound mode :=
  h.of_same hs.delivery hs.names hs.nextObject hs.faults hs.parked hs.finished hs.nextTicket

/-- A new object is under its name alone. -/
theorem Sound.insert (h : st.Sound mode) (path : String) (data : Bytes) :
    (st.insert path data).Sound mode :=
  ⟨h.delivery, apart_insert h.apart h.given path data, given_insert h.given path data, h.quiet,
    h.once, h.unfinished, h.waits_older, h.finished_older⟩

/-- A transfer that was handed out before has an older ticket. -/
theorem Sound.outcome_older (h : st.Sound mode) {done : Completion}
    (ht : st.outcomeOf t = some done) : t.serial < st.nextTicket.serial := by
  obtain ⟨x, hx, -⟩ := Option.map_eq_some_iff.mp ht
  have hkey : x.1 = t := by simpa using List.find?_some hx
  exact hkey ▸ h.finished_older x (List.mem_of_find?_eq_some hx)

theorem waits_park {job : Job} (h : (st.park job).2.Waits t) : st.Waits t ∨ t = st.nextTicket := by
  unfold Waits Holds MemoryStore.park at h
  simpa [Waits, Holds] using h

/-- A transfer that is handed in has the next ticket. -/
theorem Sound.park (h : st.Sound mode) (job : Job) : (st.park job).2.Sound mode := by
  have hfresh : st.outcomeOf st.nextTicket = none := by
    rcases hf : st.outcomeOf st.nextTicket with _ | done
    · rfl
    · exact absurd (h.outcome_older hf) (Nat.lt_irrefl _)
  refine ⟨h.delivery, h.apart, h.given, h.quiet, ?_, ?_, ?_, ?_⟩
  · show ((st.parked ++ [(st.nextTicket, job)]).map (·.1)).Nodup
    rw [List.map_append, List.nodup_append]
    refine ⟨h.once, List.nodup_singleton _, ?_⟩
    intro t ht last hlast he
    rw [he, List.mem_singleton.mp hlast] at ht
    exact absurd (h.waits_older _ ht) (Nat.lt_irrefl _)
  · intro t hw
    rcases waits_park hw with hw | rfl
    · exact h.unfinished t hw
    · exact hfresh
  · intro t hw
    rcases waits_park hw with hw | rfl
    · exact Nat.lt_succ_of_lt (h.waits_older t hw)
    · exact Nat.lt_succ_self _
  · exact fun x hx => Nat.lt_succ_of_lt (h.finished_older x hx)

/-- A transfer that leaves the queue. -/
theorem Sound.unpark (h : st.Sound mode) {rest : List (Ticket × Job)}
    (hrest : rest.Sublist st.parked) : ({ st with parked := rest } : MemoryStore).Sound mode := by
  have hwaits : ∀ t, Holds t rest → st.Waits t := fun t => ((hrest.map _).subset ·)
  exact ⟨h.delivery, h.apart, h.given, h.quiet, (hrest.map _).nodup h.once,
    fun t hw => h.unfinished t (hwaits t hw), fun t hw => h.waits_older t (hwaits t hw),
    h.finished_older⟩

theorem outcomeOf_keep (st : MemoryStore) {t t' : Ticket} (c : Completion) (hne : t' ≠ t) :
    (st.keep t c).outcomeOf t' = st.outcomeOf t' := by
  unfold outcomeOf keep
  dsimp only
  rw [List.find?_append, List.find?_singleton]
  have hmiss : decide (t = t') = false := decide_eq_false hne.symm
  rw [hmiss]
  simp

theorem outcomeOf_keep_self (hnone : st.outcomeOf t = none) (c : Completion) :
    (st.keep t c).outcomeOf t = some c := by
  refine find_completion fun x hx he => ?_
  have hmiss := List.find?_eq_none.mp (Option.map_eq_none_iff.mp hnone) x hx
  exact hmiss (decide_eq_true he)

/-- What came of a transfer is kept for its owner. -/
theorem Sound.keep (h : st.Sound mode) (c : Completion) (ht : t.serial < st.nextTicket.serial)
    (hnot : ¬ st.Waits t) : (st.keep t c).Sound mode := by
  refine ⟨h.delivery, h.apart, h.given, h.quiet, h.once, ?_, h.waits_older, ?_⟩
  · intro t' hw
    rw [outcomeOf_keep st c fun he : t' = t => hnot (he ▸ hw)]
    exact h.unfinished t' hw
  · intro x hx
    rcases List.mem_append.mp hx with hx | hx
    · exact h.finished_older x hx
    · rw [List.mem_singleton.mp hx]
      exact ht

/-- What came of a transfer is handed to its owner. -/
def handOver (st : MemoryStore) (t : Ticket) : MemoryStore :=
  { st with finished := st.finished.filter (·.1 ≠ t) }

theorem outcomeOf_handOver (st : MemoryStore) {t t' : Ticket} (hne : t' ≠ t) :
    (st.handOver t).outcomeOf t' = st.outcomeOf t' := by
  unfold outcomeOf handOver
  rw [List.find?_filter]
  congr 2
  funext x
  by_cases hx : x.1 = t'
  · simp [hx, hne]
  · simp [hx]

theorem Sound.handOver (h : st.Sound mode) (hnot : ¬ st.Waits t) :
    (st.handOver t).Sound mode := by
  refine ⟨h.delivery, h.apart, h.given, h.quiet, h.once, ?_, h.waits_older, ?_⟩
  · intro t' hw
    rw [outcomeOf_handOver st fun he : t' = t => hnot (he ▸ hw)]
    exact h.unfinished t' hw
  · exact fun x hx => h.finished_older x (List.mem_of_mem_filter hx)

/-- The transfer of a ticket stands in the queue once. -/
theorem Sound.split (h : st.Sound mode) {job : Job} (hmem : (t, job) ∈ st.parked) :
    ∃ before after, st.parked = before ++ (t, job) :: after ∧
      ∀ x ∈ before ++ after, x.1 ≠ t := by
  obtain ⟨before, after, hjobs⟩ := List.append_of_mem hmem
  refine ⟨before, after, hjobs, ?_⟩
  have honce := h.once
  rw [hjobs, List.map_append, List.map_cons, List.nodup_middle, ← List.map_append] at honce
  rintro x hx rfl
  exact (List.nodup_cons.mp honce).1 (List.mem_map.mpr ⟨x, hx, rfl⟩)

/-- Of one ticket there is one transfer. -/
theorem Sound.job_eq (h : st.Sound mode) {job job' : Job} (hx : (t, job) ∈ st.parked)
    (hx' : (t, job') ∈ st.parked) : job = job' := by
  have hinj := List.inj_on_of_nodup_map h.once hx hx' rfl
  exact (Prod.mk.inj hinj).2

/-! ## What stands behind one file -/

/-- What a descriptor has out, when its object had the bytes `b` as the transfer was
handed in and has the bytes `now`. -/
inductive Outstanding (st : MemoryStore) (fd : Fd) (access : Access) (b now : Bytes) :
    Option Errand → Option Ticket → Prop where
  | nothing : now = b → Outstanding st fd access b now none none
  | parked {errand : Errand} {t : Ticket} : now = b → (t, errand.job fd) ∈ st.parked →
      Outstanding st fd access b now (some errand) (some t)
  | ran {errand : Errand} {t : Ticket} : now = (Cell.outcome access b errand).2 →
      st.delivery = .deferred → st.outcomeOf t = some (Cell.outcome access b errand).1 →
      Outstanding st fd access b now (some errand) (some t)

/-- A descriptor is open on the object of a name. -/
structure OpenOn (st : MemoryStore) (path : String) (fd : Fd) (o : ObjectId) (access : Access)
    (b : Bytes) (errand : Option Errand) (ticket : Option Ticket) : Prop where
  name : st.names.find? path = some o
  handle : st.handles.find? fd = some ⟨o, access⟩
  number : fd.number < st.nextFd.number
  out : st.Outstanding fd access b (st.content o).toBytes errand ticket

/-- The object is as it was while what is out has still to run. -/
theorem OpenOn.now_eq {access : Access} {b : Bytes} {errand : Option Errand}
    {ticket : Option Ticket} {path : String} (h : st.OpenOn path fd o access b errand ticket)
    (hsound : st.Sound mode) (hwaits : ∀ t, ticket = some t → st.Waits t) :
    (st.content o).toBytes = b := by
  cases h.out with
  | nothing hnow => exact hnow
  | parked hnow _ => exact hnow
  | ran _ _ ho =>
    rw [hsound.unfinished _ (hwaits _ rfl)] at ho
    cases ho

/-- There is a ticket for what is out. -/
theorem OpenOn.errand_none {access : Access} {b : Bytes} {errand : Option Errand} {path : String}
    (h : st.OpenOn path fd o access b errand none) : errand = none := by
  cases h.out with
  | nothing _ => rfl

theorem OpenOn.errand_some {access : Access} {b : Bytes} {errand : Option Errand} {path : String}
    (h : st.OpenOn path fd o access b errand (some t)) : ∃ e, errand = some e := by
  cases h.out with
  | parked _ _ => exact ⟨_, rfl⟩
  | ran _ _ _ => exact ⟨_, rfl⟩

/-- What has still to run is out as before when the object alone has changed. -/
theorem OpenOn.still_out {access : Access} {b b' : Bytes} {errand : Option Errand}
    {ticket : Option Ticket} {path : String} (h : st.OpenOn path fd o access b errand ticket)
    (hsound : st.Sound mode) (hwaits : ∀ t, ticket = some t → st.Waits t)
    (hparked : st'.parked = st.parked) (hnow : (st'.content o).toBytes = b') :
    st'.Outstanding fd access b' (st'.content o).toBytes errand ticket := by
  cases h.out with
  | nothing _ => exact .nothing hnow
  | parked _ hmem => exact .parked hnow (hparked ▸ hmem)
  | ran _ _ ho =>
    rw [hsound.unfinished _ (hwaits _ rfl)] at ho
    cases ho

end MemoryStore

/-- What a store of its own would hold for a file, and the numbers under which the
store in memory knows the file. -/
structure Seat where
  cell : Cell := {}
  fd : Option Fd := none
  ticket : Option Ticket := none

open MemoryStore

variable {mode : Delivery} {st st' : MemoryStore} {path : String} {s : Seat}

/-- The store has for this name what the seat says. -/
inductive Seat.Held (path : String) (st : MemoryStore) : Seat → Prop where
  | missing : st.names.find? path = none → Held path st {}
  | shut {o : ObjectId} {b : Bytes} : st.names.find? path = some o →
      (st.content o).toBytes = b → Held path st ⟨⟨some b, none, none⟩, none, none⟩
  | opened {fd : Fd} {o : ObjectId} {access : Access} {b : Bytes} {errand : Option Errand}
      {ticket : Option Ticket} : st.OpenOn path fd o access b errand ticket →
      Held path st ⟨⟨some b, some access, errand⟩, some fd, ticket⟩

/-- All that a seat has in the store is left as it is. -/
structure Seat.Spared (path : String) (s : Seat) (st st' : MemoryStore) : Prop where
  name : st'.names.find? path = st.names.find? path
  content : ∀ o, st.names.find? path = some o → st'.content o = st.content o
  handle : ∀ fd, s.fd = some fd → st'.handles.find? fd = st.handles.find? fd
  number : st.nextFd.number ≤ st'.nextFd.number
  parked : ∀ t, s.ticket = some t → ∀ job, (t, job) ∈ st.parked → (t, job) ∈ st'.parked
  outcome : ∀ t, s.ticket = some t → st'.outcomeOf t = st.outcomeOf t
  delivery : st'.delivery = st.delivery

theorem Seat.Held.spared (h : s.Held path st) (hs : s.Spared path st st') : s.Held path st' := by
  cases h with
  | missing hname => exact .missing (hs.name.trans hname)
  | shut hname hb => exact .shut (hs.name.trans hname) (by rw [hs.content _ hname, hb])
  | @opened fd o access b errand ticket h =>
    obtain ⟨hname, hhandle, hnumber, hout⟩ := h
    refine .opened ⟨hs.name.trans hname, (hs.handle fd rfl).trans hhandle,
      Int.lt_of_lt_of_le hnumber hs.number, ?_⟩
    rw [hs.content _ hname]
    cases hout with
    | nothing hnow => exact .nothing hnow
    | parked hnow hmem => exact .parked hnow (hs.parked _ rfl _ hmem)
    | ran hnow hd houtcome =>
      exact .ran hnow (hs.delivery.trans hd) ((hs.outcome _ rfl).trans houtcome)

theorem Seat.Spared.keep {t : Ticket} (h : s.Spared path st st') (c : Completion)
    (hne : s.ticket ≠ some t) : s.Spared path st (st'.keep t c) :=
  ⟨h.name, h.content, h.handle, h.number, h.parked, fun t' ht' =>
    (outcomeOf_keep st' c fun he : t' = t => hne (he ▸ ht')).trans (h.outcome t' ht'), h.delivery⟩

theorem Seat.Spared.handOver {t : Ticket} (h : s.Spared path st st') (hne : s.ticket ≠ some t) :
    s.Spared path st (st'.handOver t) :=
  ⟨h.name, h.content, h.handle, h.number, h.parked, fun t' ht' =>
    (outcomeOf_handOver st' fun he : t' = t => hne (he ▸ ht')).trans (h.outcome t' ht'), h.delivery⟩

theorem Seat.Spared.refl (path : String) (s : Seat) (st : MemoryStore) : s.Spared path st st :=
  ⟨rfl, fun _ _ => rfl, fun _ _ => rfl, Int.le_refl _, fun _ _ _ hmem => hmem, fun _ _ => rfl, rfl⟩

/-- A descriptor comes with its object. -/
theorem Seat.Held.open {cell : Cell} {fd : Fd} {ticket : Option Ticket}
    (h : Seat.Held path st ⟨cell, some fd, ticket⟩) :
    ∃ o access b errand, cell = ⟨some b, some access, errand⟩ ∧
      st.OpenOn path fd o access b errand ticket := by
  cases h with
  | opened h => exact ⟨_, _, _, _, rfl, h⟩

/-- What is out is parked or has run. -/
theorem Seat.Held.transfer {t : Ticket} (h : s.Held path st) (ht : s.ticket = some t) :
    ∃ fd o access b errand, s = ⟨⟨some b, some access, some errand⟩, some fd, some t⟩ ∧
      st.OpenOn path fd o access b (some errand) (some t) := by
  cases h with
  | missing _ => cases ht
  | shut _ _ => cases ht
  | @opened fd o access b errand ticket h =>
    obtain rfl : ticket = some t := ht
    obtain ⟨hname, hhandle, hnumber, hout⟩ := h
    cases hout with
    | parked hnow hmem => exact ⟨_, _, _, _, _, rfl, hname, hhandle, hnumber, .parked hnow hmem⟩
    | ran hnow hd ho => exact ⟨_, _, _, _, _, rfl, hname, hhandle, hnumber, .ran hnow hd ho⟩

/-- Its ticket was handed out before. -/
theorem Seat.Held.ticket_older {t : Ticket} (h : s.Held path st) (hsound : st.Sound mode)
    (ht : s.ticket = some t) : t.serial < st.nextTicket.serial := by
  obtain ⟨_, _, _, _, _, -, hopen⟩ := h.transfer ht
  cases hopen.out with
  | parked _ hmem => exact hsound.waits_older t (List.mem_map_of_mem hmem)
  | ran _ _ ho => exact hsound.outcome_older ho

/-- What stands under the name is what the cell holds, while nothing has run that the
cell does not know of. -/
theorem Seat.Held.object? (h : s.Held path st) (hsound : st.Sound mode)
    (hwaits : ∀ t, s.ticket = some t → st.Waits t) : st.object? path = s.cell.content := by
  unfold MemoryStore.object?
  cases h with
  | missing hname => rw [hname]; rfl
  | shut hname hb => rw [hname, ← hb]; rfl
  | @opened fd o access b errand ticket h =>
    rw [h.name]
    exact congrArg some (h.now_eq hsound fun t ht => hwaits t ht)

/-! ## All the files -/

/-- The store has for each name what the seat there says, and nothing else is parked. -/
structure Seated {ι : Type} (mode : Delivery) (paths : ι → String) (seats : ι → Seat)
    (st : MemoryStore) : Prop where
  sound : st.Sound mode
  distinct : Function.Injective paths
  held : ∀ i, (seats i).Held (paths i) st
  tickets : ∀ i j t, (seats i).ticket = some t → (seats j).ticket = some t → i = j
  owned : ∀ t, st.Waits t → ∃ i, (seats i).ticket = some t

namespace Seated

variable {ι : Type} {paths : ι → String} {seats : ι → Seat} {i j : ι} {o : ObjectId} {fd : Fd}
  {t : Ticket}

/-- Each file has an object of its own. -/
theorem object_ne (h : Seated mode paths seats st) (hname : st.names.find? (paths i) = some o)
    (hne : j ≠ i) {p : ObjectId} (hp : st.names.find? (paths j) = some p) : p ≠ o := by
  rintro rfl
  exact hne (h.distinct (h.sound.apart _ _ _ hp hname))

/-- And a descriptor of its own. -/
theorem fd_ne (h : Seated mode paths seats st) {access : Access}
    (hname : st.names.find? (paths i) = some o) (hhandle : st.handles.find? fd = some ⟨o, access⟩)
    (hne : j ≠ i) {g : Fd} (hg : (seats j).fd = some g) : g ≠ fd := by
  rintro rfl
  have hheld := h.held j
  generalize hs : seats j = s at hheld hg
  cases hheld with
  | missing _ => cases hg
  | shut _ _ => cases hg
  | opened hopen =>
    obtain rfl : _ = g := Option.some.inj hg
    have he := hopen.handle
    rw [hhandle] at he
    cases he
    exact h.object_ne hname hne hopen.name rfl

/-- No seat has a descriptor that was not given out. -/
theorem fd_ne_next (h : Seated mode paths seats st) {g : Fd} (hg : (seats j).fd = some g) :
    g ≠ st.nextFd := by
  rintro rfl
  have hheld := h.held j
  generalize hs : seats j = s at hheld hg
  cases hheld with
  | missing _ => cases hg
  | shut _ _ => cases hg
  | opened hopen =>
    have hnumber := hopen.number
    rw [Option.some.inj hg] at hnumber
    exact absurd hnumber (Int.lt_irrefl _)

variable [DecidableEq ι] {s s' : Seat}

/-- One seat changes, and the store with it, and the others are spared. -/
theorem put (h : Seated mode paths (Function.update seats i s) st) (hsound : st'.Sound mode)
    (hheld : s'.Held (paths i) st')
    (hspared : ∀ j, j ≠ i → (seats j).Spared (paths j) st st')
    (hfresh : ∀ t, s'.ticket = some t → ∀ j, j ≠ i → (seats j).ticket ≠ some t)
    (howned : ∀ t, st'.Waits t → s'.ticket = some t ∨ st.Waits t ∧ s.ticket ≠ some t) :
    Seated mode paths (Function.update seats i s') st' := by
  have hself : ∀ s : Seat, Function.update seats i s i = s := fun s => Function.update_self ..
  have hother : ∀ (s : Seat) {j}, j ≠ i → Function.update seats i s j = seats j :=
    fun s j hne => Function.update_of_ne hne ..
  refine ⟨hsound, h.distinct, ?_, ?_, ?_⟩
  · intro j
    by_cases hj : j = i
    · subst hj
      rw [hself]
      exact hheld
    · rw [hother s' hj]
      have hheld' := h.held j
      rw [hother s hj] at hheld'
      exact hheld'.spared (hspared j hj)
  · intro j k t hj hk
    by_cases hji : j = i
    · subst hji
      rw [hself] at hj
      by_cases hki : k = j
      · exact hki.symm
      · rw [hother s' hki] at hk
        exact absurd hk (hfresh t hj k hki)
    · rw [hother s' hji] at hj
      by_cases hki : k = i
      · subst hki
        rw [hself] at hk
        exact absurd hj (hfresh t hk j hji)
      · rw [hother s' hki] at hk
        refine h.tickets j k t ?_ ?_
        · rw [hother s hji]
          exact hj
        · rw [hother s hki]
          exact hk
  · intro t hw
    rcases howned t hw with ht | ⟨hw, hnot⟩
    · refine ⟨i, ?_⟩
      rw [hself]
      exact ht
    · obtain ⟨j, hj⟩ := h.owned t hw
      by_cases hji : j = i
      · subst hji
        rw [hself] at hj
        exact absurd hj hnot
      · rw [hother s hji] at hj
        refine ⟨j, ?_⟩
        rw [hother s' hji]
        exact hj

/-- The seat of a file. -/
theorem seat (h : Seated mode paths (Function.update seats i s) st) : s.Held (paths i) st := by
  have hheld := h.held i
  rwa [Function.update_self] at hheld

/-- No other file has its ticket. -/
theorem ticket_ne (h : Seated mode paths (Function.update seats i s) st) (ht : s.ticket = some t)
    (hne : j ≠ i) : (seats j).ticket ≠ some t := by
  intro hj
  refine hne (h.tickets j i t ?_ ?_)
  · rw [Function.update_of_ne hne]
    exact hj
  · rw [Function.update_self]
    exact ht

/-- What one file does to its object and takes from the queue spares the others. -/
theorem spared (h : Seated mode paths (Function.update seats i s) st)
    (hname : st.names.find? (paths i) = some o) {rest : List (Ticket × Job)}
    (hrest : ∀ x ∈ st.parked, s.ticket ≠ some x.1 → x ∈ rest)
    (hsame : SameBut o { st with parked := rest } st') (hne : j ≠ i) :
    (seats j).Spared (paths j) st st' := by
  refine ⟨hsame.names ▸ rfl, ?_, fun _ _ => hsame.handles ▸ rfl, hsame.nextFd ▸ Int.le_refl _, ?_,
    ?_, hsame.delivery⟩
  · exact fun p hp => hsame.content p (h.object_ne hname hne hp)
  · intro t ht job hmem
    rw [hsame.parked]
    exact hrest _ hmem fun hs => h.ticket_ne hs hne ht
  · intro t ht
    unfold outcomeOf
    rw [hsame.finished]

/-- A change of the object of one file. -/
theorem touch {access : Access} {b b' : Bytes} {errand : Option Errand} {ticket : Option Ticket}
    (h : Seated mode paths (Function.update seats i ⟨⟨some b, some access, errand⟩, some fd, ticket⟩)
      st)
    (hopen : st.OpenOn (paths i) fd o access b errand ticket) (hsame : SameBut o st st')
    (hout : st'.Outstanding fd access b' (st'.content o).toBytes errand ticket) :
    Seated mode paths
      (Function.update seats i ⟨⟨some b', some access, errand⟩, some fd, ticket⟩) st' := by
  refine h.put (h.sound.of_sameBut hsame) (.opened ⟨hsame.names ▸ hopen.name,
    hsame.handles ▸ hopen.handle, hsame.nextFd ▸ hopen.number, hout⟩) ?_
    (fun t ht j hj => h.ticket_ne ht hj) ?_
  · exact fun j hj => h.spared hopen.name (fun _ hx _ => hx) hsame hj
  · intro t hw
    unfold Waits at hw
    rw [hsame.parked] at hw
    by_cases ht : ticket = some t
    · exact .inl ht
    · exact .inr ⟨hw, ht⟩

end Seated

/-- Over a shelf no file has anything open. -/
theorem MemoryStore.Shelf.seated {ι : Type} {paths : ι → String} {objects : String → Option Bytes}
    {next : Fd} (h : st.Shelf objects next) (hpaths : Function.Injective paths) :
    Seated st.delivery paths (fun i => ⟨{ content := objects (paths i) }, none, none⟩) st := by
  have hnone : ∀ t, ¬ st.Waits t := by
    intro t hw
    unfold Waits at hw
    rw [h.parked] at hw
    cases hw
  have hsound : st.Sound st.delivery :=
    ⟨rfl, h.apart, h.given, h.quiet, by rw [h.parked]; exact List.nodup_nil,
      fun t hw => absurd hw (hnone t), fun t hw => absurd hw (hnone t),
      fun x hx => by rw [h.finished] at hx; cases hx⟩
  refine ⟨hsound, hpaths, ?_, fun i j t hi => (by cases hi), fun t hw => absurd hw (hnone t)⟩
  intro i
  rcases hobject : objects (paths i) with _ | b
  · exact .missing (h.find?_of_none hobject)
  · obtain ⟨o, hname, hb⟩ := h.find?_of_some hobject
    exact .shut hname hb

end StagedFiles
