-- Transfers that a store in memory defers. Whatever is done with the store, also from
-- inside completions, each transfer that was taken in runs once, in order, in the first
-- run of what is parked that starts after it was taken in. It acts on the object that
-- its descriptor denoted when it was handed in, or comes to an error when the descriptor
-- was closed since.
import Mathlib.Data.List.Forall2
import Mathlib.Data.List.Nodup
import StagedFiles.Proofs.StoreActs

namespace StagedFiles

/-! ## What an act does to the desk and to the handles -/

namespace StoreAct.Effect

variable {st st' : MemoryStore} {a : StoreAct} {answer : StoreAnswer}

/-- One transfer more is parked under the next ticket, or all stays. -/
theorem desk (h : a.Effect st answer st') :
    (∃ job handle, a.job? = some job ∧ answer = .ticket (.ok st.nextTicket) ∧
        st.handles.find? job.fd = some handle ∧
        st'.parked = st.parked ++ [(st.nextTicket, job)] ∧
        st'.nextTicket.serial = st.nextTicket.serial + 1) ∨
      ((∀ ticket, answer ≠ .ticket (.ok ticket)) ∧ st'.parked = st.parked ∧
        st'.nextTicket = st.nextTicket) := by
  cases h with
  | accepted hjob hh => exact .inl ⟨_, _, hjob, rfl, hh, rfl, rfl⟩
  | failed hfailed _ =>
    refine .inr ⟨?_, rfl, rfl⟩
    rintro ticket rfl
    exact hfailed
  | @opened path access o _ =>
    refine .inr ⟨by simp, ?_⟩
    unfold MemoryStore.emptied
    split
    · exact ⟨rfl, rfl⟩
    · exact ⟨rfl, rfl⟩
  | _ => exact .inr ⟨by simp, rfl, rfl⟩

/-- A close takes a handle away, an open puts one under the next number, and else all
handles stay. -/
theorem handles (h : a.Effect st answer st') :
    (∃ fd, a = .close fd ∧ st'.handles = st.handles.erase fd ∧ st'.nextFd = st.nextFd) ∨
      ((∀ fd, a ≠ .close fd) ∧
        ((∃ handle, st'.handles = st.handles.insert st.nextFd handle ∧
            st'.nextFd = st.nextFd.next) ∨
          (st'.handles = st.handles ∧ st'.nextFd = st.nextFd))) := by
  cases h with
  | closed => exact .inl ⟨_, rfl, rfl, rfl⟩
  | failed _ hclose => exact .inr ⟨hclose, .inr ⟨rfl, rfl⟩⟩
  | @opened path access o _ =>
    refine .inr ⟨by simp, .inl ⟨⟨o, access⟩, ?_⟩⟩
    unfold MemoryStore.emptied
    split
    · exact ⟨rfl, rfl⟩
    · exact ⟨rfl, rfl⟩
  | created _ => exact .inr ⟨by simp, .inl ⟨_, rfl, rfl⟩⟩
  | accepted hjob _ =>
    refine .inr ⟨?_, .inr ⟨rfl, rfl⟩⟩
    rintro fd rfl
    cases hjob
  | _ => exact .inr ⟨by simp, .inr ⟨rfl, rfl⟩⟩

end StoreAct.Effect

/-! ## Transfers that are handed in, and transfers that ran -/

/-- A transfer that a store took in, and what its descriptor denoted then. -/
structure Slip where
  ticket : Ticket
  job : Job
  handle : Option Handle

/-- A transfer that ran, with the store right before and right after. -/
structure Receipt where
  ticket : Ticket
  job : Job
  completion : Completion
  before : MemoryStore
  after : MemoryStore
  /-- Its descriptor had been closed. -/
  late : Bool

def Slip.entry (s : Slip) : Ticket × Job := (s.ticket, s.job)

def Receipt.entry (r : Receipt) : Ticket × Job := (r.ticket, r.job)

/-- A transfer comes to an error: it was told to fail, or its descriptor is not open, or
not for this. -/
inductive Refusal (st : MemoryStore) : Job → Completion → Prop where
  | readFault {fd : Fd} {offset len : Nat} {errno : Int} {fault : Fault} :
      st.faults.reads.take = (some errno, fault) →
      Refusal st (.read fd offset len) (.bytes (.error (.refused .reading errno)))
  | writeFault {fd : Fd} {offset : Nat} {data : Bytes} {errno : Int} {fault : Fault} :
      st.faults.writes.take = (some errno, fault) →
      Refusal st (.write fd offset data) (.count (.error (.refused .writing errno)))
  | unread {fd : Fd} {offset len : Nat} :
      (∀ h, st.handles.find? fd = some h → h.access.read = false) →
      Refusal st (.read fd offset len) (.bytes (.error (.badDescriptor .reading)))
  | unwritten {fd : Fd} {offset : Nat} {data : Bytes} :
      (∀ h, st.handles.find? fd = some h → h.access.write = false) →
      Refusal st (.write fd offset data) (.count (.error (.badDescriptor .writing)))

/-- A transfer that came to an error changed nothing: it used up a fault at most. -/
structure Receipt.Refused (r : Receipt) : Prop where
  error : Refusal r.before r.job r.completion
  same : ∃ faults, r.after = { r.before with faults := faults }

/-- A transfer acted on an object and on no other. -/
inductive Receipt.Acted (r : Receipt) (o : ObjectId) : Prop where
  | read {fd : Fd} {offset len : Nat} : r.job = .read fd offset len →
      r.completion = .bytes (.ok ((r.before.content o).slice offset len)) → r.after = r.before →
      Acted r o
  | wrote {fd : Fd} {offset : Nat} {data : Bytes} : r.job = .write fd offset data →
      r.completion = .count (.ok data.length) →
      r.after.content o = (r.before.content o).overlay offset data →
      (∀ p, p ≠ o → r.after.content p = r.before.content p) → Acted r o

/-- A transfer ran as it was handed in. When its descriptor was not closed since, it acted
on the object that the descriptor denoted then, or it was refused; otherwise it was refused. -/
structure Receipt.Settles (r : Receipt) (s : Slip) : Prop where
  entry : r.entry = s.entry
  outcome : ∃ h, s.handle = some h ∧
    if r.late = true then r.before.handles.find? r.job.fd = none ∧ r.Refused
    else r.before.handles.find? r.job.fd = some h ∧ (r.Refused ∨ r.Acted h.object)

/-! ## Trays -/

/-- A store in memory, with all that was taken in and all that ran. -/
structure Tray where
  store : MemoryStore
  /-- What was taken in, oldest first. -/
  accepted : List Slip := []
  /-- What ran, oldest first. -/
  ran : List Receipt := []
  /-- The descriptors that were open and were closed. -/
  closed : List Fd := []

/-- What the owner of a transfer does when it is over. -/
abbrev Reaction := Ticket → Completion → MemoryStore → List StoreAct

/-- The acts of a reaction, on the store. -/
def Reaction.on (react : Reaction) (ticket : Ticket) (c : Completion) (st : MemoryStore) :
    MemoryStore :=
  (react ticket c st).foldl (fun st a => (a.on st).2) st

namespace Tray

/-- What an act hands in, when it is taken. -/
def slip? (w : Tray) (a : StoreAct) : Option Slip :=
  match a.job?, (a.on w.store).1 with
  | some job, .ticket (.ok ticket) => some ⟨ticket, job, w.store.handles.find? job.fd⟩
  | _, _ => none

/-- What is closed after an act. -/
def closedBy (w : Tray) : StoreAct → List Fd
  | .close fd => if w.store.handles.contains fd then fd :: w.closed else w.closed
  | _ => w.closed

def act (w : Tray) (a : StoreAct) : Tray :=
  { w with
    store := (a.on w.store).2
    accepted := w.accepted ++ (w.slip? a).toList
    closed := w.closedBy a }

def acts (w : Tray) (as : List StoreAct) : Tray := as.foldl act w

/-- How a transfer comes out that runs now. -/
def receipt (w : Tray) (e : Ticket × Job) : Receipt :=
  { ticket := e.1
    job := e.2
    completion := (w.store.perform e.2).1
    before := w.store
    after := (w.store.perform e.2).2
    late := decide (e.2.fd ∈ w.closed) }

def perform (w : Tray) (e : Ticket × Job) : Tray :=
  { w with store := (w.receipt e).after, ran := w.ran ++ [w.receipt e] }

/-- A transfer runs, and its owner reacts. -/
def serve (react : Reaction) (w : Tray) (e : Ticket × Job) : Tray :=
  (w.perform e).acts (react e.1 (w.receipt e).completion (w.receipt e).after)

/-- All that is parked at this moment runs. The answer is how many ran. -/
def run (react : Reaction) (w : Tray) : Nat × Tray :=
  (w.store.parked.length,
    w.store.parked.foldl (serve react) { w with store := { w.store with parked := [] } })

/-- What happens to a tray. -/
inductive Move where
  | act (a : StoreAct)
  | run (react : Reaction)

def after (w : Tray) : Move → Tray
  | .act a => w.act a
  | .run react => (w.run react).2

def through (w : Tray) (moves : List Move) : Tray := moves.foldl after w

variable {w : Tray} {react : Reaction} {due : List (Ticket × Job)}

/-! ## The store of a tray -/

theorem store_acts (as : List StoreAct) (w : Tray) :
    (w.acts as).store = as.foldl (fun st a => (a.on st).2) w.store := by
  induction as generalizing w with
  | nil => rfl
  | cons a as ih => exact ih (w.act a)

theorem store_serveAll (jobs : List (Ticket × Job)) (w : Tray) :
    (jobs.foldl (serve react) w).store = MemoryStore.performAll react.on jobs w.store := by
  induction jobs generalizing w with
  | nil => rfl
  | cons e es ih =>
    have hone : (w.serve react e).store =
        react.on e.1 (w.store.perform e.2).1 (w.store.perform e.2).2 := store_acts _ _
    rw [List.foldl_cons, ih, hone]
    rfl

/-- A run does to the store what the store does. -/
theorem store_run (w : Tray) (react : Reaction) :
    ((w.run react).1, (w.run react).2.store) = w.store.runParkedWith react.on :=
  Prod.ext rfl (store_serveAll w.store.parked _)

/-! ## Descriptors -/

/-- Descriptors that were not given out are not open, and those that were closed are gone. -/
structure Tracked (w : Tray) : Prop where
  unopened : ∀ fd, w.store.nextFd.number ≤ fd.number → w.store.handles.find? fd = none
  gone : ∀ fd ∈ w.closed, w.store.handles.find? fd = none ∧ fd.number < w.store.nextFd.number

/-- The descriptor was opened on this, and denotes it unless it was closed. -/
structure Denotes (w : Tray) (fd : Fd) (h : Handle) : Prop where
  given : fd.number < w.store.nextFd.number
  still : w.store.handles.find? fd = if fd ∈ w.closed then none else some h

/-- A descriptor that is open denotes what it is open on. -/
theorem Tracked.denotes (htracked : w.Tracked) {fd : Fd} {h : Handle}
    (hfd : w.store.handles.find? fd = some h) : w.Denotes fd h := by
  refine ⟨?_, ?_⟩
  · by_contra hnew
    rw [htracked.unopened fd (Int.not_lt.mp hnew)] at hfd
    cases hfd
  · rw [if_neg, hfd]
    intro hclosed
    rw [(htracked.gone fd hclosed).1] at hfd
    cases hfd

/-- What an act does to the handles, the desk and the numbers is its effect. -/
theorem act_effect (w : Tray) (a : StoreAct) :
    ∃ st', a.Effect w.store (a.on w.store).1 st' ∧ (w.act a).store.handles = st'.handles ∧
      (w.act a).store.nextFd = st'.nextFd ∧ (w.act a).store.parked = st'.parked ∧
      (w.act a).store.nextTicket = st'.nextTicket := by
  obtain ⟨st', counts, faults, heffect, hst⟩ := a.effect w.store
  have hstore : (w.act a).store = st'.charged counts faults := hst
  rw [hstore]
  exact ⟨st', heffect, rfl, rfl, rfl, rfl⟩

theorem closedBy_of_ne {a : StoreAct} (hclose : ∀ fd, a ≠ .close fd) :
    w.closedBy a = w.closed := by
  unfold closedBy
  split
  · exact (hclose _ rfl).elim
  · rfl

theorem mem_closed_close {fd fd' : Fd} :
    fd' ∈ (w.act (.close fd)).closed ↔
      (fd' = fd ∧ w.store.handles.contains fd = true) ∨ fd' ∈ w.closed := by
  show fd' ∈ (if w.store.handles.contains fd then fd :: w.closed else w.closed) ↔ _
  split
  · rename_i hopen
    simp [hopen]
  · rename_i hopen
    simp [hopen]

/-- What an act does to descriptors. -/
inductive Handled (w : Tray) (a : StoreAct) : Prop where
  | closed (fd : Fd) : a = .close fd →
      (w.act a).store.handles = w.store.handles.erase fd →
      (w.act a).store.nextFd = w.store.nextFd → Handled w a
  | opened (h : Handle) : (w.act a).closed = w.closed →
      (w.act a).store.handles = w.store.handles.insert w.store.nextFd h →
      (w.act a).store.nextFd = w.store.nextFd.next → Handled w a
  | same : (w.act a).closed = w.closed → (w.act a).store.handles = w.store.handles →
      (w.act a).store.nextFd = w.store.nextFd → Handled w a

theorem act_handled (w : Tray) (a : StoreAct) : w.Handled a := by
  obtain ⟨st', heffect, hhandles, hnext, -, -⟩ := w.act_effect a
  rcases heffect.handles with ⟨fd, rfl, hh, hn⟩ | ⟨hclose, hopen | hsame⟩
  · exact .closed fd rfl (hhandles.trans hh) (hnext.trans hn)
  · obtain ⟨h, hh, hn⟩ := hopen
    exact .opened h (closedBy_of_ne hclose) (hhandles.trans hh) (hnext.trans hn)
  · exact .same (closedBy_of_ne hclose) (hhandles.trans hsame.1) (hnext.trans hsame.2)

theorem Tracked.act (h : w.Tracked) (a : StoreAct) : (w.act a).Tracked := by
  cases w.act_handled a with
  | closed fd ha hhandles hnext =>
    subst ha
    refine ⟨?_, ?_⟩
    · intro fd' hfd'
      rw [hnext] at hfd'
      rw [hhandles, Table.find?_erase, h.unopened fd' hfd', ite_self]
    · intro fd' hfd'
      rw [hhandles, hnext, Table.find?_erase]
      rcases mem_closed_close.mp hfd' with ⟨rfl, hopen⟩ | hgone
      · obtain ⟨handle, hhandle⟩ := Option.isSome_iff_exists.mp hopen
        exact ⟨if_pos rfl, (h.denotes hhandle).given⟩
      · rw [(h.gone fd' hgone).1, ite_self]
        exact ⟨rfl, (h.gone fd' hgone).2⟩
  | opened handle hclosed hhandles hnext =>
    have hmore : w.store.nextFd.next.number = w.store.nextFd.number + 1 := rfl
    refine ⟨?_, ?_⟩
    · intro fd hfd
      rw [hnext, hmore] at hfd
      have hne : fd ≠ w.store.nextFd := by
        rintro rfl
        omega
      rw [hhandles, Table.find?_insert_of_ne _ _ hne]
      exact h.unopened fd (by omega)
    · intro fd hfd
      rw [hclosed] at hfd
      obtain ⟨hnone, hless⟩ := h.gone fd hfd
      have hne : fd ≠ w.store.nextFd := by
        rintro rfl
        omega
      rw [hhandles, hnext, hmore, Table.find?_insert_of_ne _ _ hne]
      exact ⟨hnone, by omega⟩
  | same hclosed hhandles hnext =>
    refine ⟨?_, ?_⟩
    · rw [hhandles, hnext]
      exact h.unopened
    · rw [hclosed, hhandles, hnext]
      exact h.gone

/-- No act but its close changes what a descriptor denotes. -/
theorem Denotes.act {fd : Fd} {h : Handle} (hd : w.Denotes fd h) (a : StoreAct) :
    (w.act a).Denotes fd h := by
  obtain ⟨hgiven, hstill⟩ := hd
  cases w.act_handled a with
  | closed fd' ha hhandles hnext =>
    subst ha
    refine ⟨hnext ▸ hgiven, ?_⟩
    rw [hhandles, Table.find?_erase, hstill]
    by_cases hfd : fd = fd'
    · subst hfd
      rw [if_pos rfl]
      by_cases hgone : fd ∈ w.closed
      · rw [if_pos (mem_closed_close.mpr (.inr hgone))]
      · rw [if_neg hgone] at hstill
        have hopen : w.store.handles.contains fd = true := by
          unfold Table.contains
          rw [hstill]
          rfl
        rw [if_pos (mem_closed_close.mpr (.inl ⟨rfl, hopen⟩))]
    · rw [if_neg hfd]
      have hsame : fd ∈ (w.act (.close fd')).closed ↔ fd ∈ w.closed := by
        rw [mem_closed_close]
        simp [hfd]
      exact if_congr hsame.symm rfl rfl
  | opened handle hclosed hhandles hnext =>
    have hne : fd ≠ w.store.nextFd := by
      rintro rfl
      omega
    refine ⟨?_, ?_⟩
    · rw [hnext]
      exact Int.lt_trans hgiven (Int.lt_succ _)
    · rw [hhandles, hclosed, Table.find?_insert_of_ne _ _ hne]
      exact hstill
  | same hclosed hhandles hnext =>
    refine ⟨hnext ▸ hgiven, ?_⟩
    rw [hhandles, hclosed]
    exact hstill

/-! ## Order -/

/-- What was taken in ran, is due in this run or is parked, in order. Tickets are numbered
in the order they were given out, a descriptor still denotes what it did when something
was handed in through it, and all that ran was settled as it was handed in. -/
structure Orderly (w : Tray) (due : List (Ticket × Job)) : Prop where
  tracked : w.Tracked
  order : w.accepted.map Slip.entry = w.ran.map Receipt.entry ++ (due ++ w.store.parked)
  serials : w.accepted.map (·.ticket.serial) = List.range w.accepted.length
  next : w.store.nextTicket.serial = w.accepted.length
  denotes : ∀ s ∈ w.accepted, ∃ h, s.handle = some h ∧ w.Denotes s.job.fd h
  settled : List.Forall₂ (fun r s => r.Settles s) w.ran (w.accepted.take w.ran.length)

theorem orderly_fresh (delivery : Delivery) : Orderly { store := { delivery } } [] := by
  refine ⟨⟨fun _ _ => rfl, ?_⟩, rfl, rfl, rfl, ?_, .nil⟩
  · intro fd hfd
    cases hfd
  · intro s hs
    cases hs

/-- An act takes in what it hands in, or it was refused. -/
theorem slip?_cases (w : Tray) (a : StoreAct) :
    (∃ job h, (a.on w.store).1 = .ticket (.ok w.store.nextTicket) ∧
        w.store.handles.find? job.fd = some h ∧
        w.slip? a = some ⟨w.store.nextTicket, job, some h⟩ ∧
        (w.act a).store.parked = w.store.parked ++ [(w.store.nextTicket, job)] ∧
        (w.act a).store.nextTicket.serial = w.store.nextTicket.serial + 1) ∨
      ((∀ ticket, (a.on w.store).1 ≠ .ticket (.ok ticket)) ∧ w.slip? a = none ∧
        (w.act a).store.parked = w.store.parked ∧
        (w.act a).store.nextTicket = w.store.nextTicket) := by
  obtain ⟨st', heffect, -, -, hparked, hnext⟩ := w.act_effect a
  rcases heffect.desk with ⟨job, h, hjob, hanswer, hh, hp, hn⟩ | ⟨hanswer, hp, hn⟩
  · refine .inl ⟨job, h, hanswer, hh, ?_, hparked.trans hp, by rw [hnext, hn]⟩
    unfold slip?
    rw [hjob, hanswer]
    dsimp only
    rw [hh]
  · refine .inr ⟨hanswer, ?_, hparked.trans hp, hnext.trans hn⟩
    unfold slip?
    split
    · rename_i ticket _ hticket
      exact (hanswer ticket hticket).elim
    · rfl

theorem Orderly.act (h : w.Orderly due) (a : StoreAct) : (w.act a).Orderly due := by
  have hran : w.ran.length ≤ w.accepted.length := by
    have hlength := congrArg List.length h.order
    simp only [List.length_map, List.length_append] at hlength
    omega
  rcases w.slip?_cases a with
    ⟨job, handle, -, hh, hslip, hparked, hnext⟩ | ⟨-, hslip, hparked, hnext⟩
  · have haccepted : (w.act a).accepted =
        w.accepted ++ [⟨w.store.nextTicket, job, some handle⟩] := by
      show w.accepted ++ (w.slip? a).toList = _
      rw [hslip]
      rfl
    refine ⟨h.tracked.act a, ?_, ?_, ?_, ?_, ?_⟩
    · rw [haccepted, hparked, List.map_append, h.order]
      simp [Slip.entry, Tray.act]
    · rw [haccepted, List.map_append, h.serials, List.length_append, List.length_singleton,
        List.range_succ]
      simp [h.next]
    · rw [haccepted, hnext, h.next, List.length_append, List.length_singleton]
    · intro s hs
      rw [haccepted] at hs
      rcases List.mem_append.mp hs with hs | hs
      · obtain ⟨g, hg, hd⟩ := h.denotes s hs
        exact ⟨g, hg, hd.act a⟩
      · obtain rfl := List.mem_singleton.mp hs
        exact ⟨handle, rfl, (h.tracked.denotes hh).act a⟩
    · rw [haccepted]
      show List.Forall₂ _ w.ran ((w.accepted ++ _).take w.ran.length)
      rw [List.take_append_of_le_length hran]
      exact h.settled
  · have haccepted : (w.act a).accepted = w.accepted := by
      show w.accepted ++ (w.slip? a).toList = _
      rw [hslip]
      exact List.append_nil _
    refine ⟨h.tracked.act a, ?_, ?_, ?_, ?_, ?_⟩
    · rw [haccepted, hparked]
      exact h.order
    · rw [haccepted]
      exact h.serials
    · rw [haccepted, hnext]
      exact h.next
    · rw [haccepted]
      intro s hs
      obtain ⟨g, hg, hd⟩ := h.denotes s hs
      exact ⟨g, hg, hd.act a⟩
    · rw [haccepted]
      exact h.settled

theorem Orderly.acts (h : w.Orderly due) (as : List StoreAct) : (w.acts as).Orderly due := by
  induction as generalizing w with
  | nil => exact h
  | cons a as ih => exact ih (h.act a)

/-! ## Running -/

/-- A transfer that ran was refused, or it acted on what its descriptor was open on. -/
theorem refused_or_acted {r : Receipt}
    (hout : r.before.Outcome r.job (r.completion, r.after)) :
    r.Refused ∨ ∃ h, r.before.handles.find? r.job.fd = some h ∧ r.Acted h.object := by
  obtain ⟨ticket, job, c, st, st', late⟩ := r
  replace hout : st.Outcome job (c, st') := hout
  cases hout with
  | readFault htake => exact .inl ⟨.readFault htake, _, rfl⟩
  | writeFault htake => exact .inl ⟨.writeFault htake, _, rfl⟩
  | unread hbad => exact .inl ⟨.unread hbad, st.faults, rfl⟩
  | unwritten hbad => exact .inl ⟨.unwritten hbad, st.faults, rfl⟩
  | @read _ _ _ h hh => exact .inr ⟨h, hh, .read rfl rfl rfl⟩
  | @wrote _ _ _ h hh =>
    refine .inr ⟨h, hh, .wrote rfl rfl (MemoryStore.content_setContent_self ..) ?_⟩
    intro p hp
    exact MemoryStore.content_setContent_of_ne st _ hp

/-- A transfer whose descriptor denotes what it was handed in on is settled when it runs. -/
theorem settles_of_denotes {e : Ticket × Job} {s : Slip} {h : Handle} (hentry : s.entry = e)
    (hhandle : s.handle = some h) (hd : w.Denotes s.job.fd h) : (w.receipt e).Settles s := by
  subst hentry
  refine ⟨rfl, h, hhandle, ?_⟩
  have hcame := refused_or_acted (r := w.receipt s.entry) (w.store.perform_outcome s.job)
  have hstill : (w.receipt s.entry).before.handles.find? (w.receipt s.entry).job.fd = _ := hd.still
  have hlate : (w.receipt s.entry).late = true ↔ s.job.fd ∈ w.closed := by
    show decide (s.job.fd ∈ w.closed) = true ↔ _
    exact decide_eq_true_iff
  rw [if_congr hlate rfl rfl]
  by_cases hgone : s.job.fd ∈ w.closed
  · rw [if_pos hgone] at hstill ⊢
    refine ⟨hstill, ?_⟩
    rcases hcame with hrefused | ⟨g, hg, -⟩
    · exact hrefused
    · rw [hstill] at hg
      cases hg
  · rw [if_neg hgone] at hstill ⊢
    refine ⟨hstill, ?_⟩
    rcases hcame with hrefused | ⟨g, hg, hacted⟩
    · exact .inl hrefused
    · rw [hstill] at hg
      cases hg
      exact .inr hacted

/-- The next transfer that is due runs. -/
theorem Orderly.perform {e : Ticket × Job} (h : w.Orderly (e :: due)) :
    (w.perform e).Orderly due := by
  obtain ⟨faults, objects, written, hframe⟩ := MemoryStore.perform_frame w.store e.2
  have hstore : (w.perform e).store = _ := hframe
  have hhandles : (w.perform e).store.handles = w.store.handles := by rw [hstore]
  have hnext : (w.perform e).store.nextFd = w.store.nextFd := by rw [hstore]
  have hdenotes : ∀ fd g, w.Denotes fd g → (w.perform e).Denotes fd g := by
    intro fd g hd
    refine ⟨hnext ▸ hd.given, ?_⟩
    rw [hhandles]
    exact hd.still
  -- what was taken in as this transfer stands behind what ran so far
  obtain ⟨s, hs, hentry⟩ : ∃ s, w.accepted[w.ran.length]? = some s ∧ s.entry = e := by
    have hat := congrArg (·[w.ran.length]?) h.order
    simpa using hat
  have htake : w.accepted.take (w.ran.length + 1) = w.accepted.take w.ran.length ++ [s] := by
    rw [List.take_add_one, hs]
    rfl
  refine ⟨⟨?_, ?_⟩, ?_, h.serials, ?_, ?_, ?_⟩
  · rw [hhandles, hnext]
    exact h.tracked.unopened
  · rw [hhandles, hnext]
    exact h.tracked.gone
  · have hparked : (w.perform e).store.parked = w.store.parked := by rw [hstore]
    rw [hparked]
    show w.accepted.map Slip.entry = (w.ran ++ [w.receipt e]).map Receipt.entry ++ _
    rw [h.order]
    simp [receipt, Receipt.entry]
  · have hticket : (w.perform e).store.nextTicket = w.store.nextTicket := by rw [hstore]
    rw [hticket]
    exact h.next
  · intro s' hs'
    obtain ⟨g, hg, hd⟩ := h.denotes s' hs'
    exact ⟨g, hg, hdenotes _ _ hd⟩
  · show List.Forall₂ _ (w.ran ++ [w.receipt e]) (w.accepted.take (w.ran ++ [w.receipt e]).length)
    rw [List.length_append, List.length_singleton, htake]
    obtain ⟨g, hg, hd⟩ := h.denotes s (List.mem_of_getElem? hs)
    exact List.rel_append h.settled (.cons (settles_of_denotes hentry hg hd) .nil)

theorem Orderly.serve {e : Ticket × Job} (h : w.Orderly (e :: due)) (react : Reaction) :
    (w.serve react e).Orderly due := h.perform.acts _

theorem Orderly.serveAll (h : w.Orderly due) (react : Reaction) :
    (due.foldl (Tray.serve react) w).Orderly [] := by
  induction due generalizing w with
  | nil => exact h
  | cons e es ih => exact ih (h.serve react)

theorem Orderly.run (h : w.Orderly []) (react : Reaction) : (w.run react).2.Orderly [] := by
  have hstart : Orderly { w with store := { w.store with parked := [] } } w.store.parked := by
    refine ⟨⟨h.tracked.unopened, h.tracked.gone⟩, ?_, h.serials, h.next, ?_, h.settled⟩
    · show w.accepted.map Slip.entry = w.ran.map Receipt.entry ++ (w.store.parked ++ [])
      rw [List.append_nil]
      exact h.order
    · intro s hs
      obtain ⟨g, hg, hd⟩ := h.denotes s hs
      exact ⟨g, hg, hd.given, hd.still⟩
  exact hstart.serveAll react

theorem Orderly.through (h : w.Orderly []) (moves : List Move) : (w.through moves).Orderly [] := by
  induction moves generalizing w with
  | nil => exact h
  | cons move moves ih =>
    cases move with
    | act a => exact ih (h.act a)
    | run react => exact ih (h.run react)

/-! ## What a run adds -/

theorem ran_acts (as : List StoreAct) (w : Tray) : (w.acts as).ran = w.ran := by
  induction as generalizing w with
  | nil => rfl
  | cons a as ih => exact ih (w.act a)

theorem accepted_acts (as : List StoreAct) (w : Tray) : w.accepted <+: (w.acts as).accepted := by
  induction as generalizing w with
  | nil => exact List.prefix_refl _
  | cons a as ih => exact (List.prefix_append ..).trans (ih (w.act a))

/-- Just the transfers that are due run, in order. -/
theorem ran_serveAll (react : Reaction) (due : List (Ticket × Job)) (w : Tray) :
    ∃ receipts, (due.foldl (serve react) w).ran = w.ran ++ receipts ∧
      receipts.map Receipt.entry = due := by
  induction due generalizing w with
  | nil => exact ⟨[], (List.append_nil _).symm, rfl⟩
  | cons e es ih =>
    obtain ⟨receipts, hran, hentries⟩ := ih (w.serve react e)
    have hone : (w.serve react e).ran = w.ran ++ [w.receipt e] := ran_acts _ (w.perform e)
    refine ⟨w.receipt e :: receipts, ?_, ?_⟩
    · rw [List.foldl_cons, hran, hone, List.append_assoc]
      rfl
    · rw [List.map_cons, hentries]
      rfl

theorem accepted_serveAll (due : List (Ticket × Job)) (w : Tray) :
    w.accepted <+: (due.foldl (serve react) w).accepted := by
  induction due generalizing w with
  | nil => exact List.prefix_refl _
  | cons e es ih => exact (accepted_acts _ (w.perform e)).trans (ih (w.serve react e))

/-! ## Delivery -/

/-- How a store that defers its transfers delivers them, at one point of a run. -/
structure Delivers (w : Tray) : Prop where
  /-- No two transfers that were taken in are the same. -/
  distinct : (w.accepted.map (·.ticket)).Nodup
  /-- What was taken in ran or is parked, in the order in which it was taken in. -/
  in_order : w.accepted.map Slip.entry = w.ran.map Receipt.entry ++ w.store.parked
  pending : w.store.parked.length = w.accepted.length - w.ran.length
  /-- All that ran was settled as it was handed in. -/
  settled : List.Forall₂ (fun r s => r.Settles s) w.ran (w.accepted.take w.ran.length)
  /-- What is refused is not taken in, and what is taken in waits behind the rest. -/
  refused : ∀ a f, (a.on w.store).1 = .ticket (.error f) →
    (w.act a).accepted = w.accepted ∧ (w.act a).store.parked = w.store.parked
  taken : ∀ a ticket, (a.on w.store).1 = .ticket (.ok ticket) → ∃ job h,
    w.store.handles.find? job.fd = some h ∧
      (w.act a).accepted = w.accepted ++ [⟨ticket, job, some h⟩] ∧
      (w.act a).store.parked = w.store.parked ++ [(ticket, job)]
  /-- Nothing runs but in a run. -/
  waits : ∀ a, (w.act a).ran = w.ran
  /-- A run makes just the transfers run that were parked when it started, in order, and
  answers how many these were. What is taken in meanwhile is behind all that was before. -/
  runs : ∀ react, ∃ receipts, (w.run react).2.ran = w.ran ++ receipts ∧
    receipts.map Receipt.entry = w.store.parked ∧ (w.run react).1 = receipts.length ∧
    w.accepted <+: (w.run react).2.accepted
  /-- The run is the one of the store. -/
  store : ∀ react : Reaction,
    ((w.run react).1, (w.run react).2.store) = w.store.runParkedWith react.on

theorem Orderly.distinct (h : w.Orderly due) : (w.accepted.map (·.ticket)).Nodup := by
  have hserials : ((w.accepted.map (·.ticket)).map Ticket.serial).Nodup := by
    rw [List.map_map]
    exact (congrArg List.Nodup h.serials).mpr List.nodup_range
  exact List.Nodup.of_map _ hserials

theorem Orderly.delivers (h : w.Orderly []) : w.Delivers where
  distinct := h.distinct
  in_order := h.order
  pending := by
    have hlength := congrArg List.length h.order
    simp only [List.length_map, List.length_append, List.length_nil] at hlength
    omega
  settled := h.settled
  refused a f hanswer := by
    rcases w.slip?_cases a with ⟨_, _, htaken, -⟩ | ⟨-, hslip, hparked, -⟩
    · rw [hanswer] at htaken
      cases htaken
    · refine ⟨?_, hparked⟩
      show w.accepted ++ (w.slip? a).toList = _
      rw [hslip]
      exact List.append_nil _
  taken a ticket hanswer := by
    rcases w.slip?_cases a with ⟨job, handle, htaken, hh, hslip, hparked, -⟩ | ⟨hno, -⟩
    · rw [hanswer] at htaken
      cases htaken
      refine ⟨job, handle, hh, ?_, hparked⟩
      show w.accepted ++ (w.slip? a).toList = _
      rw [hslip]
      rfl
    · exact (hno ticket hanswer).elim
  waits _ := rfl
  runs react := by
    let start : Tray := { w with store := { w.store with parked := [] } }
    obtain ⟨receipts, hran, hentries⟩ := ran_serveAll react w.store.parked start
    refine ⟨receipts, hran, hentries, ?_, accepted_serveAll w.store.parked start⟩
    show w.store.parked.length = _
    rw [← hentries, List.length_map]
  store := w.store_run

end Tray

/-- A store in memory that defers its transfers delivers each of them once, in order and to
the object it was meant for, whatever is done meanwhile. -/
theorem deferred_transfers_run_once_and_in_order (moves : List Tray.Move) :
    (Tray.through { store := { delivery := .deferred } } moves).Delivers :=
  ((Tray.orderly_fresh .deferred).through moves).delivers

end StagedFiles
