-- The log of writes of the store in memory, summed up for one descriptor. The sum
-- grows by what is written through the descriptor and by nothing else. A write that
-- was handed in counts when it runs, which it may do while another is waited for;
-- its completion says so when it comes.
import StagedFiles.Proofs.OwedTransfers

namespace StagedFiles

/-- The transfer writes through the descriptor. -/
def Job.WritesTo (fd : Fd) : Job → Prop
  | .read _ _ _ => False
  | .write fd' _ _ => fd' = fd

namespace MemoryStore

/-- The bytes written through a descriptor, by the log. -/
def logged (st : MemoryStore) (fd : Fd) : Nat :=
  (st.log.filter (·.fd = fd)).foldl (fun n r => n + r.len) 0

variable {fd : Fd} {st st' : MemoryStore}

/-! ## What a transfer adds -/

theorem logged_eq_of_written (h : st'.written = st.written) : st'.logged fd = st.logged fd := by
  unfold logged log
  rw [h]

/-- One more record of the descriptor. -/
theorem logged_cons_self (record : WriteRecord) (h : st'.written = record :: st.written)
    (hfd : record.fd = fd) : st'.logged fd = st.logged fd + record.len := by
  unfold logged log
  rw [h, List.reverse_cons, List.filter_append, List.filter_cons_of_pos (by simpa using hfd),
    List.foldl_append]
  rfl

theorem logged_cons_of_ne {record : WriteRecord} (h : st'.written = record :: st.written)
    (hfd : record.fd ≠ fd) : st'.logged fd = st.logged fd := by
  unfold logged log
  rw [h, List.reverse_cons, List.filter_append, List.filter_cons_of_neg (by simpa using hfd),
    List.foldl_append]
  rfl

theorem logged_performWrite_of_ne {fd' : Fd} {offset : Nat} {data : Bytes} {aio : Bool}
    (hne : fd' ≠ fd) :
    (st.performWrite fd' offset data aio).2.logged fd = st.logged fd := by
  rcases performWrite_cases st fd' offset data aio with ⟨f, faults, hw⟩ | ⟨h, _, hw⟩
  · rw [hw]
    exact logged_eq_of_written rfl
  · rw [hw]
    exact logged_cons_of_ne rfl hne

/-- A write through the descriptor fails and adds nothing, or adds all of its data. -/
theorem logged_performWrite (fd : Fd) (st : MemoryStore) (offset : Nat) (data : Bytes)
    (aio : Bool) :
    (∃ f, (st.performWrite fd offset data aio).1 = .error f ∧
        (st.performWrite fd offset data aio).2.logged fd = st.logged fd) ∨
      ((st.performWrite fd offset data aio).1 = .ok data.length ∧
        (st.performWrite fd offset data aio).2.logged fd = st.logged fd + data.length) := by
  rcases performWrite_cases st fd offset data aio with ⟨f, faults, hw⟩ | ⟨h, _, hw⟩
  · rw [hw]
    exact Or.inl ⟨f, rfl, logged_eq_of_written rfl⟩
  · rw [hw]
    refine Or.inr ⟨rfl, ?_⟩
    exact logged_cons_self ⟨fd, offset, data.length, aio⟩ rfl rfl

/-- A transfer that does not write through the descriptor adds nothing. -/
theorem logged_perform {job : Job} (h : ¬ job.WritesTo fd) :
    (st.perform job).2.logged fd = st.logged fd := by
  cases job with
  | read fd' offset len =>
    unfold perform
    rcases performRead_cases st fd' offset len with ⟨f, faults, hr⟩ | ⟨_, _, hr⟩
    · dsimp only
      rw [hr]
      exact logged_eq_of_written rfl
    · dsimp only
      rw [hr]
  | write fd' offset data => exact logged_performWrite_of_ne h

/-- How the transfer for an errand came out, on top of a sum. -/
inductive Came (fd : Fd) (st : MemoryStore) (n : Nat) : Errand → Completion → Prop where
  | read {offset len : Nat} {r : Except Failure Bytes} : st.logged fd = n →
      Came fd st n (.read offset len) (.bytes r)
  | failed {offset : Nat} {data : Bytes} {f : Failure} : st.logged fd = n →
      Came fd st n (.write offset data) (.count (.error f))
  | went {offset : Nat} {data : Bytes} : st.logged fd = n + data.length →
      Came fd st n (.write offset data) (.count (.ok data.length))

theorem Came.congr {n : Nat} {e : Errand} {c : Completion} (h : Came fd st n e c)
    (hlog : st'.logged fd = st.logged fd) : Came fd st' n e c := by
  cases h with
  | read hn => exact .read (hlog.trans hn)
  | failed hn => exact .failed (hlog.trans hn)
  | went hn => exact .went (hlog.trans hn)

theorem perform_came (e : Errand) :
    Came fd (st.perform (e.job fd)).2 (st.logged fd) e (st.perform (e.job fd)).1 := by
  cases e with
  | read offset len => exact .read (logged_perform fun h => h)
  | write offset data =>
    rcases logged_performWrite fd st offset data true with ⟨f, hf, hlog⟩ | ⟨hn, hlog⟩
    · have hc : (st.perform (Errand.job fd (.write offset data))).1 = .count (.error f) :=
        congrArg Completion.count hf
      rw [hc]
      exact .failed hlog
    · have hc : (st.perform (Errand.job fd (.write offset data))).1 = .count (.ok data.length) :=
        congrArg Completion.count hn
      rw [hc]
      exact .went hlog

/-! ## Calls that are no transfers -/

end MemoryStore

/-- A call that moves no bytes between a buffer and an object. -/
def StoreCall.Quiet : StoreCall → Prop
  | .readAt .. | .writeAt .. | .submitRead .. | .submitWrite .. | .await _ => False
  | .openPath .. | .close _ | .stat _ | .sync _ | .truncate .. | .statPath _ | .truncatePath ..
  | .unlinkPath _ => True

namespace MemoryStore

variable {fd : Fd} {st st' : MemoryStore}

theorem quiet_desk (call : StoreCall) (hquiet : call.Quiet) (st : MemoryStore) :
    SameDesk st (call.on st) := by
  cases call with
  | openPath path access => exact openPath_desk st path access
  | close fd => exact close_desk st fd
  | stat fd => exact stat_desk st fd
  | sync fd => exact ⟨rfl, rfl, rfl⟩
  | truncate fd len => exact truncate_desk st fd len
  | statPath path => exact statPath_desk st path
  | truncatePath path len => exact truncatePath_desk st path len
  | unlinkPath path => exact unlinkPath_desk st path
  | readAt _ _ _ => exact hquiet.elim
  | writeAt _ _ _ => exact hquiet.elim
  | submitRead _ _ _ => exact hquiet.elim
  | submitWrite _ _ _ => exact hquiet.elim
  | await _ => exact hquiet.elim

theorem find_log (st : MemoryStore) (path : String) (access : Access) :
    (st.find path access).2.written = st.written ∧
      (st.find path access).2.nextTicket = st.nextTicket := by
  unfold MemoryStore.find
  split
  · split
    · exact ⟨rfl, rfl⟩
    · exact ⟨rfl, rfl⟩
  · split
    · exact ⟨rfl, rfl⟩
    · exact ⟨rfl, rfl⟩

theorem openPath_log (st : MemoryStore) (path : String) (access : Access) :
    (st.openPath path access).2.written = st.written ∧
      (st.openPath path access).2.nextTicket = st.nextTicket := by
  have hfind := find_log (st.count fun c => { c with opens := c.opens + 1 }) path access
  unfold MemoryStore.openPath
  dsimp only
  split
  · exact ⟨rfl, rfl⟩
  · split
    · rename_i h
      rw [h] at hfind
      exact hfind
    · rename_i h
      rw [h] at hfind
      exact hfind

/-- Such a call writes nothing and hands nothing in. -/
theorem quiet_log (call : StoreCall) (hquiet : call.Quiet) (st : MemoryStore) :
    (call.on st).written = st.written ∧ (call.on st).nextTicket = st.nextTicket := by
  cases call with
  | openPath path access => exact openPath_log st path access
  | close fd =>
    show (st.close fd).2.written = _ ∧ (st.close fd).2.nextTicket = _
    unfold MemoryStore.close
    dsimp only
    split
    · exact ⟨rfl, rfl⟩
    · exact ⟨rfl, rfl⟩
  | stat fd =>
    show (st.stat fd).2.written = _ ∧ (st.stat fd).2.nextTicket = _
    unfold MemoryStore.stat
    split
    · exact ⟨rfl, rfl⟩
    · exact ⟨rfl, rfl⟩
  | sync fd => exact ⟨rfl, rfl⟩
  | truncate fd len =>
    show (st.truncate fd len).2.written = _ ∧ (st.truncate fd len).2.nextTicket = _
    unfold MemoryStore.truncate
    dsimp only
    split
    · exact ⟨rfl, rfl⟩
    · split
      · exact ⟨rfl, rfl⟩
      · exact ⟨rfl, rfl⟩
  | statPath path =>
    show (st.statPath path).2.written = _ ∧ (st.statPath path).2.nextTicket = _
    unfold MemoryStore.statPath
    split
    · exact ⟨rfl, rfl⟩
    · exact ⟨rfl, rfl⟩
  | truncatePath path len =>
    show (st.truncatePath path len).2.written = _ ∧ (st.truncatePath path len).2.nextTicket = _
    unfold MemoryStore.truncatePath
    dsimp only
    split
    · exact ⟨rfl, rfl⟩
    · exact ⟨rfl, rfl⟩
  | unlinkPath path =>
    show (st.unlinkPath path).2.written = _ ∧ (st.unlinkPath path).2.nextTicket = _
    unfold MemoryStore.unlinkPath
    split
    · exact ⟨rfl, rfl⟩
    · exact ⟨rfl, rfl⟩
  | readAt _ _ _ => exact hquiet.elim
  | writeAt _ _ _ => exact hquiet.elim
  | submitRead _ _ _ => exact hquiet.elim
  | submitWrite _ _ _ => exact hquiet.elim
  | await _ => exact hquiet.elim

/-! ## The books of a descriptor -/

/-- A transfer of someone else, under another ticket. -/
def Foreign (fd : Fd) (t : Ticket) (x : Ticket × Job) : Prop := x.1 ≠ t ∧ ¬ x.2.WritesTo fd

/-- Where the transfer is that was handed in through the descriptor, if any. It is
among those still to run, or it ran with them and its completion is kept. -/
inductive Due (fd : Fd) (jobs : List (Ticket × Job)) (st : MemoryStore) (n : Nat) :
    Option (Ticket × Errand) → Prop where
  | nothing : (∀ x ∈ jobs, ¬ x.2.WritesTo fd) → st.logged fd = n → Due fd jobs st n none
  | parked {t : Ticket} {e : Errand} {before after : List (Ticket × Job)} :
      jobs = before ++ (t, e.job fd) :: after → (∀ x ∈ before ++ after, Foreign fd t x) →
      (∀ x ∈ st.finished, x.1 ≠ t) → st.logged fd = n → Due fd jobs st n (some (t, e))
  | ran {t : Ticket} {e : Errand} {c : Completion} : st.delivery = .deferred →
      (∀ x ∈ jobs, Foreign fd t x) → st.finished.find? (·.1 = t) = some (t, c) →
      Came fd st n e c → Due fd jobs st n (some (t, e))

/-- By the log `n` bytes went through the descriptor, not counting the transfer that
is out. Tickets that were given out are older than the next. -/
structure Booked (fd : Fd) (jobs : List (Ticket × Job)) (st : MemoryStore) (n : Nat)
    (out : Option (Ticket × Errand)) : Prop where
  jobs_older : ∀ x ∈ jobs, x.1.serial < st.nextTicket.serial
  finished_older : ∀ x ∈ st.finished, x.1.serial < st.nextTicket.serial
  due : Due fd jobs st n out

namespace Booked

variable {jobs : List (Ticket × Job)} {n : Nat} {out : Option (Ticket × Errand)} {t : Ticket}
  {e : Errand}

theorem of_same (h : Booked fd jobs st n out) (hlog : st'.logged fd = st.logged fd)
    (hf : st'.finished = st.finished) (hn : st'.nextTicket = st.nextTicket)
    (hd : st'.delivery = st.delivery) : Booked fd jobs st' n out := by
  refine ⟨hn ▸ h.jobs_older, hf ▸ hn ▸ h.finished_older, ?_⟩
  cases h.due with
  | nothing hjobs hsum => exact .nothing hjobs (hlog.trans hsum)
  | parked hjobs hforeign hfin hsum => exact .parked hjobs hforeign (hf ▸ hfin) (hlog.trans hsum)
  | ran hdel hforeign hfind hcame =>
    exact .ran (hd.trans hdel) hforeign (hf ▸ hfind) (hcame.congr hlog)

/-- With nothing out the books say what the log says. -/
theorem sum (h : Booked fd jobs st n none) : st.logged fd = n := by
  cases h.due with
  | nothing _ hsum => exact hsum

/-- The ticket of the transfer that is out is older than the next. -/
theorem out_older (h : Booked fd jobs st n (some (t, e))) : t.serial < st.nextTicket.serial := by
  cases h.due with
  | parked hjobs _ _ _ => exact h.jobs_older (t, e.job fd) (by simp [hjobs])
  | ran _ _ hfind _ => exact h.finished_older _ (List.mem_of_find?_eq_some hfind)

/-! ### Transfers that run in order -/

/-- The next transfer runs and its completion is kept. -/
theorem perform {x : Ticket × Job} (h : Booked fd (x :: jobs) st n out)
    (hdeferred : st.delivery = .deferred) :
    Booked fd jobs (keep x.1 (st.perform x.2).1 (st.perform x.2).2) n out := by
  obtain ⟨faults, objects, written, hframe⟩ := perform_frame st x.2
  have hnext : (st.perform x.2).2.nextTicket = st.nextTicket := by rw [hframe]
  have hfinished : (st.perform x.2).2.finished = st.finished := by rw [hframe]
  have hdelivery : (st.perform x.2).2.delivery = .deferred := by rw [hframe]; exact hdeferred
  refine ⟨?_, ?_, ?_⟩
  · intro y hy
    show y.1.serial < (st.perform x.2).2.nextTicket.serial
    rw [hnext]
    exact h.jobs_older y (List.mem_cons_of_mem _ hy)
  · intro y hy
    show y.1.serial < (st.perform x.2).2.nextTicket.serial
    rw [hnext]
    rcases List.mem_append.mp hy with hold | hnew
    · exact h.finished_older y (hfinished ▸ hold)
    · rw [List.mem_singleton.mp hnew]
      exact h.jobs_older x (List.mem_cons_self ..)
  · cases h.due with
    | nothing hjobs hsum =>
      refine .nothing (fun y hy => hjobs y (List.mem_cons_of_mem _ hy)) ?_
      exact (logged_perform (hjobs x (List.mem_cons_self ..))).trans hsum
    | @parked t e before after hjobs hforeign hfin hsum =>
      have hnot : ∀ y ∈ (st.perform x.2).2.finished, y.1 ≠ t := hfinished ▸ hfin
      cases before with
      | nil =>
        -- it is the turn of the transfer that is out
        obtain ⟨rfl, rfl⟩ := List.cons.inj hjobs
        refine .ran (c := (st.perform (e.job fd)).1) hdelivery hforeign ?_ ?_
        · show ((st.perform (e.job fd)).2.finished ++ [(t, (st.perform (e.job fd)).1)]).find?
            (·.1 = t) = _
          rw [List.find?_append, List.find?_eq_none.mpr (by simpa using hnot)]
          simp
        · rw [← hsum]
          exact (perform_came e).congr rfl
      | cons y before =>
        obtain ⟨rfl, rfl⟩ := List.cons.inj hjobs
        have hx := hforeign x (by simp)
        refine .parked rfl (fun y hy => hforeign y (List.mem_cons_of_mem _ hy)) ?_ ?_
        · intro y hy
          rcases List.mem_append.mp hy with hold | hnew
          · exact hnot y hold
          · rw [List.mem_singleton.mp hnew]
            exact hx.1
        · exact (logged_perform hx.2).trans hsum
    | @ran t e c _ hforeign hfind hcame =>
      have hx := hforeign x (List.mem_cons_self ..)
      refine .ran (c := c) hdelivery (fun y hy => hforeign y (List.mem_cons_of_mem _ hy)) ?_ ?_
      · show ((st.perform x.2).2.finished ++ [(x.1, (st.perform x.2).1)]).find? (·.1 = t) = _
        rw [hfinished, List.find?_append, hfind]
        rfl
      · exact hcame.congr (logged_perform hx.2)

/-- All of them run. -/
theorem performAll (h : Booked fd jobs st n out) (hdeferred : st.delivery = .deferred) :
    Booked fd [] (performAll keep jobs st) n out := by
  induction jobs generalizing st with
  | nil => exact h
  | cons x jobs ih =>
    obtain ⟨faults, objects, written, hframe⟩ := perform_frame st x.2
    refine ih (h.perform hdeferred) ?_
    show (st.perform x.2).2.delivery = .deferred
    rw [hframe]
    exact hdeferred

theorem runParked (h : Booked fd st.parked st n out) (hdeferred : st.delivery = .deferred) :
    Booked fd [] st.runParked.2 n out := by
  have hstart : Booked fd st.parked { st with parked := [] } n out := h.of_same rfl rfl rfl rfl
  exact hstart.performAll hdeferred

/-! ### Calls of the descriptor -/

theorem read (h : Booked fd st.parked st n out) (fd' : Fd) (offset len : Nat) :
    Booked fd (st.readAt fd' offset len).2.parked (st.readAt fd' offset len).2 n out := by
  unfold MemoryStore.readAt
  rcases performRead_cases (st.count fun c => { c with preads := c.preads + 1 }) fd' offset len
    with ⟨f, faults, hr⟩ | ⟨_, _, hr⟩
  · dsimp only
    rw [hr]
    exact h.of_same (logged_eq_of_written rfl) rfl rfl rfl
  · dsimp only
    rw [hr]
    exact h.of_same (logged_eq_of_written rfl) rfl rfl rfl

/-- A write fails and leaves the books, or all of it is noted. -/
theorem write {offset : Nat} {data : Bytes} {r : Except Failure Nat}
    (h : Booked fd st.parked st n none) (hw : st.writeAt fd offset data = (r, st')) :
    (∃ f, r = .error f) ∨ r = .ok data.length ∧ Booked fd st'.parked st' (n + data.length) none := by
  replace hw : (st.count fun c => { c with pwrites := c.pwrites + 1 }).performWrite fd offset data
    false = (r, st') := hw
  have hsum := h.sum
  rcases performWrite_cases (st.count fun c => { c with pwrites := c.pwrites + 1 }) fd offset data
    false with ⟨f, faults, hcase⟩ | ⟨g, _, hcase⟩
  · rw [hcase] at hw
    cases hw
    exact Or.inl ⟨f, rfl⟩
  · rw [hcase] at hw
    cases hw
    refine Or.inr ⟨rfl, h.jobs_older, h.finished_older, ?_⟩
    cases h.due with
    | nothing hjobs _ =>
      refine .nothing hjobs ?_
      rw [← hsum]
      exact logged_cons_self ⟨fd, offset, data.length, false⟩ rfl rfl

/-- A transfer that is handed in is the one that is out. -/
theorem park (h : Booked fd st.parked st n none) (e : Errand) :
    Booked fd (st.park (e.job fd)).2.parked (st.park (e.job fd)).2 n (some (st.nextTicket, e)) := by
  refine ⟨?_, ?_, ?_⟩
  · intro x hx
    rcases List.mem_append.mp hx with hold | hnew
    · exact Nat.lt_succ_of_lt (h.jobs_older x hold)
    · rw [List.mem_singleton.mp hnew]
      exact Nat.lt_succ_self _
  · intro x hx
    exact Nat.lt_succ_of_lt (h.finished_older x hx)
  · cases h.due with
    | nothing hjobs hsum =>
      have hjob : (st.park (e.job fd)).2.parked = st.parked ++ (st.nextTicket, e.job fd) :: [] := rfl
      refine .parked hjob ?_ ?_ hsum
      · intro x hx
        rw [List.append_nil] at hx
        refine ⟨?_, hjobs x hx⟩
        rintro heq
        exact Nat.lt_irrefl _ (heq ▸ h.jobs_older x hx)
      · rintro x hx heq
        exact Nat.lt_irrefl _ (heq ▸ h.finished_older x hx)

theorem checkSubmit {fd' : Fd} {r : Except Failure Unit} (h : Booked fd st.parked st n out)
    (hc : st.checkSubmit fd' = (r, st')) : Booked fd st'.parked st' n out := by
  rcases checkSubmit_cases st fd' with ⟨f, faults, hs⟩ | hs
  · rw [hs] at hc
    cases hc
    exact h.of_same (logged_eq_of_written rfl) rfl rfl rfl
  · rw [hs] at hc
    cases hc
    exact h

theorem submitRead {offset len : Nat} {r : Except Failure Ticket}
    (h : Booked fd st.parked st n none) (hs : st.submitRead fd offset len = (r, st')) :
    (∃ f, r = .error f) ∨
      ∃ t, r = .ok t ∧ Booked fd st'.parked st' n (some (t, .read offset len)) := by
  unfold MemoryStore.submitRead at hs
  split at hs
  · cases hs
    exact Or.inl ⟨_, rfl⟩
  · rename_i st1 hcheck
    cases hs
    have hcount : Booked fd st1.parked (st1.count fun c => { c with aioReads := c.aioReads + 1 }) n
        none := (h.checkSubmit hcheck).of_same (logged_eq_of_written rfl) rfl rfl rfl
    exact Or.inr ⟨_, rfl, hcount.park (.read offset len)⟩

theorem submitWrite {offset : Nat} {data : Bytes} {r : Except Failure Ticket}
    (h : Booked fd st.parked st n none) (hs : st.submitWrite fd offset data = (r, st')) :
    (∃ f, r = .error f) ∨
      ∃ t, r = .ok t ∧ Booked fd st'.parked st' n (some (t, .write offset data)) := by
  unfold MemoryStore.submitWrite at hs
  split at hs
  · cases hs
    exact Or.inl ⟨_, rfl⟩
  · rename_i st1 hcheck
    cases hs
    have hcount : Booked fd st1.parked (st1.count fun c => { c with aioWrites := c.aioWrites + 1 })
        n none := (h.checkSubmit hcheck).of_same (logged_eq_of_written rfl) rfl rfl rfl
    exact Or.inr ⟨_, rfl, hcount.park (.write offset data)⟩

/-- The transfer that is out comes out when it is waited for, and the log agrees
with its completion. -/
theorem await {c : Option Completion} (h : Booked fd st.parked st n (some (t, e)))
    (ha : st.await t = (c, st')) :
    ∃ done, c = some done ∧ Came fd st' n e done ∧
      ∀ m, st'.logged fd = m → Booked fd st'.parked st' m none := by
  unfold MemoryStore.await at ha
  split at ha
  · rename_i hthreaded
    cases h.due with
    | ran hdeferred _ _ _ =>
      rw [hthreaded] at hdeferred
      cases hdeferred
    | @parked _ _ before after hjobs hforeign hfin hsum =>
      rw [runOne_at hjobs fun x hx => (hforeign x hx).1] at ha
      cases ha
      let ready : MemoryStore := { st with parked := before ++ after }
      obtain ⟨faults, objects, written, hframe⟩ := perform_frame ready (e.job fd)
      have hready : ready.logged fd = n := hsum
      refine ⟨_, rfl, hready ▸ perform_came e, ?_⟩
      intro m hm
      refine ⟨?_, ?_, .nothing ?_ hm⟩
      · rw [hframe]
        intro x hx
        refine h.jobs_older x (hjobs ▸ ?_)
        rcases List.mem_append.mp hx with hfront | hback
        · exact List.mem_append_left _ hfront
        · exact List.mem_append_right _ (List.mem_cons_of_mem _ hback)
      · rw [hframe]
        exact h.finished_older
      · rw [hframe]
        exact fun x hx => (hforeign x hx).2
  · rename_i hdeferred
    have hran := h.runParked hdeferred
    obtain ⟨-, -, hparked, -⟩ := runParked_finished st
    cases hran.due with
    | parked hjobs _ _ _ => simp at hjobs
    | ran _ _ hfind hcame =>
      cases ha
      refine ⟨_, congrArg (Option.map Prod.snd) hfind, hcame.congr rfl, ?_⟩
      intro m hm
      refine ⟨?_, ?_, .nothing ?_ hm⟩
      · rw [show _ = [] from hparked]
        exact fun x hx => (List.not_mem_nil hx).elim
      · exact fun x hx => hran.finished_older x (List.mem_of_mem_filter hx)
      · rw [show _ = [] from hparked]
        exact fun x hx => (List.not_mem_nil hx).elim

/-! ### Calls of others -/

/-- A call that neither goes through the descriptor nor waits for its transfer. -/
def Apart (fd : Fd) (out : Option (Ticket × Errand)) : StoreCall → Prop
  | .writeAt fd' _ _ => fd' ≠ fd
  | .submitWrite fd' _ _ => fd' ≠ fd
  | .await t => ∀ e, out ≠ some (t, e)
  | _ => True

/-- A transfer of someone else is handed in. -/
theorem park_apart (h : Booked fd st.parked st n out) (job : Job) (hjob : ¬ job.WritesTo fd) :
    Booked fd (st.park job).2.parked (st.park job).2 n out := by
  have hnew : ∀ x ∈ st.parked ++ [(st.nextTicket, job)], x ∈ st.parked ∨ x = (st.nextTicket, job) :=
    fun x hx => (List.mem_append.mp hx).imp_right List.mem_singleton.mp
  refine ⟨?_, ?_, ?_⟩
  · intro x hx
    rcases hnew x hx with hold | rfl
    · exact Nat.lt_succ_of_lt (h.jobs_older x hold)
    · exact Nat.lt_succ_self _
  · intro x hx
    exact Nat.lt_succ_of_lt (h.finished_older x hx)
  · rcases out with _ | ⟨t, e⟩
    · cases h.due with
      | nothing hjobs hsum =>
        refine .nothing ?_ hsum
        intro x hx
        rcases hnew x hx with hold | rfl
        · exact hjobs x hold
        · exact hjob
    · have hne : st.nextTicket ≠ t := by
        rintro rfl
        exact Nat.lt_irrefl _ h.out_older
      cases h.due with
      | @parked _ _ before after hjobs hforeign hfin hsum =>
        have hsplit : (st.park job).2.parked =
            before ++ (t, e.job fd) :: (after ++ [(st.nextTicket, job)]) := by
          show st.parked ++ [(st.nextTicket, job)] = _
          rw [hjobs, List.append_assoc, List.cons_append]
        refine .parked hsplit ?_ hfin hsum
        intro x hx
        rw [← List.append_assoc] at hx
        rcases List.mem_append.mp hx with hold | hlast
        · exact hforeign x hold
        · rw [List.mem_singleton.mp hlast]
          exact ⟨hne, hjob⟩
      | ran hdeferred hforeign hfind hcame =>
        refine .ran hdeferred ?_ hfind (hcame.congr rfl)
        intro x hx
        rcases hnew x hx with hold | rfl
        · exact hforeign x hold
        · exact ⟨hne, hjob⟩

/-- A call that is no transfer leaves the books of every descriptor. -/
theorem quiet (h : Booked fd st.parked st n out) (call : StoreCall) (hquiet : call.Quiet) :
    Booked fd (call.on st).parked (call.on st) n out := by
  obtain ⟨hdelivery, hparked, hfinished⟩ := quiet_desk call hquiet st
  obtain ⟨hwritten, hnext⟩ := quiet_log call hquiet st
  rw [hparked]
  exact h.of_same (logged_eq_of_written hwritten) hfinished hnext hdelivery

theorem writeAt_apart {fd' : Fd} (h : Booked fd st.parked st n out) (hne : fd' ≠ fd)
    (offset : Nat) (data : Bytes) :
    Booked fd (st.writeAt fd' offset data).2.parked (st.writeAt fd' offset data).2 n out := by
  let counted : MemoryStore := st.count fun c => { c with pwrites := c.pwrites + 1 }
  have hlog : (counted.performWrite fd' offset data false).2.logged fd = counted.logged fd :=
    logged_performWrite_of_ne hne
  obtain ⟨hdelivery, hparked, hfinished⟩ := writeAt_desk st fd' offset data
  have hnext : (st.writeAt fd' offset data).2.nextTicket = st.nextTicket := by
    show (counted.performWrite fd' offset data false).2.nextTicket = _
    rcases performWrite_cases counted fd' offset data false with ⟨f, faults, hw⟩ | ⟨_, _, hw⟩
    · rw [hw]
      rfl
    · rw [hw]
      rfl
  rw [hparked]
  exact h.of_same hlog hfinished hnext hdelivery

theorem submitRead_apart (h : Booked fd st.parked st n out) (fd' : Fd) (offset len : Nat) :
    Booked fd (st.submitRead fd' offset len).2.parked (st.submitRead fd' offset len).2 n out := by
  unfold MemoryStore.submitRead
  split
  · rename_i hcheck
    exact h.checkSubmit hcheck
  · rename_i st1 hcheck
    have hcount : Booked fd st1.parked (st1.count fun c => { c with aioReads := c.aioReads + 1 }) n
        out := (h.checkSubmit hcheck).of_same (logged_eq_of_written rfl) rfl rfl rfl
    exact hcount.park_apart (.read fd' offset len) fun hw => hw

theorem submitWrite_apart {fd' : Fd} (h : Booked fd st.parked st n out) (hne : fd' ≠ fd)
    (offset : Nat) (data : Bytes) :
    Booked fd (st.submitWrite fd' offset data).2.parked (st.submitWrite fd' offset data).2 n out := by
  unfold MemoryStore.submitWrite
  split
  · rename_i hcheck
    exact h.checkSubmit hcheck
  · rename_i st1 hcheck
    have hcount : Booked fd st1.parked (st1.count fun c => { c with aioWrites := c.aioWrites + 1 })
        n out := (h.checkSubmit hcheck).of_same (logged_eq_of_written rfl) rfl rfl rfl
    exact hcount.park_apart (.write fd' offset data) hne

/-- What is parked under a ticket that is not waited for by the descriptor is
someone else's. -/
theorem foreign_at {other : Ticket} {job : Job} (h : Booked fd st.parked st n out)
    (hother : ∀ e, out ≠ some (other, e)) (hmem : (other, job) ∈ st.parked) :
    ¬ job.WritesTo fd := by
  cases h.due with
  | nothing hjobs _ => exact hjobs _ hmem
  | @parked t e before after hjobs hforeign _ _ =>
    rw [hjobs] at hmem
    rcases List.mem_append.mp hmem with hfront | hrest
    · exact (hforeign _ (List.mem_append_left _ hfront)).2
    · rcases List.mem_cons.mp hrest with hself | hback
      · obtain ⟨rfl, rfl⟩ := Prod.mk.inj hself
        exact (hother e rfl).elim
      · exact (hforeign _ (List.mem_append_right _ hback)).2
  | ran _ hforeign _ _ => exact (hforeign _ hmem).2

/-- The transfers under another ticket are taken out. -/
theorem without {other : Ticket} (h : Booked fd st.parked st n out)
    (hother : ∀ e, out ≠ some (other, e)) :
    Booked fd (st.parked.filter (·.1 ≠ other)) st n out := by
  refine ⟨fun x hx => h.jobs_older x (List.mem_of_mem_filter hx), h.finished_older, ?_⟩
  cases h.due with
  | nothing hjobs hsum => exact .nothing (fun x hx => hjobs x (List.mem_of_mem_filter hx)) hsum
  | @parked t e before after hjobs hforeign hfin hsum =>
    have hne : t ≠ other := by
      rintro rfl
      exact hother e rfl
    have hsplit : st.parked.filter (·.1 ≠ other) =
        before.filter (·.1 ≠ other) ++ (t, e.job fd) :: after.filter (·.1 ≠ other) := by
      rw [hjobs, List.filter_append, List.filter_cons_of_pos (by simpa using hne)]
    refine .parked hsplit ?_ hfin hsum
    intro x hx
    rw [← List.filter_append] at hx
    exact hforeign x (List.mem_of_mem_filter hx)
  | ran hdeferred hforeign hfind hcame =>
    exact .ran hdeferred (fun x hx => hforeign x (List.mem_of_mem_filter hx)) hfind hcame

/-- The completions under another ticket are taken out. -/
theorem with_fewer {other : Ticket} (h : Booked fd jobs st n out)
    (hother : ∀ e, out ≠ some (other, e)) :
    Booked fd jobs { st with finished := st.finished.filter (·.1 ≠ other) } n out := by
  refine ⟨h.jobs_older, fun x hx => h.finished_older x (List.mem_of_mem_filter hx), ?_⟩
  cases h.due with
  | nothing hjobs hsum => exact .nothing hjobs hsum
  | parked hjobs hforeign hfin hsum =>
    exact .parked hjobs hforeign (fun x hx => hfin x (List.mem_of_mem_filter hx)) hsum
  | @ran t e c hdeferred hforeign hfind hcame =>
    refine .ran hdeferred hforeign ?_ (hcame.congr rfl)
    have hne : t ≠ other := by
      rintro rfl
      exact hother e rfl
    show (st.finished.filter (·.1 ≠ other)).find? (·.1 = t) = some (t, c)
    rw [List.find?_filter, ← hfind]
    congr 1
    funext x
    by_cases hx : x.1 = t
    · simp [hx, hne]
    · simp [hx]

/-- Waiting for another transfer leaves the books, also when the one that is out
runs meanwhile. -/
theorem await_apart {other : Ticket} (h : Booked fd st.parked st n out)
    (hother : ∀ e, out ≠ some (other, e)) :
    Booked fd (st.await other).2.parked (st.await other).2 n out := by
  unfold MemoryStore.await
  split
  · unfold runOne
    split
    · exact h
    · rename_i t job hfind
      have hmem := List.mem_of_find?_eq_some hfind
      have ht : t = other := by simpa using List.find?_some hfind
      subst ht
      let ready : MemoryStore := { st with parked := st.parked.filter (·.1 ≠ t) }
      have hready : Booked fd ready.parked ready n out := (h.without hother).of_same rfl rfl rfl rfl
      obtain ⟨faults, objects, written, hframe⟩ := perform_frame ready job
      have hlog : (ready.perform job).2.logged fd = ready.logged fd :=
        logged_perform (h.foreign_at hother hmem)
      have hparked : (ready.perform job).2.parked = ready.parked := by rw [hframe]
      show Booked fd (ready.perform job).2.parked (ready.perform job).2 n out
      rw [hparked]
      exact hready.of_same hlog (by rw [hframe]) (by rw [hframe]) (by rw [hframe])
  · rename_i hdeferred
    obtain ⟨-, -, hparked, -⟩ := runParked_finished st
    show Booked fd st.runParked.2.parked _ n out
    rw [hparked]
    exact (h.runParked hdeferred).with_fewer hother

/-- Whatever others call, the books of the descriptor stay. -/
theorem call (h : Booked fd st.parked st n out) {call : StoreCall} (hcall : Apart fd out call) :
    Booked fd (call.on st).parked (call.on st) n out := by
  cases call with
  | readAt fd' offset len => exact h.read fd' offset len
  | writeAt fd' offset data => exact h.writeAt_apart hcall offset data
  | submitRead fd' offset len => exact h.submitRead_apart fd' offset len
  | submitWrite fd' offset data => exact h.submitWrite_apart hcall offset data
  | await t => exact h.await_apart hcall
  | openPath path access => exact h.quiet (.openPath path access) trivial
  | close fd' => exact h.quiet (.close fd') trivial
  | stat fd' => exact h.quiet (.stat fd') trivial
  | sync fd' => exact h.quiet (.sync fd') trivial
  | truncate fd' len => exact h.quiet (.truncate fd' len) trivial
  | statPath path => exact h.quiet (.statPath path) trivial
  | truncatePath path len => exact h.quiet (.truncatePath path len) trivial
  | unlinkPath path => exact h.quiet (.unlinkPath path) trivial

/-- Whatever befalls the store, too. -/
theorem befall (h : Booked fd st.parked st n out) (blow : Blow) :
    Booked fd (befall blow st).parked (befall blow st) n out := by
  cases blow with
  | fail point k errno => exact h.of_same (logged_eq_of_written rfl) rfl rfl rfl
  | insert path data => exact h.of_same (logged_eq_of_written rfl) rfl rfl rfl
  | runParked =>
    unfold MemoryStore.befall
    dsimp only
    split
    · exact h
    · rename_i hdeferred
      obtain ⟨-, -, hparked, -⟩ := runParked_finished st
      rw [hparked]
      exact h.runParked hdeferred

end Booked

end MemoryStore

end StagedFiles
