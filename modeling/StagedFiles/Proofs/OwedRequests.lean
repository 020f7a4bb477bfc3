-- No request stays out for ever, as long as the store loses none. What a stage or
-- a file has out is owed to it by the store until it takes the completion, whatever
-- the callers, others and faults do meanwhile. A request that is handed in to a
-- store whose workers are stopped is the one exception, and it stays out for good.
import StagedFiles.Proofs.FileSession
import StagedFiles.Proofs.Ledger
import StagedFiles.Proofs.OwedTransfers

namespace StagedFiles

variable {σ : Type} [ObjectStore σ]

/-! ## A request is handed in -/

namespace Stage

theorem outstanding_of_one {s : Stage} {request : AioRequest}
    (h : s.inflight.requests = [request]) : s.outstanding = 1 := by
  unfold Stage.outstanding InFlight.count
  rw [h]
  rfl

variable {s s' : Stage} {st st' : σ} {t : Ticket}

/-- A read that is out was handed in to the store as some calls had left it. -/
theorem readAio_submitted {offset len : Nat}
    (h : s.readAio offset len st = (.ok (.submitted t), s', st')) :
    ∃ fd n st1, Used st st1 ∧ ObjectStore.submitRead fd offset n st1 = (.ok t, st') := by
  cases readAio_cases h with
  | @submitted n _ s1 a st1 _ _ hf hs =>
    unfold Adapter.submitRead at hs
    split at hs
    · cases hs
    · split at hs
      · cases hs
      · split at hs
        · rename_i hsubmit
          cases hs
          exact ⟨_, _, st1, flushNow_used hf, hsubmit⟩
        · cases hs

theorem writeAio_submitted {offset : Nat} {data : Bytes}
    (h : s.writeAio offset data st = (.ok (.submitted t), s', st')) :
    ∃ fd bytes st1, Used st st1 ∧ ObjectStore.submitWrite fd offset bytes st1 = (.ok t, st') := by
  cases writeAio_cases h with
  | @submitted n _ s1 a st1 _ hcap _ hf hs =>
    unfold Adapter.submitWrite at hs
    split at hs
    · cases hs
    · split at hs
      · cases hs
      · split at hs
        · rename_i hsubmit
          cases hs
          exact ⟨_, _, st1, flushNow_used hf, hsubmit⟩
        · cases hs

variable {D : Desk σ}

/-- No call starts a store again or stops it. -/
theorem running_of_used (h : Used st st') (hstopped : D.stopped st = false) :
    D.stopped st' = false :=
  h.keeps (P := fun st => D.stopped st = false)
    (fun call st _ hst => (D.stopped_call call st).trans hst) hstopped

/-- A request that is out is owed by a store that was not stopped. -/
theorem readAio_owed {offset len : Nat} (hstopped : D.stopped st = false)
    (h : s.readAio offset len st = (.ok (.submitted t), s', st')) : D.Owes st' t := by
  obtain ⟨fd, n, st1, hused, hsubmit⟩ := readAio_submitted h
  exact D.submitRead (running_of_used hused hstopped) hsubmit

theorem writeAio_owed {offset : Nat} {data : Bytes} (hstopped : D.stopped st = false)
    (h : s.writeAio offset data st = (.ok (.submitted t), s', st')) : D.Owes st' t := by
  obtain ⟨fd, bytes, st1, hused, hsubmit⟩ := writeAio_submitted h
  exact D.submitWrite (running_of_used hused hstopped) hsubmit

end Stage

/-! ## The callers of a stage -/

namespace Client

variable {D : Desk σ} {c : Client σ} {lost : Bool}

/-- Nothing is out, or the store owes the completion, or the request was lost. -/
inductive Settled (D : Desk σ) (c : Client σ) (lost : Bool) : Prop where
  | idle : c.stage.inflight.requests = [] → c.due = none → Settled D c lost
  | owed {request : AioRequest} {ticket : Ticket} {asked : Errand} :
      c.stage.inflight.requests = [request] → c.due = some (ticket, asked) →
      D.Owes c.store ticket → Settled D c lost
  | lost {request : AioRequest} : c.stage.inflight.requests = [request] → lost = true →
      Settled D c lost

/-- A request that was just handed in is lost when the store was stopped. -/
def lostAfter (before after : Option (Ticket × Errand)) (stopped lost : Bool) : Bool :=
  match before, after with
  | none, some _ => stopped
  | _, _ => lost

theorem lostAfter_self (due : Option (Ticket × Errand)) (stopped lost : Bool) :
    lostAfter due due stopped lost = lost := by
  cases due with
  | none => rfl
  | some e => rfl

theorem lostAfter_none (due : Option (Ticket × Errand)) (stopped lost : Bool) :
    lostAfter due none stopped lost = lost := by
  cases due with
  | none => rfl
  | some e => rfl

/-- While a request is out nothing else is done. -/
theorem step_busy {act : Act} (hbusy : c.stage.outstanding ≠ 0) (hact : act ≠ .deliver) :
    (c.step act).2 = c := by
  cases act with
  | read offset len =>
    by_cases hlast : offset + len ≤ Offset.last
    · simp only [step, Stage.read_busy _ hlast hbusy]
    · simp only [step, Stage.read_beyond _ (Nat.lt_of_not_le hlast)]
  | write offset data =>
    by_cases hlast : offset + data.length ≤ Offset.last
    · simp only [step, Stage.write_busy _ hlast hbusy]
    · simp only [step, Stage.write_beyond _ (Nat.lt_of_not_le hlast)]
  | flush => simp only [step, Stage.flush_busy _ hbusy]
  | readAio offset len =>
    by_cases hlast : offset + len ≤ Offset.last
    · simp only [step, Stage.readAio_busy _ hlast hbusy]
      rfl
    · simp only [step, Stage.readAio_beyond _ (Nat.lt_of_not_le hlast)]
      rfl
  | writeAio offset data =>
    by_cases hlast : offset + data.length ≤ Offset.last
    · simp only [step, Stage.writeAio_busy _ hlast hbusy]
      rfl
    · simp only [step, Stage.writeAio_beyond _ (Nat.lt_of_not_le hlast)]
      rfl
  | deliver => exact absurd rfl hact

/-- How a request begins on a stage with nothing out. -/
theorem settled_of_begun {asked : Errand} {r : Except Failure (Started Completion)} {stage : Stage}
    {store : σ} (hdue : c.due = none) (hbegun : c.stage.Begun r stage)
    (howed : ∀ ticket, r = .ok (.submitted ticket) → D.stopped c.store = false →
      D.Owes store ticket) :
    Settled D { stage, store, due := dueAfter c.due asked r }
      (lostAfter c.due (dueAfter c.due asked r) (D.stopped c.store) lost) := by
  rw [hdue]
  cases hbegun with
  | refused hidle _ => exact .idle hidle rfl
  | ended hidle _ => exact .idle hidle rfl
  | @out ticket request _ hreq _ =>
    rcases hstopped : D.stopped c.store with _ | _
    · exact .owed hreq rfl (howed ticket rfl hstopped)
    · exact .lost hreq rfl

/-- The completion that is taken ends the request. -/
theorem settled_of_completed {request : AioRequest} {ticket : Ticket} {asked : Errand}
    {done : Completion} {store : σ} (hreq : c.stage.inflight.requests = [request])
    (hdue : c.due = some (ticket, asked))
    (hawait : ObjectStore.await ticket c.store = (some done, store)) :
    (c.step .deliver).2.stage.inflight.requests = [] ∧ (c.step .deliver).2.due = none := by
  rcases hc : c.stage.complete done with ⟨answer, stage⟩
  simp only [step, hdue, hawait, hc]
  exact ⟨(Stage.complete_ends hreq hc).1, trivial⟩

/-- Every act keeps the callers settled. -/
theorem Settled.step (h : Settled D c lost) (act : Act) :
    Settled D (c.step act).2
      (lostAfter c.due (c.step act).2.due (D.stopped c.store) lost) := by
  cases h with
  | idle hreq hdue =>
    cases act with
    | read offset len =>
      rcases hr : c.stage.read offset len c.store with ⟨r, stage, store⟩
      simp only [Client.step, hr, lostAfter_self]
      exact .idle ((Stage.read_same hr).requests hreq) hdue
    | write offset data =>
      rcases hw : c.stage.write offset data c.store with ⟨r, stage, store⟩
      simp only [Client.step, hw, lostAfter_self]
      exact .idle ((Stage.write_same hw).requests hreq) hdue
    | flush =>
      rcases hf : c.stage.flush c.store with ⟨r, stage, store⟩
      simp only [Client.step, hf, lostAfter_self]
      exact .idle ((Stage.flush_same hf).requests hreq) hdue
    | readAio offset len =>
      rcases hr : c.stage.readAio offset len c.store with ⟨r, stage, store⟩
      simp only [Client.step, hr]
      refine settled_of_begun hdue (Stage.readAio_begun hreq hr) ?_
      rintro ticket rfl hstopped
      exact Stage.readAio_owed hstopped hr
    | writeAio offset data =>
      rcases hw : c.stage.writeAio offset data c.store with ⟨r, stage, store⟩
      simp only [Client.step, hw]
      refine settled_of_begun hdue (Stage.writeAio_begun hreq hw) ?_
      rintro ticket rfl hstopped
      exact Stage.writeAio_owed hstopped hw
    | deliver =>
      simp only [Client.step, hdue]
      exact .idle hreq hdue
  | @owed request ticket asked hreq hdue howes =>
    by_cases hact : act = .deliver
    · subst hact
      obtain ⟨done, store, hawait⟩ := D.await howes
      obtain ⟨hreq', hdue'⟩ := settled_of_completed hreq hdue hawait
      exact .idle hreq' hdue'
    · rw [step_busy (by rw [Stage.outstanding_of_one hreq]; decide) hact, lostAfter_self]
      exact .owed hreq hdue howes
  | @lost request hreq hlost =>
    by_cases hact : act = .deliver
    · subst hact
      rcases hdue : c.due with _ | ⟨ticket, asked⟩
      · simp only [Client.step, hdue]
        exact .lost hreq hlost
      · rcases hawait : ObjectStore.await ticket c.store with ⟨_ | done, store⟩
        · simp only [Client.step, hdue, hawait, lostAfter_none]
          exact .lost hreq hlost
        · obtain ⟨hreq', hdue'⟩ := settled_of_completed hreq hdue hawait
          exact .idle hreq' hdue'
    · rw [step_busy (by rw [Stage.outstanding_of_one hreq]; decide) hact, lostAfter_self]
      exact .lost hreq hlost

/-- Where nothing was lost, what is out ends when its completion is taken. -/
theorem Settled.delivered (h : Settled D c false) : (c.step .deliver).2.stage.outstanding = 0 := by
  unfold Stage.outstanding InFlight.count
  cases h with
  | idle hreq hdue =>
    simp only [Client.step, hdue, hreq]
    rfl
  | owed hreq hdue howes =>
    obtain ⟨done, store, hawait⟩ := D.await howes
    rw [(settled_of_completed hreq hdue hawait).1]
    rfl
  | lost _ hlost => cases hlost

/-- And nothing is out when the store holds nothing. -/
theorem Settled.cleared (h : Settled D c false) (hempty : D.Empty c.store) :
    c.stage.outstanding = 0 := by
  unfold Stage.outstanding InFlight.count
  cases h with
  | idle hreq _ =>
    rw [hreq]
    rfl
  | owed _ _ howes => exact absurd howes (D.owes_nothing hempty)
  | lost _ hlost => cases hlost

/-- Others fetch nothing that is due to these callers. -/
def othersCall (due : Option (Ticket × Errand)) (call : StoreCall) (st : σ) : σ :=
  if due.map (fun e => StoreCall.await e.1) = some call then st else call.on st

theorem othersCall_owes {due : Option (Ticket × Errand)} {ticket : Ticket} {asked : Errand} {st : σ}
    (hdue : due = some (ticket, asked)) (howes : D.Owes st ticket) (call : StoreCall) :
    D.Owes (othersCall due call st) ticket := by
  unfold othersCall
  rw [hdue, Option.map_some]
  split
  · exact howes
  · rename_i hne
    exact D.owes_call howes fun he => hne (congrArg some he.symm)

/-- The store moves on, and owes what it owed. -/
theorem Settled.move (h : Settled D c lost) {store : σ}
    (hstore : ∀ ticket asked, c.due = some (ticket, asked) → D.Owes c.store ticket →
      D.Owes store ticket) : Settled D { c with store } lost := by
  cases h with
  | idle hreq hdue => exact .idle hreq hdue
  | owed hreq hdue howes => exact .owed hreq hdue (hstore _ _ hdue howes)
  | lost hreq hlost => exact .lost hreq hlost

end Client

/-! ## Callers, others and what befalls the store -/

/-- Callers of a stage, and whether what they have out was lost. -/
structure Debtor (σ : Type) where
  client : Client σ
  lost : Bool := false

namespace Debtor

/-- What callers do, what others do with the store, and what befalls it. -/
inductive Event (D : Desk σ) where
  | ask (act : Act)
  | others (call : StoreCall)
  | befall (blow : D.Blow)

variable {D : Desk σ}

def step (d : Debtor σ) : Event D → Debtor σ
  | .ask act =>
    let c := (d.client.step act).2
    { client := c
      lost := Client.lostAfter d.client.due c.due (D.stopped d.client.store) d.lost }
  | .others call =>
    { d with client := { d.client with
        store := Client.othersCall d.client.due call d.client.store } }
  | .befall blow => { d with client := { d.client with store := D.befall blow d.client.store } }

/-- All the events in order. -/
def run (d : Debtor σ) (events : List (Event D)) : Debtor σ := events.foldl step d

theorem settled_step {d : Debtor σ} (h : d.client.Settled D d.lost) (e : Event D) :
    (d.step e).client.Settled D (d.step e).lost := by
  cases e with
  | ask act => exact h.step act
  | others call => exact h.move fun ticket asked hdue howes => Client.othersCall_owes hdue howes call
  | befall blow => exact h.move fun ticket asked _ howes => D.owes_befall blow howes

theorem settled_run {d : Debtor σ} (h : d.client.Settled D d.lost) (events : List (Event D)) :
    (d.run events).client.Settled D (d.run events).lost := by
  induction events generalizing d with
  | nil => exact h
  | cons e events ih => exact ih (settled_step h e)

/-- A stage that was just built has nothing out. -/
theorem settled_of_build {settings : Settings} {fd : Fd} {stage : Stage} (store : σ) (lost : Bool)
    (hbuild : Stage.build settings fd = .ok stage) :
    Client.Settled D { stage, store } lost := by
  obtain ⟨hpos, rfl⟩ := Stage.build_eq_ok_iff.mp hbuild
  exact .idle rfl rfl

/-- A store that never stops loses nothing. -/
theorem lost_step {d : Debtor σ} (hD : ∀ st, D.stopped st = false) (h : d.lost = false)
    (e : Event D) : (d.step e).lost = false := by
  cases e with
  | ask act =>
    show Client.lostAfter _ _ (D.stopped d.client.store) d.lost = false
    rw [hD, h]
    unfold Client.lostAfter
    split
    · rfl
    · rfl
  | others call => exact h
  | befall blow => exact h

theorem lost_run {d : Debtor σ} (hD : ∀ st, D.stopped st = false) (h : d.lost = false)
    (events : List (Event D)) : (d.run events).lost = false := by
  induction events generalizing d with
  | nil => exact h
  | cons e events ih => exact ih (lost_step hD h e)

/-- When the store holds nothing, nothing is out and no request is refused for one
that is; and taking the completion ends what is out. -/
structure Ends (D : Desk σ) (d : Debtor σ) : Prop where
  cleared : D.Empty d.client.store → d.client.stage.outstanding = 0
  admits : D.Empty d.client.store → d.client.stage.checkIdle = .ok ()
  delivered : (d.client.step .deliver).2.stage.outstanding = 0

theorem ends_of_settled {d : Debtor σ} (h : d.client.Settled D d.lost) (hlost : d.lost = false) :
    d.Ends D := by
  rw [hlost] at h
  exact ⟨h.cleared, fun hempty => Stage.checkIdle_of_idle (h.cleared hempty), h.delivered⟩

/-! ## A lost request -/

/-- A request is out, and the store, whose workers are stopped, does not owe it. -/
structure Stranded (c : Client DirectoryStore) : Prop where
  stopped : c.store.running = false
  out : c.stage.outstanding = 1
  unowed : ∀ ticket asked, c.due = some (ticket, asked) → ¬ c.store.Owes ticket

/-- Callers can do nothing about it: all that they ask is refused, and there is
nothing to take. -/
theorem Stranded.ask {c : Client DirectoryStore} (h : Stranded c) (act : Act) :
    Stranded (c.step act).2 := by
  by_cases hact : act = .deliver
  · subst hact
    rcases hdue : c.due with _ | ⟨ticket, asked⟩
    · simp only [Client.step, hdue]
      exact h
    · have hawait : ObjectStore.await ticket c.store = (none, c.store) :=
        DirectoryStore.await_unowed (h.unowed ticket asked hdue)
      simp only [Client.step, hdue, hawait]
      refine ⟨h.stopped, h.out, ?_⟩
      intro ticket asked he
      cases he
  · rw [Client.step_busy (by rw [h.out]; decide) hact]
    exact h

theorem Stranded.others {c : Client DirectoryStore} (h : Stranded c) (call : StoreCall) :
    Stranded { c with store := Client.othersCall c.due call c.store } := by
  unfold Client.othersCall
  split
  · exact h
  · refine ⟨(DirectoryStore.call_running call c.store).trans h.stopped, h.out, ?_⟩
    intro ticket asked hdue
    exact DirectoryStore.unowed_call h.stopped (h.unowed ticket asked hdue) call

theorem Stranded.befall {c : Client DirectoryStore} (h : Stranded c) (blow : DirectoryStore.Blow) :
    Stranded { c with store := DirectoryStore.befall blow c.store } := by
  cases blow with
  | stopWorkers => exact ⟨rfl, h.out, h.unowed⟩
  | tree tree => exact ⟨h.stopped, h.out, h.unowed⟩

/-- A request that was lost stays out for good. -/
theorem Stranded.run {d : Debtor DirectoryStore} (h : Stranded d.client)
    (events : List (Event DirectoryStore.desk)) : Stranded (d.run events).client := by
  induction events generalizing d with
  | nil => exact h
  | cons e events ih =>
    apply ih
    cases e with
    | ask act => exact h.ask act
    | others call => exact h.others call
    | befall blow => exact h.befall blow

/-- A store without workers that holds nothing. -/
def Deserted (st : DirectoryStore) : Prop := st.running = false ∧ st.parked = []

/-- No use of it changes that. -/
theorem Deserted.of_used {st st' : DirectoryStore} (h : Deserted st) (hused : Used st st') :
    Deserted st' := by
  refine hused.keeps (P := Deserted) ?_ h
  rintro call st1 - ⟨hstopped, hempty⟩
  refine ⟨(DirectoryStore.call_running call st1).trans hstopped, ?_⟩
  have hsub := DirectoryStore.call_parked hstopped call
  rw [hempty] at hsub
  exact List.subset_nil.mp hsub

/-- A request that is handed in to such a store is lost at once. -/
theorem stranded_of_submitted {c : Client DirectoryStore} {act : Act} {ticket : Ticket}
    (hstore : Deserted c.store) (hreq : c.stage.inflight.requests = [])
    (hstep : (c.step act).1 = .started (.ok (.submitted ticket))) : Stranded (c.step act).2 := by
  have hstranded : ∀ {stage : Stage} {store : DirectoryStore} {due : Option (Ticket × Errand)},
      c.stage.Begun (.ok (.submitted ticket)) stage → Deserted store →
      Stranded { stage, store, due } := by
    intro stage store due hbegun hdeserted
    cases hbegun with
    | out hout _ =>
      refine ⟨hdeserted.1, Stage.outstanding_of_one hout, ?_⟩
      intro t asked _
      exact DirectoryStore.owes_nothing hdeserted.2
  cases act with
  | readAio offset len =>
    rcases hr : c.stage.readAio offset len c.store with ⟨r, stage, store⟩
    simp only [Client.step, hr] at hstep ⊢
    cases hstep
    exact hstranded (Stage.readAio_begun hreq hr) (hstore.of_used (Stage.readAio_used hr))
  | writeAio offset data =>
    rcases hw : c.stage.writeAio offset data c.store with ⟨r, stage, store⟩
    simp only [Client.step, hw] at hstep ⊢
    cases hstep
    exact hstranded (Stage.writeAio_begun hreq hw) (hstore.of_used (Stage.writeAio_used hw))
  | read _ _ => cases hstep
  | write _ _ => cases hstep
  | flush => cases hstep
  | deliver =>
    rcases hdue : c.due with _ | ⟨t, asked⟩
    · simp only [Client.step, hdue] at hstep
      cases hstep
    · rcases hawait : ObjectStore.await t c.store with ⟨_ | done, store⟩
      · simp only [Client.step, hdue, hawait] at hstep
        cases hstep
      · simp only [Client.step, hdue, hawait] at hstep
        cases hstep

end Debtor

end StagedFiles
