-- Stages over stores that are alike, with a request out or none. What a busy stage
-- refuses both refuse, what an idle one does comes to the same, and the two have out
-- the same requests. The outcomes differ in the numbers of their failures at most.
import StagedFiles.Proofs.Client
import StagedFiles.Proofs.FileDeeds
import StagedFiles.Proofs.Ledger
import StagedFiles.Proofs.Likeness

namespace StagedFiles

variable {σ τ : Type} [ObjectStore σ] [ObjectStore τ] {Waits : σ → Ticket → Prop} {fd : Fd}
  {L : Likeness σ τ Waits fd} {kind : AdapterKind} {alone : Prop} {st : σ} {tt : τ}

/-! ## Outcomes -/

/-- The same outcome, but for numbers when it is a failure. -/
inductive Likewise {α : Type} : Except Failure α → Except Failure α → Prop where
  | ok (a : α) : Likewise (.ok a) (.ok a)
  | error {f f' : Failure} : f'.unnumbered = f.unnumbered → Likewise (.error f) (.error f')

theorem Likewise.refl {α : Type} (r : Except Failure α) : Likewise r r := by
  cases r with
  | ok a => exact .ok a
  | error f => exact .error rfl

theorem Likewise.unnumbered {α : Type} {r r' : Except Failure α} (h : Likewise r r') :
    r'.mapError Failure.unnumbered = r.mapError Failure.unnumbered := by
  cases h with
  | ok a => rfl
  | error hf => exact congrArg Except.error hf

/-! ## What is out -/

/-- The stores are alike, and what the stage waits for is out in both and due to both
callers. When the file is alone it has still to run. -/
inductive Owed (L : Likeness σ τ Waits fd) (alone : Prop) (st : σ) (tt : τ) :
    List AioRequest → Option (Ticket × Errand) → Option (Ticket × Errand) → Prop where
  | nothing : L.Like st tt none → Owed L alone st tt [] none none
  | one {request : AioRequest} {t u : Ticket} {errand : Errand} : L.Like st tt (some (t, u)) →
      (alone → Waits st t) → Owed L alone st tt [request] (some (t, errand)) (some (u, errand))

/-! ## Stages -/

namespace Stage

variable {s s' : Stage} {due due' : Option (Ticket × Errand)}

/-- What a busy stage says to a request for a range. -/
def refusal (s : Stage) (offset len : Nat) : Failure :=
  if offset + len ≤ Offset.last then .inFlight s.fd s.outstanding
  else .invalidArgument (.pastLastOffset len offset)

theorem Beside.refusal {p p' : Port} (h : Beside p p' s s') (offset len : Nat) :
    (s'.refusal offset len).unnumbered = (s.refusal offset len).unnumbered := by
  unfold Stage.refusal
  rw [h.outstanding]
  split
  · rfl
  · rfl

theorem read_refused (hbusy : s.outstanding ≠ 0) (offset len : Nat) (st : σ) :
    s.read offset len st = (.error (s.refusal offset len), s, st) := by
  unfold refusal
  split
  · rename_i hlast
    exact read_busy st hlast hbusy
  · rename_i hlast
    exact read_beyond st (Nat.lt_of_not_le hlast)

theorem write_refused (hbusy : s.outstanding ≠ 0) (offset : Nat) (data : Bytes) (st : σ) :
    s.write offset data st = (.error (s.refusal offset data.length), s, st) := by
  unfold refusal
  split
  · rename_i hlast
    exact write_busy st hlast hbusy
  · rename_i hlast
    exact write_beyond st (Nat.lt_of_not_le hlast)

theorem readAio_refused (hbusy : s.outstanding ≠ 0) (offset len : Nat) (st : σ) :
    s.readAio offset len st = (.error (s.refusal offset len), s, st) := by
  unfold refusal
  split
  · rename_i hlast
    exact readAio_busy st hlast hbusy
  · rename_i hlast
    exact readAio_beyond st (Nat.lt_of_not_le hlast)

theorem writeAio_refused (hbusy : s.outstanding ≠ 0) (offset : Nat) (data : Bytes) (st : σ) :
    s.writeAio offset data st = (.error (s.refusal offset data.length), s, st) := by
  unfold refusal
  split
  · rename_i hlast
    exact writeAio_busy st hlast hbusy
  · rename_i hlast
    exact writeAio_beyond st (Nat.lt_of_not_le hlast)

/-- Idle stages are side by side over stores that are alike; or both are busy. -/
theorem Beside.idle_or_busy (h : Beside ⟨kind, fd⟩ ⟨kind, .first⟩ s s')
    (ho : Owed L alone st tt s.inflight.requests due due') :
    (s.inflight.requests = [] ∧ s'.checkIdle = s.checkIdle ∧ L.Like st tt none ∧ due = none ∧
        due' = none) ∨
      (s.outstanding ≠ 0 ∧ s'.outstanding ≠ 0) := by
  generalize hreq : s.inflight.requests = requests at ho
  cases ho with
  | nothing hlike =>
    have hidle : s.outstanding = 0 := congrArg List.length hreq
    have hidle' : s'.outstanding = 0 := h.outstanding.trans hidle
    refine .inl ⟨rfl, ?_, hlike, rfl, rfl⟩
    rw [checkIdle_of_idle hidle, checkIdle_of_idle hidle']
  | one _ _ =>
    have hbusy : s.outstanding = 1 := congrArg List.length hreq
    have hbusy' : s'.outstanding = 1 := h.outstanding.trans hbusy
    exact .inr ⟨by omega, by omega⟩

/-- The two come to the same, with the same outcome but for numbers, and what is out
is as it was. -/
def InStep {α : Type} (L : Likeness σ τ Waits fd) (kind : AdapterKind) (alone : Prop)
    (due due' : Option (Ticket × Errand)) (x : Except Failure α × Stage × σ)
    (x' : Except Failure α × Stage × τ) : Prop :=
  ∃ r s st r' s' tt, x = (r, s, st) ∧ x' = (r', s', tt) ∧ Likewise r r' ∧
    Beside ⟨kind, fd⟩ ⟨kind, .first⟩ s s' ∧ Owed L alone st tt s.inflight.requests due due'

/-- A call that an idle stage makes and a busy one refuses. -/
theorem Beside.inStep {α : Type} {x : Except Failure α × Stage × σ}
    {x' : Except Failure α × Stage × τ} {f f' : Failure}
    (h : Beside ⟨kind, fd⟩ ⟨kind, .first⟩ s s')
    (ho : Owed L alone st tt s.inflight.requests due due')
    (hidle : s'.checkIdle = s.checkIdle → L.Like st tt none → Together (L.pairing kind) x x')
    (hsame : ∀ r s1 st1, x = (r, s1, st1) → s.Same s1)
    (hbusy : s.outstanding ≠ 0 → x = (.error f, s, st))
    (hbusy' : s'.outstanding ≠ 0 → x' = (.error f', s', tt))
    (hf : f'.unnumbered = f.unnumbered) : InStep L kind alone due due' x x' := by
  rcases h.idle_or_busy ho with ⟨hreq, hcheck, hlike, rfl, rfl⟩ | ⟨hb, hb'⟩
  · obtain ⟨r, s1, st1, s1', tt1, hx, hx', hbeside, hlike1⟩ := hidle hcheck hlike
    refine ⟨r, s1, st1, r, s1', tt1, hx, hx', .refl r, hbeside, ?_⟩
    rw [(hsame _ _ _ hx).inflight, hreq]
    exact .nothing hlike1
  · exact ⟨_, _, _, _, _, _, hbusy hb, hbusy' hb', .error hf, h, ho⟩

theorem Beside.read_inStep (h : Beside ⟨kind, fd⟩ ⟨kind, .first⟩ s s')
    (ho : Owed L alone st tt s.inflight.requests due due') (offset len : Nat) :
    InStep L kind alone due due' (s.read offset len st) (s'.read offset len tt) :=
  h.inStep ho (fun hcheck hlike => read_together _ h hlike hcheck offset len)
    (fun _ _ _ hr => read_same hr) (fun hb => read_refused hb offset len st)
    (fun hb => read_refused hb offset len tt) (h.refusal offset len)

theorem Beside.write_inStep (h : Beside ⟨kind, fd⟩ ⟨kind, .first⟩ s s')
    (ho : Owed L alone st tt s.inflight.requests due due') (offset : Nat) (data : Bytes) :
    InStep L kind alone due due' (s.write offset data st) (s'.write offset data tt) :=
  h.inStep ho (fun hcheck hlike => write_together _ h hlike hcheck offset data)
    (fun _ _ _ hw => write_same hw) (fun hb => write_refused hb offset data st)
    (fun hb => write_refused hb offset data tt) (h.refusal offset data.length)

theorem Beside.flush_inStep (h : Beside ⟨kind, fd⟩ ⟨kind, .first⟩ s s')
    (ho : Owed L alone st tt s.inflight.requests due due') :
    InStep L kind alone due due' (s.flush st) (s'.flush tt) :=
  h.inStep ho (fun hcheck hlike => flush_together _ h hlike hcheck)
    (fun _ _ _ hf => flush_same hf) (fun hb => flush_busy st hb) (fun hb => flush_busy tt hb)
    (congrArg (Failure.inFlight .first) h.outstanding)

/-- A request comes to the same in both, and what is out then is due to both callers. -/
def BeginInStep (L : Likeness σ τ Waits fd) (kind : AdapterKind) (alone : Prop)
    (due due' : Option (Ticket × Errand)) (errand : Errand)
    (x : Except Failure (Started Completion) × Stage × σ)
    (x' : Except Failure (Started Completion) × Stage × τ) : Prop :=
  ∃ r s st r' s' tt, x = (r, s, st) ∧ x' = (r', s', tt) ∧
    (Reply.started r').unnumbered = (Reply.started r).unnumbered ∧
    Beside ⟨kind, fd⟩ ⟨kind, .first⟩ s s' ∧
    Owed L alone st tt s.inflight.requests (Client.dueAfter due errand r)
      (Client.dueAfter due' errand r')

/-- A request that an idle stage takes and a busy one refuses. -/
theorem Beside.beginInStep {x : Except Failure (Started Completion) × Stage × σ}
    {x' : Except Failure (Started Completion) × Stage × τ} {f f' : Failure} {errand : Errand}
    (h : Beside ⟨kind, fd⟩ ⟨kind, .first⟩ s s')
    (ho : Owed L alone st tt s.inflight.requests due due')
    (hidle : s'.checkIdle = s.checkIdle → L.Like st tt none → StartsAlike L kind x x')
    (hbegun : ∀ r s1 st1, s.inflight.requests = [] → x = (r, s1, st1) → s.Begun r s1)
    (hbusy : s.outstanding ≠ 0 → x = (.error f, s, st))
    (hbusy' : s'.outstanding ≠ 0 → x' = (.error f', s', tt))
    (hf : f'.unnumbered = f.unnumbered) : BeginInStep L kind alone due due' errand x x' := by
  rcases h.idle_or_busy ho with ⟨hreq, hcheck, hlike, rfl, rfl⟩ | ⟨hb, hb'⟩
  · have hstarts := hidle hcheck hlike
    cases hstarts with
    | refused hbeside hlike1 =>
      cases hbegun _ _ _ hreq rfl with
      | refused hnone _ =>
        refine ⟨_, _, _, _, _, _, rfl, rfl, rfl, hbeside, ?_⟩
        rw [hnone]
        exact .nothing hlike1
    | finished hbeside hlike1 =>
      cases hbegun _ _ _ hreq rfl with
      | ended hnone _ =>
        refine ⟨_, _, _, _, _, _, rfl, rfl, rfl, hbeside, ?_⟩
        rw [hnone]
        exact .nothing hlike1
    | submitted hbeside hlike1 hwaits =>
      cases hbegun _ _ _ hreq rfl with
      | out hone _ =>
        refine ⟨_, _, _, _, _, _, rfl, rfl, rfl, hbeside, ?_⟩
        rw [hone]
        exact .one hlike1 fun _ => hwaits
  · refine ⟨_, _, _, _, _, _, hbusy hb, hbusy' hb', ?_, h, ho⟩
    exact congrArg (fun g => Reply.started (.error g)) hf

theorem Beside.readAio_inStep (h : Beside ⟨kind, fd⟩ ⟨kind, .first⟩ s s')
    (ho : Owed L alone st tt s.inflight.requests due due') (offset len : Nat) :
    BeginInStep L kind alone due due' (.read offset len) (s.readAio offset len st)
      (s'.readAio offset len tt) :=
  h.beginInStep ho (fun hcheck hlike => alike_carries.readAio h hlike hcheck offset len)
    (fun _ _ _ hidle hr => readAio_begun hidle hr) (fun hb => readAio_refused hb offset len st)
    (fun hb => readAio_refused hb offset len tt) (h.refusal offset len)

theorem Beside.writeAio_inStep (h : Beside ⟨kind, fd⟩ ⟨kind, .first⟩ s s')
    (ho : Owed L alone st tt s.inflight.requests due due') (offset : Nat) (data : Bytes) :
    BeginInStep L kind alone due due' (.write offset data) (s.writeAio offset data st)
      (s'.writeAio offset data tt) :=
  h.beginInStep ho (fun hcheck hlike => alike_carries.writeAio h hlike hcheck offset data)
    (fun _ _ _ hidle hw => writeAio_begun hidle hw)
    (fun hb => writeAio_refused hb offset data st)
    (fun hb => writeAio_refused hb offset data tt) (h.refusal offset data.length)

end Stage

end StagedFiles
