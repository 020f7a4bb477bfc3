-- A stage whose adapter blocks beside one whose adapter hands in. Flush, reads,
-- writes and requests do the same to both, and each fault meets both at the same point.
import StagedFiles.Proofs.AdapterTwins
import StagedFiles.Proofs.StagePairs

namespace StagedFiles.Stage

variable {σ τ : Type} [ObjectStore σ] [ObjectStore τ] {fd : Fd} {s s' : Stage} {st : σ} {st' : τ}

/-! ## Two stages -/

/-- Two stages that have come to the same, but for the kind of their adapters. -/
structure Twins (fd : Fd) (s s' : Stage) : Prop where
  adapter : s.adapter.Twins fd s'.adapter
  dirty : s'.dirty = s.dirty
  inflight : s'.inflight = s.inflight
  stats : s'.stats = s.stats

namespace Twins

theorem beside (h : Twins fd s s') : Beside ⟨.sync, fd⟩ ⟨.async, fd⟩ s s' :=
  ⟨h.adapter.beside, h.dirty, h.inflight, h.stats⟩

theorem buffer (h : Twins fd s s') : s.buffer.Alike s'.buffer := h.adapter.buffer

theorem outstanding (h : Twins fd s s') : s'.outstanding = s.outstanding := h.beside.outstanding

theorem checkIdle (h : Twins fd s s') : s'.checkIdle = s.checkIdle := by
  unfold Stage.checkIdle
  rw [h.outstanding, show s'.fd = s.fd from h.adapter.fd_eq'.trans h.adapter.fd_eq.symm]

end Twins

theorem Beside.twins (h : Beside ⟨.sync, fd⟩ ⟨.async, fd⟩ s s') : Twins fd s s' :=
  ⟨h.adapter.twins, h.dirty, h.inflight, h.stats⟩

/-- The two come to the same, with the same answer. -/
def AsOne {α : Type} (E : Echo σ τ fd) (x : α × Stage × σ) (x' : α × Stage × τ) : Prop :=
  ∃ r s st s' st', x = (r, s, st) ∧ x' = (r, s', st') ∧ Twins fd s s' ∧ E.Abreast st st'

variable (E : Echo σ τ fd)

theorem Together.asOne {α : Type} {x : α × Stage × σ} {x' : α × Stage × τ}
    (h : Together E.pairing x x') : AsOne E x x' := by
  obtain ⟨r, s, st, s', st', hx, hx', hbeside, hs⟩ := h
  exact ⟨r, s, st, s', st', hx, hx', hbeside.twins, hs⟩

theorem read_as_one (h : Twins fd s s') (hs : E.Abreast st st') (offset len : Nat) :
    AsOne E (s.read offset len st) (s'.read offset len st') :=
  (read_together E.pairing h.beside hs h.checkIdle offset len).asOne

theorem write_as_one (h : Twins fd s s') (hs : E.Abreast st st') (offset : Nat) (data : Bytes) :
    AsOne E (s.write offset data st) (s'.write offset data st') :=
  (write_together E.pairing h.beside hs h.checkIdle offset data).asOne

theorem flush_as_one (h : Twins fd s s') (hs : E.Abreast st st') :
    AsOne E (s.flush st) (s'.flush st') :=
  (flush_together E.pairing h.beside hs h.checkIdle).asOne

/-! ## Requests -/

/-- A request that one stage ends at once and the other may have out: it ends the
same when the completion is taken. -/
inductive Echoed (E : Echo σ τ fd) : Except Failure (Started Completion) × Stage × σ →
    Except Failure (Started Completion) × Stage × τ → Prop where
  | refused {f : Failure} {s s' : Stage} {st : σ} {st' : τ} : Twins fd s s' → E.Abreast st st' →
      Echoed E (.error f, s, st) (.error f, s', st')
  | finished {c : Completion} {s s' : Stage} {st : σ} {st' : τ} : Twins fd s s' → E.Abreast st st' →
      Echoed E (.ok (.finished c), s, st) (.ok (.finished c), s', st')
  | echoed {c done : Completion} {ticket : Ticket} {s out s' : Stage} {st : σ} {out' st' : τ} :
      ObjectStore.await ticket out' = (some done, st') → out.complete done = (c, s') →
      Twins fd s s' → E.Abreast st st' →
      Echoed E (.ok (.finished c), s, st) (.ok (.submitted ticket), out, out')

/-- Taking the completion of a request gives its answer once the adapter is done. -/
theorem complete_of_read {offset len : Nat} {done : Completion} {q : Except Failure Nat}
    {a : Adapter} (hreq : s.inflight.requests = [.read offset len])
    (hf : s.adapter.finish offset s.capacity done = (q, a)) :
    s.complete done = { s with adapter := a }.answer q := by
  unfold Stage.complete
  rw [hreq]
  dsimp only
  rw [hf]

theorem complete_of_write {offset len : Nat} {done : Completion} {q : Except Failure Nat}
    {a : Adapter} (hreq : s.inflight.requests = [.write offset len])
    (hf : s.adapter.finish offset len done = (q, a)) :
    s.complete done = { s with adapter := a }.answer q := by
  unfold Stage.complete
  rw [hreq]
  dsimp only
  rw [hf]

theorem begun_echoed (back back' : Adapter → Adapter) {offset count : Nat}
    {x : Except Failure (Started (Except Failure Nat)) × Adapter × σ}
    {x' : Except Failure (Started (Except Failure Nat)) × Adapter × τ}
    (h : Beside ⟨.sync, fd⟩ ⟨.async, fd⟩ s s')
    (hback : ∀ a a' : Adapter, a.Beside ⟨.sync, fd⟩ ⟨.async, fd⟩ a' →
      (back a).Beside ⟨.sync, fd⟩ ⟨.async, fd⟩ (back' a'))
    (hcomplete : ∀ done q a, s'.adapter.finish offset count done = (q, a) →
      s'.complete done = { s' with adapter := a }.answer q)
    (hecho : Adapter.Echoed E s'.adapter offset count x x') :
    Echoed E (begun back s x) (begun back' s' x') := by
  cases hecho with
  | refused ha hs =>
    have hrest := (h.withAdapter (hback _ _ ha.beside)).withInflight s.inflight.finish
    unfold begun
    dsimp only
    rw [h.inflight]
    exact .refused hrest.twins hs
  | echoed hwait hfinish ha hs =>
    obtain ⟨hsame, hrest⟩ := (h.withAdapter ha.beside).answer _
    refine .echoed hwait ?_ hrest.twins hs
    rw [hcomplete _ _ _ hfinish]
    exact Prod.ext hsame rfl

/-- Requests that their adapters start end the same when the completion is taken. -/
theorem echoed_carries : Carries E.pairing (Echoed E) where
  refused h hs := .refused h.twins hs
  finished h hs := .finished h.twins hs
  read {offset len s s' st st'} h hs hreq := by
    have hreq' : s'.inflight.requests = [.read offset len] := by rw [h.inflight, hreq]
    rw [h.capacity]
    refine begun_echoed E id id h (fun _ _ ha => ha) ?_
      (Adapter.submitRead_echoed E h.twins.adapter hs offset s.capacity)
    intro done q a hfinish
    rw [← h.capacity] at hfinish
    exact complete_of_read hreq' hfinish
  write {offset len s s' st st' back back'} h hs hreq hback := by
    have hreq' : s'.inflight.requests = [.write offset len] := by rw [h.inflight, hreq]
    refine begun_echoed E back back' h hback ?_
      (Adapter.submitWrite_echoed E h.twins.adapter hs offset len)
    intro done q a hfinish
    exact complete_of_write hreq' hfinish

theorem readAio_echoed (h : Twins fd s s') (hs : E.Abreast st st') (offset len : Nat) :
    Echoed E (s.readAio offset len st) (s'.readAio offset len st') :=
  (echoed_carries E).readAio h.beside hs h.checkIdle offset len

theorem writeAio_echoed (h : Twins fd s s') (hs : E.Abreast st st') (offset : Nat) (data : Bytes) :
    Echoed E (s.writeAio offset data st) (s'.writeAio offset data st') :=
  (echoed_carries E).writeAio h.beside hs h.checkIdle offset data

end StagedFiles.Stage
