-- Stores know nothing of the requests of a stage. So when a transfer fails, it is never
-- because a request is out, and a stage with none out refuses no request for that.
import StagedFiles.Proofs.KeptRequests
import StagedFiles.Proofs.MemoryKeeper

namespace StagedFiles

/-- The failure says that a request is out. -/
def Failure.isInFlight : Failure → Bool
  | .inFlight _ _ => true
  | _ => false

/-! ## Stores -/

/-- A failure that the store brings for the kept descriptor never says that a request is out. -/
structure Keeper.Unaware {σ : Type} [ObjectStore σ] {fd : Fd} (K : Keeper σ fd) : Prop where
  writeAt {st st' : σ} {b : Bytes} {out : Option (Ticket × Errand)} {offset : Nat} {data : Bytes}
    {f : Failure} :
    K.Keeps st b out → ObjectStore.writeAt fd offset data st = (.error f, st') →
      f.isInFlight = false
  submitRead {st st' : σ} {b : Bytes} {offset len : Nat} {f : Failure} :
    K.Keeps st b none → ObjectStore.submitRead fd offset len st = (.error f, st') →
      f.isInFlight = false
  submitWrite {st st' : σ} {b : Bytes} {offset : Nat} {data : Bytes} {f : Failure} :
    K.Keeps st b none → ObjectStore.submitWrite fd offset data st = (.error f, st') →
      f.isInFlight = false
  await_write {st st' : σ} {b : Bytes} {ticket : Ticket} {offset : Nat} {data : Bytes}
    {f : Failure} :
    K.Keeps st b (some (ticket, .write offset data)) →
      ObjectStore.await ticket st = (some (.count (.error f)), st') → f.isInFlight = false

/-- Others that use the store as well add nothing to its failures. -/
theorem Keeper.Unaware.shared {σ : Type} [ObjectStore σ] {fd : Fd} {K : Keeper σ fd}
    (hK : K.Unaware) : K.shared.Unaware where
  writeAt h hc := by
    obtain ⟨st, hk, hcall, _⟩ := KeepsShared.turn h hc
    exact hK.writeAt hk hcall
  submitRead h hc := by
    obtain ⟨st, hk, hcall, _⟩ := KeepsShared.turn h hc
    exact hK.submitRead hk hcall
  submitWrite h hc := by
    obtain ⟨st, hk, hcall, _⟩ := KeepsShared.turn h hc
    exact hK.submitWrite hk hcall
  await_write h hc := by
    obtain ⟨st, hk, hcall, _⟩ := KeepsShared.turn h hc
    exact hK.await_write hk hcall

namespace MemoryStore

variable {fd : Fd} {st st' : MemoryStore} {f : Failure}

theorem performWrite_unaware {offset : Nat} {data : Bytes} {aio : Bool}
    (h : st.performWrite fd offset data aio = (.error f, st')) : f.isInFlight = false := by
  unfold performWrite at h
  split at h
  · cases h
    rfl
  · split at h
    · cases h
      rfl
    · split at h
      · cases h
      · cases h
        rfl

theorem writeAt_unaware {offset : Nat} {data : Bytes}
    (h : st.writeAt fd offset data = (.error f, st')) : f.isInFlight = false :=
  performWrite_unaware h

theorem perform_unaware {offset : Nat} {data : Bytes}
    (h : (st.perform (.write fd offset data)).1 = .count (.error f)) : f.isInFlight = false := by
  rcases hw : st.performWrite fd offset data true with ⟨r, after⟩
  simp only [perform, hw, Completion.count.injEq] at h
  subst h
  exact performWrite_unaware hw

theorem checkSubmit_unaware (h : st.checkSubmit fd = (.error f, st')) : f.isInFlight = false := by
  unfold checkSubmit at h
  split at h
  · cases h
    rfl
  · split at h
    · cases h
    · cases h
      rfl

theorem submitRead_unaware {offset len : Nat}
    (h : st.submitRead fd offset len = (.error f, st')) : f.isInFlight = false := by
  unfold MemoryStore.submitRead at h
  split at h
  · rename_i hcheck
    cases h
    exact checkSubmit_unaware hcheck
  · cases h

theorem submitWrite_unaware {offset : Nat} {data : Bytes}
    (h : st.submitWrite fd offset data = (.error f, st')) : f.isInFlight = false := by
  unfold MemoryStore.submitWrite at h
  split at h
  · rename_i hcheck
    cases h
    exact checkSubmit_unaware hcheck
  · cases h

/-- The completion of a transfer of the store in memory is what the transfer came to. -/
theorem keeper_unaware (fd : Fd) (o : ObjectId) (access : Access) :
    (keeper fd o access).Unaware where
  writeAt _ hc := by
    have hcall := Throttled.pass_eq hc
    exact writeAt_unaware hcall
  submitRead _ hc := by
    have hcall := Throttled.pass_eq hc
    exact submitRead_unaware hcall
  submitWrite _ hc := by
    have hcall := Throttled.pass_eq hc
    exact submitWrite_unaware hcall
  await_write h hc := by
    obtain ⟨job, hjob, hk⟩ := h
    cases hjob
    obtain ⟨ready, _, hran, _⟩ := hk.await (Throttled.pass_eq hc)
    exact perform_unaware (Option.some.inj hran).symm

end MemoryStore

/-! ## Transfers and requests -/

section Requests

variable {σ : Type} [ObjectStore σ] {fd : Fd} {K : Keeper σ fd} {st st' : σ} {object : Bytes}
  {f : Failure} (hK : K.Unaware)

include hK

namespace Adapter

variable {a a' : Adapter} {offset count : Nat}

theorem submitRead_unaware (hfd : a.fd = fd) (hcap : count ≤ a.buffer.capacity)
    (hk : K.Keeps st object none) (h : a.submitRead offset count st = (.error f, a', st')) :
    f.isInFlight = false := by
  unfold submitRead at h
  rw [checkCount_ok hcap] at h
  rcases hkind : a.kind with _ | _
  · simp only [hkind] at h
    cases h
  · rcases hs : ObjectStore.submitRead a.fd offset count st with ⟨g | t, st1⟩
    · simp only [hkind, hs, Prod.mk.injEq, Except.error.injEq] at h
      obtain ⟨rfl, -, -⟩ := h
      exact hK.submitRead hk (hfd ▸ hs)
    · simp only [hkind, hs] at h
      cases h

theorem writeNow_unaware (hfd : a.fd = fd) (hk : K.Keeps st object none)
    (h : a.writeNow offset count st = (.error f, a', st')) : f.isInFlight = false := by
  unfold writeNow at h
  rcases hw : ObjectStore.writeAt a.fd offset (a.buffer.peek 0 count) st with ⟨g | n, st1⟩
  · rw [hw] at h
    cases h
    exact hK.writeAt hk (hfd ▸ hw)
  · rw [hw] at h
    cases h

/-- A write that is handed in may be refused, and may fail at once. -/
theorem submitWrite_unaware {r : Except Failure (Started (Except Failure Nat))}
    (hfd : a.fd = fd) (hcap : count ≤ a.buffer.capacity) (hk : K.Keeps st object none)
    (h : a.submitWrite offset count st = (r, a', st'))
    (hr : r = .error f ∨ r = .ok (.finished (.error f))) : f.isInFlight = false := by
  unfold submitWrite at h
  rw [checkCount_ok hcap] at h
  rcases hkind : a.kind with _ | _
  · rcases hn : a.writeNow offset count st with ⟨q, a1, st1⟩
    simp only [hkind, hn, Prod.mk.injEq] at h
    obtain ⟨rfl, -, -⟩ := h
    rcases hr with hr | hr
    · cases hr
    · cases hr
      exact writeNow_unaware hK hfd hk hn
  · rcases hs : ObjectStore.submitWrite a.fd offset (a.buffer.peek 0 count) st with ⟨g | t, st1⟩
    · simp only [hkind, hs, Prod.mk.injEq] at h
      obtain ⟨rfl, -, -⟩ := h
      rcases hr with hr | hr
      · cases hr
        exact hK.submitWrite hk (hfd ▸ hs)
      · cases hr
    · simp only [hkind, hs, Prod.mk.injEq] at h
      obtain ⟨rfl, -, -⟩ := h
      rcases hr with hr | hr
      · cases hr
      · cases hr

/-- A write that is waited for, over at once or as a completion. -/
theorem write_unaware (hfd : a.fd = fd) (hcap : count ≤ a.buffer.capacity)
    (hk : K.Keeps st object none) (h : a.write offset count st = (.error f, a', st')) :
    f.isInFlight = false := by
  unfold write at h
  rcases hs : a.submitWrite offset count st with ⟨started, a1, st1⟩
  rw [hs] at h
  rcases (submitWrite_kept hfd hcap hk hs).2 with ⟨g, rfl, _⟩ | ⟨ticket, rfl, hk1⟩ | ⟨q, rfl, _⟩
  · cases h
    exact submitWrite_unaware hK hfd hcap hk hs (.inl rfl)
  · dsimp only [settle] at h
    rcases hw : ObjectStore.await ticket st1 with ⟨c, st2⟩
    rcases K.await_write hk1 hw with ⟨g, _, rfl, _⟩ | ⟨n, rfl, _⟩
    · rw [hw] at h
      cases h
      exact hK.await_write hk1 hw
    · rw [hw] at h
      cases h
  · cases h
    exact submitWrite_unaware hK hfd hcap hk hs (.inr rfl)

end Adapter

namespace Stage

variable {s s' : Stage}

theorem flushNow_unaware (hfd : s.fd = fd) (hk : K.Keeps st object none)
    (h : s.flushNow st = (.error f, s', st')) : f.isInFlight = false := by
  cases flushNow_cases h with
  | failed _ hw => exact Adapter.write_unaware hK hfd s.buffer.len_le hk hw
  | short _ _ _ => rfl

theorem readAio_unaware {offset len : Nat} (hfd : s.fd = fd) (hk : K.Keeps st object none)
    (hidle : s.outstanding = 0) (h : s.readAio offset len st = (.error f, s', st')) :
    f.isInFlight = false := by
  cases readAio_cases h with
  | beyond _ => rfl
  | busy _ hbusy => exact absurd hidle hbusy
  | unflushed _ hf => exact flushNow_unaware hK hfd hk hf
  | refused _ hf hs =>
    obtain ⟨_, hq, _, hfd1, _⟩ := flushed_kept hfd hk hf
    exact Adapter.submitRead_unaware hK hfd1 (Nat.le_refl _) hq.keeps hs

theorem writeAio_unaware {offset : Nat} {data : Bytes} (hfd : s.fd = fd)
    (hk : K.Keeps st object none) (hidle : s.outstanding = 0)
    (h : s.writeAio offset data st = (.error f, s', st')) : f.isInFlight = false := by
  cases writeAio_cases h with
  | beyond _ => rfl
  | busy _ hbusy => exact absurd hidle hbusy
  | unflushed _ hf => exact flushNow_unaware hK hfd hk hf
  | @refused n f s1 a st1 _ hcap _ hf hs =>
    obtain ⟨_, hq, _, hfd1, _⟩ := flushed_kept hfd hk hf
    have hloaded : (s1.loaded offset data hcap).adapter.fd = fd := hfd1
    exact Adapter.submitWrite_unaware hK hloaded hcap hq.keeps hs (.inl rfl)

end Stage

end Requests

end StagedFiles
