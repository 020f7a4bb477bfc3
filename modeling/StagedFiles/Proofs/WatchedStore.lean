-- A store that is watched for writes and hand-ins that fail or fall short, over the
-- store in memory that others use as well. As long as nothing went wrong, its log is
-- a true account of every descriptor that nobody else writes through.
import StagedFiles.Proofs.Auditor
import StagedFiles.Proofs.NewDescriptors

namespace StagedFiles

/-! ## Watching -/

/-- A store whose writes and hand-ins are watched. -/
structure Watched (σ : Type) where
  inner : σ
  /-- A write or a hand-in failed, or a write fell short. -/
  flawed : Bool := false

namespace Watched

variable {σ α : Type}

/-- The call is made, and its answer looked at. -/
def pass (flaw : α → Bool) (call : σ → α × σ) (s : Watched σ) : α × Watched σ :=
  let (r, inner) := call s.inner
  (r, { inner, flawed := s.flawed || flaw r })

/-- Fewer bytes went than were to go. -/
def fellShort (len : Nat) : Except Failure Nat → Bool
  | .ok n => n ≠ len
  | .error _ => true

def wasRefused : Except Failure Ticket → Bool
  | .ok _ => false
  | .error _ => true

/-- The completion of a write that failed. -/
def cameBadly : Option Completion → Bool
  | some (.count (.error _)) => true
  | _ => false

instance [ObjectStore σ] : ObjectStore (Watched σ) where
  name := ObjectStore.name σ
  openPath path access := pass (fun _ => false) (ObjectStore.openPath path access)
  close fd := pass (fun _ => false) (ObjectStore.close fd)
  readAt fd offset len := pass (fun _ => false) (ObjectStore.readAt fd offset len)
  writeAt fd offset data := pass (fellShort data.length) (ObjectStore.writeAt fd offset data)
  submitRead fd offset len := pass wasRefused (ObjectStore.submitRead fd offset len)
  submitWrite fd offset data := pass wasRefused (ObjectStore.submitWrite fd offset data)
  await ticket := pass cameBadly (ObjectStore.await ticket)
  stat fd := pass (fun _ => false) (ObjectStore.stat fd)
  sync fd := pass (fun _ => false) (ObjectStore.sync fd)
  truncate fd len := pass (fun _ => false) (ObjectStore.truncate fd len)
  statPath path := pass (fun _ => false) (ObjectStore.statPath path)
  truncatePath path len := pass (fun _ => false) (ObjectStore.truncatePath path len)
  unlinkPath path := pass (fun _ => false) (ObjectStore.unlinkPath path)

/-- What was seen to go wrong stays seen. -/
theorem pass_flawed (flaw : α → Bool) (call : σ → α × σ) {s : Watched σ} (h : s.flawed = true) :
    (s.pass flaw call).2.flawed = true := by
  show (s.flawed || _) = true
  rw [h]
  rfl

theorem flawed_on [ObjectStore σ] (call : StoreCall) {s : Watched σ} (h : s.flawed = true) :
    (call.on s).flawed = true := by
  cases call with
  | openPath _ _ => exact pass_flawed _ _ h
  | close _ => exact pass_flawed _ _ h
  | readAt _ _ _ => exact pass_flawed _ _ h
  | writeAt _ _ _ => exact pass_flawed _ _ h
  | submitRead _ _ _ => exact pass_flawed _ _ h
  | submitWrite _ _ _ => exact pass_flawed _ _ h
  | await _ => exact pass_flawed _ _ h
  | stat _ => exact pass_flawed _ _ h
  | sync _ => exact pass_flawed _ _ h
  | truncate _ _ => exact pass_flawed _ _ h
  | statPath _ => exact pass_flawed _ _ h
  | truncatePath _ _ => exact pass_flawed _ _ h
  | unlinkPath _ => exact pass_flawed _ _ h

end Watched

/-! ## The auditor of a store in memory -/

namespace MemoryStore

/-- Whatever others do, and whenever, the books of the descriptor stay. -/
def SparesBooks (fd : Fd) (others : Nat → MemoryStore → MemoryStore) : Prop :=
  ∀ k st n out, Booked fd st.parked st n out → Booked fd (others k st).parked (others k st) n out

/-- Nothing went wrong, and the log is a true account of the descriptor. -/
structure TrueBooks (fd : Fd) (st : Watched (Shared MemoryStore)) (n : Nat)
    (out : Option (Ticket × Errand)) : Prop where
  fine : st.flawed = false
  booked : Booked fd st.inner.inner.parked st.inner.inner n out
  spared : SparesBooks fd st.inner.others

variable {fd : Fd} {st st' : Watched (Shared MemoryStore)} {n : Nat}
  {out : Option (Ticket × Errand)}

/-- A call through both wrappers is a call on a store with the same books. -/
theorem TrueBooks.turn {α : Type} {flaw : α → Bool} {call : MemoryStore → α × MemoryStore} {r : α}
    (h : TrueBooks fd st n out) (hc : st.pass flaw (Shared.turn call) = (r, st')) :
    ∃ inner, Booked fd inner.parked inner n out ∧ call inner = (r, st'.inner.inner) ∧
      SparesBooks fd st'.inner.others ∧ st'.flawed = flaw r := by
  refine ⟨st.inner.others st.inner.calls st.inner.inner, h.spared _ _ _ _ h.booked, ?_⟩
  unfold Watched.pass Shared.turn at hc
  obtain ⟨rfl, rfl⟩ := Prod.mk.inj hc
  refine ⟨rfl, h.spared, ?_⟩
  show (st.flawed || _) = _
  rw [h.fine]
  rfl

/-- The close of the descriptor leaves its log. -/
theorem TrueBooks.logged_close {r : Except Failure Unit} (h : TrueBooks fd st n none)
    (hc : ObjectStore.close fd st = (r, st')) : st'.inner.inner.logged fd = n := by
  have hinner := h.spared st.inner.calls _ _ _ h.booked
  obtain rfl : (ObjectStore.close fd st).2 = st' := congrArg Prod.snd hc
  exact (hinner.quiet (.close fd) trivial).sum

/-- The books of a descriptor are clean when an open gives it out. -/
theorem trueBooks_of_open {path : String} {access : Access} (hfine : st.flawed = false)
    (hnumbered : st.inner.inner.Numbered)
    (hothers : ∀ k inner, Numbered inner → Numbered (st.inner.others k inner))
    (hspared : SparesBooks fd st.inner.others)
    (ho : ObjectStore.openPath path access st = (.ok fd, st')) : TrueBooks fd st' 0 none := by
  have hopen : st.pass (fun _ => false) (Shared.turn (MemoryStore.openPath path access)) =
      (.ok fd, st') := ho
  rcases hinner : (st.inner.others st.inner.calls st.inner.inner).openPath path access with ⟨r, inner⟩
  unfold Watched.pass Shared.turn at hopen
  rw [hinner] at hopen
  cases hopen
  exact ⟨(Bool.or_false _).trans hfine, (hothers _ _ hnumbered).opened hinner, hspared⟩

/-- The auditor of a descriptor of a store in memory. -/
def auditor (fd : Fd) : Auditor (Watched (Shared MemoryStore)) fd where
  Books := TrueBooks fd
  Void st := st.flawed = true
  void_on call h := Watched.flawed_on call h
  light {call st n out} hlight h := by
    have hspared := h.spared st.inner.calls _ _ _ h.booked
    cases call with
    | readAt fd' offset len => exact ⟨(Bool.or_false _).trans h.fine, hspared.read .., h.spared⟩
    | stat fd' =>
      exact ⟨(Bool.or_false _).trans h.fine, hspared.quiet (.stat fd') trivial, h.spared⟩
    | sync fd' =>
      exact ⟨(Bool.or_false _).trans h.fine, hspared.quiet (.sync fd') trivial, h.spared⟩
    | truncate fd' len =>
      exact ⟨(Bool.or_false _).trans h.fine, hspared.quiet (.truncate fd' len) trivial,
        h.spared⟩
    | _ => exact hlight.elim
  write h hw := by
    obtain ⟨inner, hb, hcall, hspared, hflaw⟩ := h.turn hw
    rcases hb.write hcall with ⟨f, rfl⟩ | ⟨rfl, hb'⟩
    · exact .inl hflaw
    · refine .inr ⟨rfl, ?_, hb', hspared⟩
      rw [hflaw]
      exact decide_eq_false fun hne => hne rfl
  submitRead h hs := by
    obtain ⟨inner, hb, hcall, hspared, hflaw⟩ := h.turn hs
    rcases hb.submitRead hcall with ⟨f, rfl⟩ | ⟨t, rfl, hb'⟩
    · exact .inl hflaw
    · exact .inr ⟨t, rfl, hflaw, hb', hspared⟩
  submitWrite h hs := by
    obtain ⟨inner, hb, hcall, hspared, hflaw⟩ := h.turn hs
    rcases hb.submitWrite hcall with ⟨f, rfl⟩ | ⟨t, rfl, hb'⟩
    · exact .inl hflaw
    · exact .inr ⟨t, rfl, hflaw, hb', hspared⟩
  await_read h ha := by
    obtain ⟨inner, hb, hcall, hspared, hflaw⟩ := h.turn ha
    obtain ⟨done, rfl, hcame, hafter⟩ := hb.await hcall
    cases hcame with
    | read hlog => exact ⟨_, rfl, hflaw, hafter _ hlog, hspared⟩
  await_write h ha := by
    obtain ⟨inner, hb, hcall, hspared, hflaw⟩ := h.turn ha
    obtain ⟨done, rfl, hcame, hafter⟩ := hb.await hcall
    cases hcame with
    | failed _ => exact .inl hflaw
    | went hlog => exact .inr ⟨rfl, hflaw, hafter _ hlog, hspared⟩

end MemoryStore

end StagedFiles
