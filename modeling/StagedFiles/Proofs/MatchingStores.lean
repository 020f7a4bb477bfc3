-- Stores that complete a read as a read. That is all that the loops of a stage need of
-- their store: what a read brings, how much of it, and whether it fails may be different
-- at each call.
import StagedFiles.Proofs.KeptObject
import StagedFiles.Proofs.StoreCalls

namespace StagedFiles

/-! ## Completions of the right kind -/

/-- A store that tells a read its bytes, or its error, when it was handed in and is waited
for at once. -/
structure Matching (σ : Type) [ObjectStore σ] where
  /-- The stores that do. -/
  Fits : σ → Prop
  keeps {st : σ} (call : StoreCall) : call.Uses → Fits st → Fits (call.on st)
  completes {st st1 st2 : σ} {fd : Fd} {offset len : Nat} {ticket : Ticket} {c : Completion} :
    Fits st → ObjectStore.submitRead fd offset len st = (.ok ticket, st1) →
      ObjectStore.await ticket st1 = (some c, st2) → ∃ r, c = .bytes r

variable {σ : Type} [ObjectStore σ]

/-- It goes on to do so, whatever is done with open descriptors. -/
theorem Matching.used (M : Matching σ) {st st' : σ} (h : Used st st') (hst : M.Fits st) :
    M.Fits st' := h.keeps (fun call _ huse => M.keeps call huse) hst

/-! ## The store in memory -/

namespace MemoryStore

variable {st st' : MemoryStore}

/-- No transfer has a ticket that is still to be given. -/
structure Dated (st : MemoryStore) : Prop where
  parked : ∀ x ∈ st.parked, x.1.serial < st.nextTicket.serial
  finished : ∀ x ∈ st.finished, x.1.serial < st.nextTicket.serial

theorem Dated.of_same (h : st.Dated) (hp : st'.parked = st.parked)
    (hf : st'.finished = st.finished) (ht : st'.nextTicket = st.nextTicket) : st'.Dated := by
  refine ⟨?_, ?_⟩
  · rw [hp, ht]
    exact h.parked
  · rw [hf, ht]
    exact h.finished

theorem Dated.park (h : st.Dated) (job : Job) : (st.park job).2.Dated := by
  refine ⟨fun x hx => ?_, fun x hx => Nat.lt_succ_of_lt (h.finished x hx)⟩
  rcases List.mem_append.mp hx with hx | hx
  · exact Nat.lt_succ_of_lt (h.parked x hx)
  · rw [List.mem_singleton.mp hx]
    exact Nat.lt_succ_self _

/-- What is handed in is parked for the next ticket, or refused. -/
theorem checkSubmit_dated (h : st.Dated) (fd : Fd) : (st.checkSubmit fd).2.Dated := by
  rcases checkSubmit_cases st fd with ⟨f, faults, hc⟩ | hc
  · rw [hc]
    exact h.of_same rfl rfl rfl
  · rw [hc]
    exact h

theorem Dated.perform (h : st.Dated) (job : Job) : (st.perform job).2.Dated := by
  obtain ⟨faults, objects, written, hf⟩ := perform_frame st job
  rw [hf]
  exact h.of_same rfl rfl rfl

/-- All that ran was handed in before. -/
theorem Dated.runParked (h : st.Dated) : st.runParked.2.Dated := by
  obtain ⟨faults, objects, written, more, hran, htickets⟩ :=
    performAll_ran st.parked { st with parked := [] }
  have hall : st.runParked.2 = _ := hran
  rw [hall]
  refine ⟨fun x hx => absurd hx List.not_mem_nil, fun x hx => ?_⟩
  rcases List.mem_append.mp hx with hold | hnew
  · exact h.finished x hold
  · obtain ⟨y, hy, hyx⟩ := ticket_of_ran htickets hnew
    rw [← hyx]
    exact h.parked y hy

theorem Dated.await (h : st.Dated) (ticket : Ticket) : (st.await ticket).2.Dated := by
  unfold MemoryStore.await
  rcases st.delivery with _ | _
  · dsimp only
    unfold runOne
    split
    · exact h
    · rename_i job _
      have hrest : ({ st with parked := st.parked.filter (·.1 ≠ ticket) } : MemoryStore).Dated :=
        ⟨fun x hx => h.parked x (List.mem_filter.mp hx).1, h.finished⟩
      exact hrest.perform job
  · have hran := h.runParked
    exact ⟨hran.parked, fun x hx => hran.finished x (List.mem_filter.mp hx).1⟩

theorem Dated.call (h : st.Dated) {call : StoreCall} (huse : call.Uses) : (call.on st).Dated := by
  cases call with
  | readAt fd offset len =>
    have hperform := (h.of_same rfl rfl rfl :
      (st.count fun c => { c with preads := c.preads + 1 }).Dated).perform (.read fd offset len)
    show (MemoryStore.readAt fd offset len st).2.Dated
    unfold MemoryStore.readAt
    dsimp only [MemoryStore.perform] at hperform ⊢
    split
    · rename_i hr
      rw [hr] at hperform
      exact hperform
    · rename_i hr
      rw [hr] at hperform
      exact hperform
  | writeAt fd offset data =>
    show (MemoryStore.performWrite fd offset data false _).2.Dated
    rcases performWrite_cases (st.count fun c => { c with pwrites := c.pwrites + 1 }) fd offset data
      false with ⟨f, faults, hw⟩ | ⟨handle, _, hw⟩
    · rw [hw]
      exact h.of_same rfl rfl rfl
    · rw [hw]
      exact h.of_same rfl rfl rfl
  | submitRead fd offset len =>
    have hchecked := checkSubmit_dated h fd
    show (MemoryStore.submitRead fd offset len st).2.Dated
    unfold MemoryStore.submitRead
    split
    · rename_i hc
      rw [hc] at hchecked
      exact hchecked
    · rename_i ready hc
      rw [hc] at hchecked
      have hcounted : (ready.count fun c => { c with aioReads := c.aioReads + 1 }).Dated :=
        hchecked.of_same rfl rfl rfl
      exact hcounted.park (.read fd offset len)
  | submitWrite fd offset data =>
    have hchecked := checkSubmit_dated h fd
    show (MemoryStore.submitWrite fd offset data st).2.Dated
    unfold MemoryStore.submitWrite
    split
    · rename_i hc
      rw [hc] at hchecked
      exact hchecked
    · rename_i ready hc
      rw [hc] at hchecked
      have hcounted : (ready.count fun c => { c with aioWrites := c.aioWrites + 1 }).Dated :=
        hchecked.of_same rfl rfl rfl
      exact hcounted.park (.write fd offset data)
  | await ticket => exact h.await ticket
  | stat fd =>
    show (MemoryStore.stat fd st).2.Dated
    unfold MemoryStore.stat
    split
    · exact h
    · exact h
  | sync fd => exact h.of_same rfl rfl rfl
  | truncate fd len =>
    show (MemoryStore.truncate fd len st).2.Dated
    unfold MemoryStore.truncate
    dsimp only
    split
    · exact h.of_same rfl rfl rfl
    · split
      · exact h.of_same rfl rfl rfl
      · exact h.of_same rfl rfl rfl
  | _ => exact huse.elim

/-- A transfer that is handed in and waited for runs, and says how it came out. -/
theorem Dated.await_park (h : st.Dated) (job : Job) :
    ∃ ready : MemoryStore,
      ((st.park job).2.await st.nextTicket).1 = some (ready.perform job).1 := by
  have hforeign : ∀ x ∈ st.parked ++ [], x.1 ≠ st.nextTicket := by
    intro x hx he
    rw [List.append_nil] at hx
    have := h.parked x hx
    rw [he] at this
    exact Nat.lt_irrefl _ this
  have hfinished : ∀ x ∈ st.finished, x.1 ≠ st.nextTicket := by
    intro x hx he
    have := h.finished x hx
    rw [he] at this
    exact Nat.lt_irrefl _ this
  have hjobs : (st.park job).2.parked = st.parked ++ (st.nextTicket, job) :: [] := rfl
  unfold MemoryStore.await
  rcases (st.park job).2.delivery with _ | _
  · exact ⟨_, congrArg Prod.fst (runOne_at hjobs hforeign)⟩
  · exact ⟨_, (runParked_at hjobs hforeign hfinished).2⟩

/-- The store in memory completes reads as reads. -/
def matching : Matching MemoryStore where
  Fits := Dated
  keeps _ huse h := h.call huse
  completes {st st1 st2 fd offset len ticket c} h hs hw := by
    have hchecked := checkSubmit_dated h fd
    have hs' : MemoryStore.submitRead fd offset len st = (.ok ticket, st1) := hs
    unfold MemoryStore.submitRead at hs'
    split at hs'
    · cases hs'
    · rename_i ready hc
      rw [hc] at hchecked
      cases hs'
      have hcounted : (ready.count fun c => { c with aioReads := c.aioReads + 1 }).Dated :=
        hchecked.of_same rfl rfl rfl
      obtain ⟨ran, hran⟩ := hcounted.await_park (.read fd offset len)
      have hsome : some (ran.perform (.read fd offset len)).1 = some c :=
        hran.symm.trans (congrArg Prod.fst hw)
      obtain rfl := Option.some.inj hsome
      exact ⟨_, rfl⟩

end MemoryStore

end StagedFiles
