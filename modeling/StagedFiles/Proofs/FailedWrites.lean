-- Writes that fail, and that are tried again. A write that fails has laid whole
-- pieces of its data over the file, each as large as the buffer; the next try lays
-- its own over them, and the one that comes out well lays all of the data, as if
-- it had been the first.
import StagedFiles.Proofs.ReachedClient

namespace StagedFiles.Client

variable {σ : Type} [ObjectStore σ] {fd : Fd} {K : Keeper σ fd} {content : σ → Bytes}
  {capacity : Nat} {c c' c'' : Client σ} {offset : Nat} {data : Bytes}

/-! ## One write -/

/-- A write in range lays all of its data over the file that is seen, or fails with
whole pieces of them laid. -/
theorem Rests.write {r : Except Failure Nat} (h : Rests K content capacity c)
    (hlast : offset + data.length ≤ Offset.last)
    (hstep : c.step (.write offset data) = (.count r, c')) :
    Rests K content capacity c' ∧
      (∀ n, r = .ok n → n = data.length ∧
        c'.seen content = Bytes.written (c.seen content) offset data) ∧
      ∀ f, r = .error f →
        Bytes.PiecesLaid (c.seen content) offset capacity data (c'.seen content) := by
  rcases hw : c.stage.write offset data c.store with ⟨q, stage, store⟩
  simp only [Client.step, hw, Prod.mk.injEq, Reply.count.injEq] at hstep
  obtain ⟨rfl, rfl⟩ := hstep
  have hidle' : stage.outstanding = 0 := (Stage.write_same hw).outstanding.trans h.idle
  have hstep' : c.step (.write offset data) = (.count q, { c with stage, store }) := by
    simp only [Client.step, hw]
  rw [Stage.write_idle _ hlast h.idle] at hw
  obtain ⟨object, hk, -, hok, herror⟩ := Stage.stageFrom_pieces h.held.fd_eq h.keeps hlast hw
  rw [Nat.zero_add] at hok
  rw [h.capacity_eq] at herror
  have hseen : seen content { c with stage, store } = stage.view object := h.seen_of_keeps hk
  rw [hseen]
  exact ⟨(h.step hstep' hidle').1, hok, herror⟩

/-! ## Tries that fail -/

/-- A write was tried, once or more often, and each try failed. In between the file was
read and flushed. -/
inductive FailedTries (offset : Nat) (data : Bytes) (c : Client σ) : Client σ → Prop where
  | first {c' : Client σ} {f : Failure} :
      c.step (.write offset data) = (.count (.error f), c') → FailedTries offset data c c'
  | again {c' c'' : Client σ} {f : Failure} : FailedTries offset data c c' →
      c'.step (.write offset data) = (.count (.error f), c'') → FailedTries offset data c c''
  | read {c' : Client σ} (pos len : Nat) : FailedTries offset data c c' →
      FailedTries offset data c (c'.step (.read pos len)).2
  | flush {c' : Client σ} : FailedTries offset data c c' →
      FailedTries offset data c (c'.step .flush).2

/-- However often it failed, whole pieces of the data lie over the file that was seen at first. -/
theorem FailedTries.pieces (ht : FailedTries offset data c c') (h : Rests K content capacity c)
    (hlast : offset + data.length ≤ Offset.last) :
    Rests K content capacity c' ∧
      Bytes.PiecesLaid (c.seen content) offset capacity data (c'.seen content) := by
  induction ht with
  | first hstep =>
    obtain ⟨hrests, -, herror⟩ := h.write hlast hstep
    exact ⟨hrests, herror _ rfl⟩
  | again _ hstep ih =>
    obtain ⟨hrests, hpieces⟩ := ih
    obtain ⟨hrests', -, herror⟩ := hrests.write hlast hstep
    exact ⟨hrests', hpieces.trans (herror _ rfl)⟩
  | read pos len _ ih =>
    obtain ⟨hrests, hpieces⟩ := ih
    obtain ⟨hrests', hseen⟩ := hrests.read pos len
    rw [hseen]
    exact ⟨hrests', hpieces⟩
  | flush _ ih =>
    obtain ⟨hrests, hpieces⟩ := ih
    obtain ⟨hrests', hseen⟩ := hrests.flush
    rw [hseen]
    exact ⟨hrests', hpieces⟩

/-- The try that comes out well after them lays all of the data over that file. -/
theorem FailedTries.ends {n : Nat} (ht : FailedTries offset data c c')
    (h : Rests K content capacity c) (hlast : offset + data.length ≤ Offset.last)
    (hstep : c'.step (.write offset data) = (.count (.ok n), c'')) :
    n = data.length ∧ c''.seen content = Bytes.written (c.seen content) offset data := by
  obtain ⟨hrests, hpieces⟩ := ht.pieces h hlast
  obtain ⟨-, hok, -⟩ := hrests.write hlast hstep
  obtain ⟨hall, hseen⟩ := hok n rfl
  rw [hseen, hpieces.written_eq]
  exact ⟨hall, rfl⟩

/-! ## Writes larger than the buffer that are handed in -/

/-- A write that is handed in and is larger than the buffer is a write and a flush. When its
completion brings an error, one of the two has failed. -/
theorem large_write_fails {f : Failure} (hlarge : c.stage.capacity < data.length)
    (hstep : c.step (.writeAio offset data) =
      (.started (.ok (.finished (.count (.error f)))), c')) :
    c.step (.write offset data) = (.count (.error f), c') ∨
      ∃ n c1, c.step (.write offset data) = (.count (.ok n), c1) ∧
        c1.step .flush = (.count (.error f), c') := by
  rcases hw : c.stage.writeAio offset data c.store with ⟨r, stage, store⟩
  simp only [Client.step, hw, Prod.mk.injEq, Reply.started.injEq] at hstep
  obtain ⟨rfl, rfl⟩ := hstep
  have hcases := Stage.writeAio_cases hw
  generalize hr : Except.ok (Started.finished (Completion.count (.error f))) = r at hcases
  -- data that go through the buffer would fit into it
  have hfits : ∀ {q s1 st1}, c.stage.flushNow c.store = (q, s1, st1) →
      ¬ data.length ≤ s1.buffer.capacity := by
    intro q s1 st1 hf hle
    have hcap : s1.capacity = c.stage.capacity := (Stage.flushNow_same hf).capacity
    exact absurd hlarge (Nat.not_lt.mpr (hcap ▸ hle))
  cases hcases with
  | beyond _ => cases hr
  | busy _ _ => cases hr
  | unstaged _ hlast hidle hs =>
    cases hr
    have hwrite : c.stage.write offset data c.store = _ := (Stage.write_idle _ hlast hidle).trans hs
    refine .inl ?_
    simp only [Client.step, hwrite, dueAfter]
  | @unwritten n _ s1 _ st1 _ _ hlast hidle hs hf =>
    cases hr
    have hwrite : c.stage.write offset data c.store = _ := (Stage.write_idle _ hlast hidle).trans hs
    have hflush : s1.flush st1 = _ :=
      (Stage.flush_idle _ ((Stage.stageFrom_same hs).outstanding.trans hidle)).trans hf
    refine .inr ⟨n, { c with stage := s1, store := st1 }, ?_, ?_⟩
    · simp only [Client.step, hwrite]
    · simp only [Client.step, hflush, dueAfter]
  | large _ _ _ _ _ => cases hr
  | unflushed _ _ => cases hr
  | refused hle _ hf _ => exact absurd hle (hfits hf)
  | submitted hle _ hf _ => exact absurd hle (hfits hf)
  | inline hle _ hf _ => exact absurd hle (hfits hf)

/-! ## Whatever fails on the way -/

/-- However often a write is tried and fails, it leaves whole pieces of its data over the
file, which are none when the data fit into the buffer. The try that comes out well leaves
all of the data over the file as it was at first. So does a write larger than the buffer
that is handed in, when only its last flush fails; otherwise it leaves whole pieces. -/
theorem a_failed_write_can_be_tried_again (hK : K.Tells content) (hc : Reached K capacity c)
    (hidle : c.stage.outstanding = 0) (hlast : offset + data.length ≤ Offset.last) :
    (∀ c', FailedTries offset data c c' →
      Bytes.PiecesLaid (c.seen content) offset capacity data (c'.seen content) ∧
        (data.length ≤ capacity → c'.seen content = c.seen content) ∧
        ∀ n c'', c'.step (.write offset data) = (.count (.ok n), c'') →
          n = data.length ∧ c''.seen content = Bytes.written (c.seen content) offset data) ∧
    (capacity < data.length → ∀ f c',
      c.step (.writeAio offset data) = (.started (.ok (.finished (.count (.error f)))), c') →
        (c.step (.write offset data) = (.count (.error f), c') ∧
          Bytes.PiecesLaid (c.seen content) offset capacity data (c'.seen content)) ∨
        ∃ c1, c.step (.write offset data) = (.count (.ok data.length), c1) ∧
          c1.step .flush = (.count (.error f), c') ∧
          c'.seen content = Bytes.written (c.seen content) offset data) := by
  have hrests : Rests K content capacity c := hc.rests hK hidle
  refine ⟨?_, ?_⟩
  · intro c' ht
    obtain ⟨-, hpieces⟩ := ht.pieces hrests hlast
    exact ⟨hpieces, hpieces.eq_of_le, fun n c'' hstep => ht.ends hrests hlast hstep⟩
  · intro hlarge f c' hstep
    rw [← hrests.capacity_eq] at hlarge
    rcases large_write_fails hlarge hstep with hwrite | ⟨n, c1, hwrite, hflush⟩
    · obtain ⟨-, -, herror⟩ := hrests.write hlast hwrite
      exact .inl ⟨hwrite, herror f rfl⟩
    · obtain ⟨hrests1, hok, -⟩ := hrests.write hlast hwrite
      obtain ⟨rfl, hseen1⟩ := hok n rfl
      obtain ⟨-, hseen⟩ := hrests1.flush
      rw [hflush] at hseen
      exact .inr ⟨c1, hwrite, hflush, hseen.trans hseen1⟩

/-- A client of the store that fails its second write. -/
def distressed : Client (Shared (Throttled MemoryStore)) := { stage := .small, store := troubled }

theorem distressed_reached :
    Reached (MemoryStore.keeper .first 0 .readWrite).shared 4 distressed :=
  .built Stage.small_built rfl ⟨troubled_kept, troubled_spared⟩

/-- Nine bytes, for a buffer that takes four. -/
def nine : Bytes := [9, 8, 7, 6, 5, 4, 3, 2, 1]

theorem a_failed_write_is_tried_again_on_a_troubled_store :
    Reached (MemoryStore.keeper .first 0 .readWrite).shared 4 distressed ∧
      ∃ c1 c2, FailedTries 1 nine distressed c1 ∧ c1.step (.write 1 nine) = (.count (.ok 9), c2) ∧
        Bytes.PiecesLaid (distressed.seen (Shared.object 0)) 1 4 nine
          (c1.seen (Shared.object 0)) ∧
        c2.seen (Shared.object 0) = [1, 9, 8, 7, 6, 5, 4, 3, 2, 1] := by
  have hfails : distressed.step (.write 1 nine) =
      (.count (.error (.refused .writing 28)), (distressed.step (.write 1 nine)).2) :=
    Prod.ext (by decide +kernel) rfl
  have htries := (FailedTries.first hfails).read 0 2
  obtain ⟨c1, hc1⟩ : ∃ c1, ((distressed.step (.write 1 nine)).2.step (.read 0 2)).2 = c1 := ⟨_, rfl⟩
  have hends : c1.step (.write 1 nine) = (.count (.ok 9), (c1.step (.write 1 nine)).2) := by
    subst hc1
    exact Prod.ext (by decide +kernel) rfl
  rw [hc1] at htries
  have hlast : 1 + nine.length ≤ Offset.last := by decide
  obtain ⟨hall, -⟩ := a_failed_write_can_be_tried_again (Shared.keeper_tells .first 0 .readWrite)
    distressed_reached rfl hlast
  obtain ⟨hpieces, -, hok⟩ := hall c1 htries
  obtain ⟨-, hseen⟩ := hok _ _ hends
  refine ⟨distressed_reached, c1, _, htries, hends, hpieces, ?_⟩
  rw [hseen]
  rfl

end StagedFiles.Client
