-- The calls of a stage that has nothing staged, as long as only reads are asked of
-- it. They are reads through its descriptor and waits for such reads, and nothing is
-- staged after them either: there is nothing to flush, so no read writes.
import StagedFiles.Proofs.FileUses

namespace StagedFiles

variable {σ : Type} [ObjectStore σ] {st st' : σ} {fd : Fd}

/-! ## Calls that read -/

/-- A call of a reader of a descriptor. It hands in no write and makes none. A length it
may try to set, which is up to the store. -/
def StoreCall.ReadsBy (fd : Fd) : StoreCall → Prop
  | .readAt fd' _ _ | .submitRead fd' _ _ | .stat fd' | .sync fd' | .truncate fd' _
  | .close fd' => fd' = fd
  | .await _ => True
  | .openPath .. | .writeAt .. | .submitWrite .. | .statPath _ | .truncatePath .. | .unlinkPath _ =>
    False

/-- What the calls of a reader lead to. -/
abbrev ReadsOn (fd : Fd) (st st' : σ) : Prop := Leads (StoreCall.ReadsBy fd) st st'

theorem StoreCall.Fills.readsBy {call : StoreCall} (h : call.Fills fd) : call.ReadsBy fd := by
  cases call with
  | readAt _ _ _ => exact h
  | submitRead _ _ _ => exact h
  | await _ => trivial
  | _ => exact h.elim

theorem Leads.readsOn (h : Leads (StoreCall.Fills fd) st st') : ReadsOn fd st st' :=
  h.mono fun _ hfills => hfills.readsBy

/-! ## Stages -/

namespace Stage

variable {s s' : Stage} {offset pos want len : Nat}

/-- Nothing is staged over the descriptor. -/
structure Plain (s : Stage) (fd : Fd) : Prop where
  clean : s.dirty = false
  fd_eq : s.fd = fd

/-- Such a stage is never seen with a write pending. -/
theorem Plain.state (h : s.Plain fd) : s.state ≠ .writePending := by
  unfold Stage.state
  rw [h.clean]
  split
  · simp
  · split
    · rename_i hdirty
      cases hdirty
    · split
      · simp
      · simp

theorem readFrom_reads {pieces : List Bytes} {r : Except Failure (List Bytes)} (hs : s.Plain fd)
    (h : s.readFrom st pos want pieces = (r, s', st')) : ReadsOn fd st st' := by
  obtain ⟨hd, hfd⟩ := hs
  fun_induction readFrom s st pos want pieces with
  | case1 s st pos pieces =>
    cases h
    exact .stay
  | case2 s st pos want pieces hw hit hh ih => exact ih h hd hfd
  | case3 s st pos want pieces hw hit hh f s1 st1 hf =>
    rw [flushNow_clean st hd] at hf
    cases hf
  | case4 s st pos want pieces hw hit hh n s1 st1 hf missed f a st2 hr =>
    rw [flushNow_clean st hd] at hf
    cases hf
    cases h
    exact hfd ▸ (Adapter.read_fills hr).readsOn
  | case5 s st pos want pieces hw hit hh n s1 st1 hf missed a st2 filled hr =>
    rw [flushNow_clean st hd] at hf
    cases hf
    obtain ⟨_, _, rfl⟩ := by simpa only [Prod.mk.injEq] using h
    exact hfd ▸ (Adapter.read_fills hr).readsOn
  | case6 s st pos want pieces hw hit hh n s1 st1 hf missed count a st2 hr filled hn got hg =>
    rw [flushNow_clean st hd] at hf
    cases hf
    obtain ⟨_, _, rfl⟩ := by simpa only [Prod.mk.injEq] using h
    exact hfd ▸ (Adapter.read_fills hr).readsOn
  | case7 s st pos want pieces hw hit hh n s1 st1 hf missed count a st2 hr filled hn got hg ih =>
    rw [flushNow_clean st hd] at hf
    cases hf
    have hreads : ReadsOn fd st st2 := hfd ▸ (Adapter.read_fills hr).readsOn
    exact hreads.trans (ih h hd ((missed_same hr).fd.trans hfd))

theorem readBytes_reads {r : Except Failure Bytes} (hs : s.Plain fd)
    (h : s.readBytes st offset want = (r, s', st')) : ReadsOn fd st st' := by
  unfold readBytes at h
  split at h
  · rename_i hr
    cases h
    exact readFrom_reads hs hr
  · rename_i hr
    cases h
    exact readFrom_reads hs hr

theorem read_reads {r : Except Failure Bytes} (hs : s.Plain fd)
    (h : s.read offset len st = (r, s', st')) : ReadsOn fd st st' ∧ s'.Plain fd := by
  refine ⟨?_, read_clean hs.clean h, (read_same h).fd.trans hs.fd_eq⟩
  unfold read at h
  split at h
  · cases h
    exact .stay
  · cases h
    exact .stay
  · exact readBytes_reads hs h

/-- A flush finds nothing to write: it says so, or that a request is out. -/
theorem Plain.flush (h : s.Plain fd) (st : σ) :
    s.flush st =
      (if s.outstanding = 0 then .ok 0 else .error (.inFlight s.fd s.outstanding), s, st) := by
  by_cases hidle : s.outstanding = 0
  · rw [flush_idle st hidle, flushNow_clean st h.clean, if_pos hidle]
  · rw [flush_busy st hidle, if_neg hidle]

theorem readAio_reads {r : Except Failure (Started Completion)} (hs : s.Plain fd)
    (h : s.readAio offset len st = (r, s', st')) : ReadsOn fd st st' ∧ s'.Plain fd := by
  refine ⟨?_, readAio_clean hs.clean h, ?_⟩
  · cases readAio_cases h with
    | beyond _ => exact .stay
    | busy _ _ => exact .stay
    | hit _ _ => exact .stay
    | large _ _ hr _ => exact readBytes_reads hs hr
    | unflushed _ hf =>
      rw [flushNow_clean st hs.clean] at hf
      cases hf
    | refused _ hf hsubmit =>
      rw [flushNow_clean st hs.clean] at hf
      cases hf
      exact hs.fd_eq ▸ (Adapter.submitRead_fills hsubmit).readsOn
    | submitted _ hf hsubmit =>
      rw [flushNow_clean st hs.clean] at hf
      cases hf
      exact hs.fd_eq ▸ (Adapter.submitRead_fills hsubmit).readsOn
    | inline _ hf hsubmit =>
      rw [flushNow_clean st hs.clean] at hf
      cases hf
      exact hs.fd_eq ▸ (Adapter.submitRead_fills hsubmit).readsOn
  · exact (readAio_adapter h).fd.trans hs.fd_eq

theorem Plain.answer (h : s.Plain fd) (r : Except Failure Nat) : (s.answer r).2.Plain fd := by
  unfold Stage.answer
  dsimp only
  split
  · exact h
  · rename_i offset len _ _
    rcases ha : answerRead { s with inflight := s.inflight.finish } offset len r with ⟨c, s1⟩
    have hadapter := answerRead_adapter ha
    exact ⟨(answerRead_dirty ha).trans h.clean, (congrArg Adapter.fd hadapter).trans h.fd_eq⟩
  · rename_i offset len _ _
    rcases ha : answerWrite { s with inflight := s.inflight.finish } len r with ⟨c, s1⟩
    exact ⟨(answerWrite_dirty ha).trans h.clean, (answerWrite_adapter ha).fd.trans h.fd_eq⟩

/-- Whatever completion comes, and whether a request is out or not. -/
theorem Plain.complete (h : s.Plain fd) (c : Completion) : (s.complete c).2.Plain fd := by
  unfold Stage.complete
  split
  · exact h
  · rename_i offset len _ _
    rcases hf : s.adapter.finish offset s.capacity c with ⟨r, a⟩
    have hplain : Plain { s with adapter := a } fd :=
      ⟨h.clean, (Adapter.finish_same hf).fd.trans h.fd_eq⟩
    exact hplain.answer r
  · rename_i offset len _ _
    rcases hf : s.adapter.finish offset len c with ⟨r, a⟩
    have hplain : Plain { s with adapter := a } fd :=
      ⟨h.clean, (Adapter.finish_same hf).fd.trans h.fd_eq⟩
    exact hplain.answer r

end Stage

/-! ## Raw files -/

namespace RawFile

variable {f : RawFile}

theorem ReadsTo.readsOn (h : ReadsTo fd st st') : ReadsOn fd st st' := by
  induction h with
  | stay => exact .stay
  | @read st1 st2 offset len r _ hread ih =>
    exact ih.trans (.one (.readAt fd offset len) rfl (congrArg Prod.snd hread))

/-- A file that is open on no other descriptor reads on this one. -/
theorem Reads.readsOn (hfd : ∀ fd', f.fd = some fd' → fd' = fd) (h : Reads f st st') :
    ReadsOn fd st st' := by
  cases h with
  | nothing hsame => exact hsame ▸ .stay
  | through hopen hreads => exact hfd _ hopen ▸ hreads.readsOn

theorem close_reads {f' : RawFile} {r : Except Failure Unit}
    (hfd : ∀ fd', f.fd = some fd' → fd' = fd) (h : f.close st = (r, f', st')) :
    ReadsOn fd st st' ∧ ∀ fd', f'.fd = some fd' → fd' = fd := by
  unfold RawFile.close at h
  split at h
  · cases h
    exact ⟨.stay, hfd⟩
  · rename_i fd' hopen
    cases h
    refine ⟨.one (.close fd') (hfd fd' hopen) rfl, ?_⟩
    intro fd'' hnone
    cases hnone

theorem drop_reads (hfd : ∀ fd', f.fd = some fd' → fd' = fd) (st : σ) :
    ReadsOn fd st (f.drop st) := by
  unfold RawFile.drop
  split
  · exact .stay
  · rename_i fd' hopen
    exact .one (.close fd') (hfd fd' hopen) rfl

end RawFile

end StagedFiles
