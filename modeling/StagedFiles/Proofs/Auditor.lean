-- The books of a descriptor, kept by an auditor, against the counters of a stage.
-- What went into the stage is what it flushed and what is still staged, and the log
-- has what was flushed and what requests wrote past the stage. A write or a hand-in
-- that fails makes the books void, and then nothing is promised any more.
import StagedFiles.Proofs.SessionTally
import StagedFiles.Proofs.StoreCalls

namespace StagedFiles

/-! ## Auditors -/

/-- How many bytes went through a descriptor by the log of the store, and the
transfer of that descriptor that is out. -/
structure Auditor (σ : Type) [ObjectStore σ] (fd : Fd) where
  Books : σ → Nat → Option (Ticket × Errand) → Prop
  /-- A write or a hand-in has failed. -/
  Void : σ → Prop
  void_on {st : σ} (call : StoreCall) : Void st → Void (call.on st)
  light {call : StoreCall} {st : σ} {n : Nat} {out : Option (Ticket × Errand)} :
    call.Light → Books st n out → Books (call.on st) n out
  write {st st' : σ} {n offset : Nat} {data : Bytes} {r : Except Failure Nat} :
    Books st n none → ObjectStore.writeAt fd offset data st = (r, st') →
      Void st' ∨ r = .ok data.length ∧ Books st' (n + data.length) none
  submitRead {st st' : σ} {n offset len : Nat} {r : Except Failure Ticket} :
    Books st n none → ObjectStore.submitRead fd offset len st = (r, st') →
      Void st' ∨ ∃ t, r = .ok t ∧ Books st' n (some (t, .read offset len))
  submitWrite {st st' : σ} {n offset : Nat} {data : Bytes} {r : Except Failure Ticket} :
    Books st n none → ObjectStore.submitWrite fd offset data st = (r, st') →
      Void st' ∨ ∃ t, r = .ok t ∧ Books st' n (some (t, .write offset data))
  await_read {st st' : σ} {n offset len : Nat} {t : Ticket} {c : Option Completion} :
    Books st n (some (t, .read offset len)) → ObjectStore.await t st = (c, st') →
      ∃ r, c = some (.bytes r) ∧ Books st' n none
  await_write {st st' : σ} {n offset : Nat} {data : Bytes} {t : Ticket} {c : Option Completion} :
    Books st n (some (t, .write offset data)) → ObjectStore.await t st = (c, st') →
      Void st' ∨ c = some (.count (.ok data.length)) ∧ Books st' (n + data.length) none

variable {σ : Type} [ObjectStore σ] {fd : Fd} {A : Auditor σ fd} {st st' : σ}

/-- What is void stays void. -/
theorem Auditor.void_leads {kind : StoreCall → Prop} (h : A.Void st) (hleads : Leads kind st st') :
    A.Void st' :=
  hleads.keeps (fun call _ _ hv => A.void_on call hv) h

theorem Auditor.books_light {n : Nat} {out : Option (Ticket × Errand)} (h : A.Books st n out)
    (hlight : Leads StoreCall.Light st st') : A.Books st' n out :=
  hlight.keeps (P := fun st => A.Books st n out) (fun _ _ hl hb => A.light hl hb) h

/-! ## Adapters -/

namespace Adapter

variable {a a' : Adapter} {n offset count : Nat}

/-- The same as far as writes are counted. -/
structure SameWrites (a a' : Adapter) : Prop where
  fd : a'.fd = a.fd
  written : a'.traffic.write = a.traffic.write

theorem install_writes {bytes : Bytes} {r : Except Failure Nat}
    (h : a.install offset bytes = (r, a')) : a.SameWrites a' := by
  unfold install at h
  dsimp only at h
  split at h
  · cases h
    exact ⟨rfl, rfl⟩
  · cases h
    exact ⟨rfl, rfl⟩

theorem readNow_audited {r : Except Failure Nat} (hb : A.Books st n none)
    (h : a.readNow offset count st = (r, a', st')) : A.Books st' n none ∧ a.SameWrites a' := by
  unfold readNow at h
  split at h
  · rename_i bytes _ hread
    rcases hi : a.install offset bytes with ⟨q, a1⟩
    rw [hi] at h
    cases h
    have hlight : Leads StoreCall.Light st st' :=
      .one (.readAt a.fd offset count) trivial (congrArg Prod.snd hread)
    exact ⟨A.books_light hb hlight, install_writes hi⟩
  · rename_i hread
    cases h
    have hlight : Leads StoreCall.Light st st' :=
      .one (.readAt a.fd offset count) trivial (congrArg Prod.snd hread)
    exact ⟨A.books_light hb hlight, rfl, rfl⟩

theorem writeNow_audited {r : Except Failure Nat} (hfd : a.fd = fd)
    (hcount : count ≤ a.buffer.capacity) (hb : A.Books st n none)
    (h : a.writeNow offset count st = (r, a', st')) :
    A.Void st' ∨ r = .ok count ∧ a' = a.wrote count ∧ A.Books st' (n + count) none := by
  have hlen : (a.buffer.peek 0 count).length = count := by
    rw [StagingBuffer.length_peek]
    omega
  unfold writeNow at h
  rw [hfd] at h
  split at h
  · rename_i k st1 hw
    cases h
    rcases A.write hb hw with hv | ⟨hk, hb'⟩
    · exact .inl hv
    · cases hk
      rw [hlen] at hb' ⊢
      exact .inr ⟨rfl, rfl, hb'⟩
  · rename_i hw
    cases h
    rcases A.write hb hw with hv | ⟨hk, _⟩
    · exact .inl hv
    · cases hk

/-- How a read into the buffer starts. -/
theorem submitRead_audited {r : Except Failure (Started (Except Failure Nat))} (hfd : a.fd = fd)
    (hcount : count ≤ a.buffer.capacity) (hb : A.Books st n none)
    (h : a.submitRead offset count st = (r, a', st')) :
    A.Void st' ∨ a.SameWrites a' ∧
      ((∃ q, r = .ok (.finished q) ∧ A.Books st' n none) ∨
        ∃ t, r = .ok (.submitted t) ∧ A.Books st' n (some (t, .read offset count))) := by
  unfold submitRead at h
  rw [checkCount_ok hcount] at h
  dsimp only at h
  split at h
  · rcases hn : a.readNow offset count st with ⟨q, a1, st1⟩
    rw [hn] at h
    cases h
    obtain ⟨hb', hsame⟩ := readNow_audited hb hn
    exact .inr ⟨hsame, .inl ⟨q, rfl, hb'⟩⟩
  · rw [hfd] at h
    split at h
    · rename_i hs
      cases h
      rcases A.submitRead hb hs with hv | ⟨t, ht, hb'⟩
      · exact .inl hv
      · cases ht
        exact .inr ⟨⟨rfl, rfl⟩, .inr ⟨_, rfl, hb'⟩⟩
    · rename_i hs
      cases h
      rcases A.submitRead hb hs with hv | ⟨t, ht, _⟩
      · exact .inl hv
      · cases ht

/-- How a write of the front of the buffer starts. -/
theorem submitWrite_audited {r : Except Failure (Started (Except Failure Nat))} (hfd : a.fd = fd)
    (hcount : count ≤ a.buffer.capacity) (hb : A.Books st n none)
    (h : a.submitWrite offset count st = (r, a', st')) :
    A.Void st' ∨ (r = .ok (.finished (.ok count)) ∧ a' = a.wrote count ∧ A.Books st' (n + count) none) ∨
      ∃ t data, r = .ok (.submitted t) ∧ a' = a ∧ data.length = count ∧
        A.Books st' n (some (t, .write offset data)) := by
  unfold submitWrite at h
  rw [checkCount_ok hcount] at h
  dsimp only at h
  split at h
  · rcases hn : a.writeNow offset count st with ⟨q, a1, st1⟩
    rw [hn] at h
    cases h
    rcases writeNow_audited hfd hcount hb hn with hv | ⟨rfl, rfl, hb'⟩
    · exact .inl hv
    · exact .inr (.inl ⟨rfl, rfl, hb'⟩)
  · have hlen : (a.buffer.peek 0 count).length = count := by
      rw [StagingBuffer.length_peek]
      omega
    rw [hfd] at h
    split at h
    · rename_i hs
      cases h
      rcases A.submitWrite hb hs with hv | ⟨t, ht, hb'⟩
      · exact .inl hv
      · cases ht
        exact .inr (.inr ⟨_, _, rfl, rfl, hlen, hb'⟩)
    · rename_i hs
      cases h
      rcases A.submitWrite hb hs with hv | ⟨t, ht, _⟩
      · exact .inl hv
      · cases ht

theorem read_audited {r : Except Failure Nat} (hfd : a.fd = fd)
    (hcount : count ≤ a.buffer.capacity) (hb : A.Books st n none)
    (h : a.read offset count st = (r, a', st')) :
    A.Void st' ∨ A.Books st' n none ∧ a.SameWrites a' := by
  unfold Adapter.read at h
  rcases hs : a.submitRead offset count st with ⟨q, a1, st1⟩
  rw [hs] at h
  rcases submitRead_audited hfd hcount hb hs with hv | ⟨hsame, ⟨q', rfl, hb'⟩ | ⟨t, rfl, hb'⟩⟩
  · left
    cases q with
    | error f =>
      cases h
      exact hv
    | ok started => exact A.void_leads hv (settle_used h)
  · cases h
    exact .inr ⟨hb', hsame⟩
  · dsimp only at h
    unfold settle at h
    dsimp only at h
    rcases hawait : ObjectStore.await t st1 with ⟨c, st2⟩
    obtain ⟨q', rfl, hb2⟩ := A.await_read hb' hawait
    rw [hawait] at h
    dsimp only at h
    cases q' with
    | error f =>
      cases h
      exact .inr ⟨hb2, hsame⟩
    | ok bytes =>
      rcases hf : a1.finish offset count (.bytes (.ok bytes)) with ⟨q2, a2⟩
      rw [hf] at h
      cases h
      have hinstall := install_writes hf
      exact .inr ⟨hb2, hinstall.fd.trans hsame.fd, hinstall.written.trans hsame.written⟩

/-- A write that the caller waits for moves all it was asked to. -/
theorem write_audited {r : Except Failure Nat} (hfd : a.fd = fd)
    (hcount : count ≤ a.buffer.capacity) (hb : A.Books st n none)
    (h : a.write offset count st = (r, a', st')) :
    A.Void st' ∨ r = .ok count ∧ a' = a.wrote count ∧ A.Books st' (n + count) none := by
  unfold Adapter.write at h
  rcases hs : a.submitWrite offset count st with ⟨q, a1, st1⟩
  rw [hs] at h
  rcases submitWrite_audited hfd hcount hb hs with
    hv | ⟨rfl, rfl, hb'⟩ | ⟨t, data, rfl, rfl, hlen, hb'⟩
  · left
    cases q with
    | error f =>
      cases h
      exact hv
    | ok started => exact A.void_leads hv (settle_used h)
  · cases h
    exact .inr ⟨rfl, rfl, hb'⟩
  · dsimp only at h
    unfold settle at h
    dsimp only at h
    rcases hawait : ObjectStore.await t st1 with ⟨c, st2⟩
    rw [hawait] at h
    rcases A.await_write hb' hawait with hv | ⟨rfl, hb2⟩
    · left
      cases c with
      | none =>
        cases h
        exact hv
      | some c =>
        cases h
        exact hv
    · cases h
      rw [hlen] at hb2 ⊢
      exact .inr ⟨rfl, rfl, hb2⟩

end Adapter

/-! ## Stages -/

namespace Stage

/-- The bytes that the store has not seen. -/
def staged (s : Stage) : Nat := if s.dirty then s.buffer.len else 0

theorem staged_of_clean {s : Stage} (h : s.dirty = false) : s.staged = 0 := by
  unfold staged
  rw [h]
  rfl

theorem staged_of_dirty {s : Stage} (h : s.dirty = true) : s.staged = s.buffer.len := by
  unfold staged
  rw [h]
  rfl

/-- Of the bytes that the stage took in, these were flushed and the rest is staged.
The log and the counters of the adapter have what was flushed and what requests
wrote directly. -/
structure Even (A : Auditor σ fd) (s : Stage) (st : σ) (taken direct : Nat)
    (out : Option (Ticket × Errand)) (flushed : Nat) : Prop where
  fd : s.fd = fd
  took : flushed + s.staged = taken
  counted : s.stats.flushedBytes = flushed.toUInt64
  written : s.adapter.traffic.write.bytes = (flushed + direct).toUInt64
  books : A.Books st (flushed + direct) out

variable {s s' : Stage} {taken direct flushed : Nat} {out : Option (Ticket × Errand)}

theorem Even.congr (h : s.Even A st taken direct out flushed) (hfd : s'.fd = s.fd)
    (hstaged : s'.staged = s.staged) (hflushed : s'.stats.flushedBytes = s.stats.flushedBytes)
    (hwritten : s'.adapter.traffic.write = s.adapter.traffic.write) :
    s'.Even A st taken direct out flushed :=
  ⟨hfd.trans h.fd, hstaged ▸ h.took, hflushed.trans h.counted, hwritten ▸ h.written, h.books⟩

/-- Nothing is staged, so all that was taken in was flushed. -/
theorem Even.all_flushed (h : s.Even A st taken direct out flushed) (hd : s.dirty = false) :
    flushed = taken := by
  have htaken := h.took
  rw [staged_of_clean hd] at htaken
  exact htaken

theorem flushNow_even {r : Except Failure Nat} (h : s.Even A st taken direct none flushed)
    (hf : s.flushNow st = (r, s', st')) :
    A.Void st' ∨ (∃ n, r = .ok n) ∧ s'.dirty = false ∧ s'.Even A st' taken direct none taken := by
  have hlen : s.buffer.len ≤ s.adapter.buffer.capacity := s.buffer.len_le
  cases flushNow_cases hf with
  | clean hd =>
    have hall := h.all_flushed hd
    subst hall
    exact .inr ⟨⟨0, rfl⟩, hd, h⟩
  | failed _ hw =>
    rcases Adapter.write_audited h.fd hlen h.books hw with hv | ⟨hr, _⟩
    · exact .inl hv
    · cases hr
  | short _ hw hn =>
    rcases Adapter.write_audited h.fd hlen h.books hw with hv | ⟨hr, _⟩
    · exact .inl hv
    · cases hr
      exact (hn rfl).elim
  | whole hd hw _ =>
    rcases Adapter.write_audited h.fd hlen h.books hw with hv | ⟨hr, rfl, hb⟩
    · exact .inl hv
    · cases hr
      have htaken := h.took
      rw [staged_of_dirty hd] at htaken
      have hflushed := Ledger.plus_total (n := s.buffer.len) h.counted
      have hwritten := Ledger.plus_total (n := s.buffer.len) h.written
      have hsum : s.buffer.len + flushed = taken := by omega
      have hlog : s.buffer.len + (flushed + direct) = taken + direct := by omega
      have hbooks : flushed + direct + s.buffer.len = taken + direct := by omega
      rw [hsum] at hflushed
      rw [hlog] at hwritten
      rw [hbooks] at hb
      exact .inr ⟨⟨_, rfl⟩, rfl, h.fd, rfl, hflushed, hwritten, hb⟩

/-- A read into the buffer of a stage that has nothing staged. -/
theorem missed_even {pos : Nat} {r : Except Failure Nat} {a : Adapter} (hd : s.dirty = false)
    (h : s.Even A st taken direct none taken)
    (hr : s.countMiss.adapter.read pos s.capacity st = (r, a, st')) :
    A.Void st' ∨ Even A { s.countMiss with adapter := a } st' taken direct none taken := by
  rcases Adapter.read_audited h.fd (Nat.le_refl _) h.books hr with hv | ⟨hb, hsame⟩
  · exact .inl hv
  · have hclean : ({ s.countMiss with adapter := a } : Stage).dirty = false := hd
    refine .inr ⟨hsame.fd.trans h.fd, ?_, h.counted, ?_, hb⟩
    · rw [staged_of_clean hclean]
      rfl
    · exact (congrArg Traffic.bytes hsame.written).trans h.written

theorem readFrom_even {pos want : Nat} {pieces : List Bytes} {r : Except Failure (List Bytes)}
    (h : s.Even A st taken direct none flushed)
    (hr : s.readFrom st pos want pieces = (r, s', st')) :
    A.Void st' ∨ ∃ flushed', s'.Even A st' taken direct none flushed' := by
  fun_induction readFrom s st pos want pieces generalizing flushed with
  | case1 s st pos pieces =>
    cases hr
    exact .inr ⟨flushed, h⟩
  | case2 s st pos want pieces hw hit hh =>
    rename_i ih
    exact ih (h.congr rfl rfl rfl rfl) hr
  | case3 s st pos want pieces hw hit hh f s1 st1 =>
    rename_i hf
    cases hr
    rcases flushNow_even h hf with hv | ⟨⟨n, hn⟩, _⟩
    · exact .inl hv
    · cases hn
  | case4 s st pos want pieces hw hit hh n s1 st1 hf missed f a st2 =>
    rename_i hread
    cases hr
    rcases flushNow_even h hf with hv | ⟨_, hd, h1⟩
    · exact .inl (A.void_leads hv (Adapter.read_used hread))
    · exact (missed_even hd h1 hread).imp_right fun h2 => ⟨_, h2⟩
  | case5 s st pos want pieces hw hit hh n s1 st1 hf missed a st2 filled =>
    rename_i hread
    simp only [Prod.mk.injEq] at hr
    obtain ⟨_, rfl, rfl⟩ := hr
    rcases flushNow_even h hf with hv | ⟨_, hd, h1⟩
    · exact .inl (A.void_leads hv (Adapter.read_used hread))
    · exact (missed_even hd h1 hread).imp_right fun h2 => ⟨_, h2⟩
  | case6 s st pos want pieces hw hit hh n s1 st1 hf missed count a st2 hread filled hn got =>
    simp only [Prod.mk.injEq] at hr
    obtain ⟨_, rfl, rfl⟩ := hr
    rcases flushNow_even h hf with hv | ⟨_, hd, h1⟩
    · exact .inl (A.void_leads hv (Adapter.read_used hread))
    · exact (missed_even hd h1 hread).imp_right fun h2 => ⟨_, h2⟩
  | case7 s st pos want pieces hw hit hh n s1 st1 hf missed count a st2 hread filled hn got hg =>
    rename_i ih
    rcases flushNow_even h hf with hv | ⟨_, hd, h1⟩
    · exact .inl (A.void_leads hv ((Adapter.read_used hread).trans (readFrom_used hr)))
    · rcases missed_even hd h1 hread with hv | h2
      · exact .inl (A.void_leads hv (readFrom_used hr))
      · exact ih h2 hr

theorem readBytes_even {offset want : Nat} {r : Except Failure Bytes}
    (h : s.Even A st taken direct none flushed) (hr : s.readBytes st offset want = (r, s', st')) :
    A.Void st' ∨ ∃ flushed', s'.Even A st' taken direct none flushed' := by
  unfold readBytes at hr
  split at hr
  · rename_i hread
    cases hr
    exact readFrom_even h hread
  · rename_i hread
    cases hr
    exact readFrom_even h hread

/-- The stage takes in all of the data. -/
theorem stageFrom_even {pos done : Nat} {data : Bytes} {r : Except Failure Nat}
    (h : s.Even A st taken direct none flushed)
    (hw : s.stageFrom st pos data done = (r, s', st')) :
    A.Void st' ∨ r = .ok (done + data.length) ∧
      ∃ flushed', s'.Even A st' (taken + data.length) direct none flushed' := by
  fun_induction stageFrom s st pos data done generalizing taken flushed with
  | case1 s st pos done =>
    cases hw
    exact .inr ⟨rfl, flushed, h⟩
  | case2 s st pos data done hd hj =>
    cases hw
    have htaken := h.took
    rw [staged_of_dirty hj.1] at htaken
    have hfits := (s.buffer.hasRoom_iff data).mp hj.2.2
    have hstaged : (s.withBuffer (s.buffer.append data hfits)).staged =
        s.buffer.len + data.length := staged_of_dirty hj.1
    have hjoined : flushed + (s.withBuffer (s.buffer.append data hfits)).staged =
        taken + data.length := by
      omega
    exact .inr ⟨rfl, flushed, h.fd, hjoined, h.counted, h.written, h.books⟩
  | case3 s st pos data done hd hj f s1 st1 hf =>
    cases hw
    rcases flushNow_even h hf with hv | ⟨⟨n, hn⟩, _⟩
    · exact .inl hv
    · cases hn
  | case4 s st pos data done hd hj n s1 st1 hf b piece fits taken' =>
    rename_i started ih
    rcases flushNow_even h hf with hv | ⟨_, _, h1⟩
    · exact .inl (A.void_leads hv (stageFrom_used hw))
    · have hstaged : started.staged = piece.length := staged_of_dirty rfl
      have hstart : started.Even A st1 (taken + piece.length) direct none taken :=
        ⟨h1.fd, by rw [hstaged], h1.counted, h1.written, h1.books⟩
      have hle : piece.length ≤ data.length := by
        rw [List.length_take]
        exact Nat.min_le_right ..
      have hsplit : piece.length + (data.drop piece.length).length = data.length := by
        rw [List.length_drop]
        omega
      rcases ih hstart hw with hv | ⟨hr, flushed', h'⟩
      · exact .inl hv
      · rw [Nat.add_assoc, hsplit] at hr h'
        exact .inr ⟨hr, flushed', h'⟩

/-! ### Requests -/

/-- The stage waits for the transfer of an errand, and nothing is staged meanwhile. -/
inductive Expects (s : Stage) : Errand → Prop where
  | read {offset len at' len' : Nat} : s.dirty = false → s.inflight.requests = [.read at' len'] →
      Expects s (.read offset len)
  | write {offset at' len' : Nat} {data : Bytes} : s.dirty = false →
      s.inflight.requests = [.write at' len'] → Expects s (.write offset data)

theorem Expects.outstanding {e : Errand} (h : s.Expects e) : s.outstanding = 1 := by
  cases h with
  | read _ hreq => exact congrArg List.length hreq
  | write _ hreq => exact congrArg List.length hreq

/-- How a request starts while the books are good: it is refused or over, and the
stage is even, or it is out. -/
inductive Starts (A : Auditor σ fd) (s : Stage) (st : σ) (taken direct : Nat) :
    Except Failure (Started Completion) → Prop where
  | ended {r : Except Failure (Started Completion)} : (∀ t, r ≠ .ok (.submitted t)) →
      s.outstanding = 0 → (∃ flushed, s.Even A st taken direct none flushed) →
      Starts A s st taken direct r
  | out {t : Ticket} {e : Errand} : s.Expects e →
      (∃ flushed, s.Even A st taken direct (some (t, e)) flushed) →
      Starts A s st taken direct (.ok (.submitted t))

/-- A stage with nothing staged went on without a write. -/
theorem Even.moved {before : Option (Ticket × Errand)} (h : s.Even A st taken direct before taken) (hsame : s.adapter.SameWrites s'.adapter)
    (hb : A.Books st' (taken + direct) out) (hd : s'.dirty = false)
    (hcounted : s'.stats.flushedBytes = s.stats.flushedBytes) :
    s'.Even A st' taken direct out taken := by
  refine ⟨hsame.fd.trans h.fd, ?_, hcounted.trans h.counted, ?_, hb⟩
  · rw [staged_of_clean hd, Nat.add_zero]
  · rw [hsame.written]
    exact h.written

/-- A stage with nothing staged wrote the bytes of a request. -/
theorem Even.wrote {k : Nat} (h : s.Even A st taken direct out taken)
    (hsame : (s.adapter.wrote k).SameWrites s'.adapter)
    (hb : A.Books st' (taken + direct + k) none) (hd : s'.dirty = false)
    (hcounted : s'.stats.flushedBytes = s.stats.flushedBytes) :
    s'.Even A st' taken (direct + k) none taken := by
  refine ⟨hsame.fd.trans h.fd, ?_, hcounted.trans h.counted, ?_, ?_⟩
  · rw [staged_of_clean hd, Nat.add_zero]
  · have hwritten := Ledger.plus_total (n := k) h.written
    rw [hsame.written, show taken + (direct + k) = k + (taken + direct) by omega]
    exact hwritten
  · rw [← Nat.add_assoc]
    exact hb

theorem answerRead_fields {offset len : Nat} {q : Except Failure Nat} {c : Completion}
    (h : s.answerRead offset len q = (c, s')) :
    s'.dirty = s.dirty ∧ s'.stats.flushedBytes = s.stats.flushedBytes ∧ c.writeCount = 0 := by
  unfold answerRead at h
  split at h
  · cases h
    exact ⟨rfl, rfl, rfl⟩
  · cases h
    exact ⟨rfl, rfl, rfl⟩

theorem answerWrite_ok_fields {len n : Nat} {c : Completion}
    (h : s.answerWrite len (.ok n) = (c, s')) :
    s'.dirty = s.dirty ∧ s'.stats.flushedBytes = s.stats.flushedBytes ∧
      s.adapter.SameWrites s'.adapter ∧ c = .count (.ok n) := by
  unfold answerWrite at h
  dsimp only at h
  split at h
  · cases h
    exact ⟨rfl, rfl, ⟨rfl, rfl⟩, rfl⟩
  · cases h
    exact ⟨rfl, rfl, ⟨rfl, rfl⟩, rfl⟩

variable {r : Except Failure (Started Completion)}

theorem readAio_even {offset len : Nat} (h : s.Even A st taken direct none flushed)
    (hidle : s.outstanding = 0) (hr : s.readAio offset len st = (r, s', st')) :
    A.Void st' ∨ Starts A s' st' taken direct r ∧ (Tally.ofStart r).writeAio = 0 := by
  cases readAio_cases hr with
  | beyond _ => exact .inr ⟨.ended (by simp) hidle ⟨flushed, h⟩, rfl⟩
  | busy _ _ => exact .inr ⟨.ended (by simp) hidle ⟨flushed, h⟩, rfl⟩
  | hit _ _ => exact .inr ⟨.ended (by simp) hidle ⟨flushed, h.congr rfl rfl rfl rfl⟩, rfl⟩
  | @large q s1 _ _ _ _ hread hs' =>
    have hidle1 : s1.outstanding = 0 := (readBytes_same hread).outstanding.trans hidle
    rcases readBytes_even h hread with hv | ⟨flushed', h1⟩
    · exact .inl hv
    · subst hs'
      cases q with
      | error f => exact .inr ⟨.ended (by simp) hidle1 ⟨flushed', h1⟩, rfl⟩
      | ok bytes =>
        exact .inr ⟨.ended (by simp) hidle1 ⟨flushed', h1.congr rfl rfl rfl rfl⟩, rfl⟩
  | unflushed _ hf =>
    rcases flushNow_even h hf with hv | ⟨⟨n, hn⟩, _⟩
    · exact .inl hv
    · cases hn
  | refused _ hf hs =>
    rcases flushNow_even h hf with hv | ⟨_, hd, h1⟩
    · exact .inl (A.void_leads hv (Adapter.submitRead_used hs))
    · rcases Adapter.submitRead_audited h1.fd (Nat.le_refl _) h1.books hs with
        hv | ⟨_, ⟨_, hq, _⟩ | ⟨_, ht, _⟩⟩
      · exact .inl hv
      · cases hq
      · cases ht
  | @submitted n ticket s1 a st1 _ _ hf hs =>
    rcases flushNow_even h hf with hv | ⟨_, hd, h1⟩
    · exact .inl (A.void_leads hv (Adapter.submitRead_used hs))
    · rcases Adapter.submitRead_audited h1.fd (Nat.le_refl _) h1.books hs with
        hv | ⟨hsame, ⟨_, hq, _⟩ | ⟨_, ht, hb⟩⟩
      · exact .inl hv
      · cases hq
      · cases ht
        have hout : Even A { s1.asked offset len with adapter := a } st' taken direct
            (some (ticket, .read offset s1.capacity)) taken := h1.moved hsame hb hd rfl
        exact .inr ⟨.out (.read hd rfl) ⟨taken, hout⟩, rfl⟩
  | @inline n q s1 a st1 _ _ hf hs =>
    rcases flushNow_even h hf with hv | ⟨_, hd, h1⟩
    · exact .inl (A.void_leads hv (Adapter.submitRead_used hs))
    · rcases Adapter.submitRead_audited h1.fd (Nat.le_refl _) h1.books hs with
        hv | ⟨hsame, ⟨_, hq, hb⟩ | ⟨_, ht, _⟩⟩
      · exact .inl hv
      · rcases ha : ((s1.asked offset len).released a).answerRead offset len q with ⟨c, s2⟩
        obtain ⟨hdirty, hflushed, hcount⟩ := answerRead_fields ha
        obtain ⟨hinflight, _⟩ := answerRead_counts ha
        have hadapter : s1.adapter.SameWrites s2.adapter := by
          rw [answerRead_adapter ha]
          exact hsame
        have hidle2 : s2.outstanding = 0 := by
          unfold outstanding
          rw [hinflight]
          rfl
        exact .inr ⟨.ended (by simp) hidle2 ⟨taken, h1.moved hadapter hb (hdirty.trans hd) hflushed⟩,
          hcount⟩
      · cases ht

/-- The bytes of a request larger than the buffer are taken in and flushed, those of
any other are written directly. -/
theorem writeAio_even {offset : Nat} {data : Bytes} (h : s.Even A st taken direct none flushed)
    (hidle : s.outstanding = 0) (hw : s.writeAio offset data st = (r, s', st')) :
    A.Void st' ∨ ∃ direct' large,
      large = (if s.capacity < data.length then (Tally.ofStart r).writeAio else 0) ∧
      direct' + large = direct + (Tally.ofStart r).writeAio ∧
      Starts A s' st' (taken + large) direct' r := by
  have hnone : (∃ flushed', s'.Even A st' taken direct none flushed') → s'.outstanding = 0 →
      (∀ t, r ≠ .ok (.submitted t)) → (Tally.ofStart r).writeAio = 0 → A.Void st' ∨ ∃ direct' large,
        large = (if s.capacity < data.length then (Tally.ofStart r).writeAio else 0) ∧
        direct' + large = direct + (Tally.ofStart r).writeAio ∧
        Starts A s' st' (taken + large) direct' r := by
    intro heven hidle' hnot hzero
    refine .inr ⟨direct, 0, ?_, by rw [hzero], .ended hnot hidle' heven⟩
    rw [hzero, ite_self]
  cases writeAio_cases hw with
  | beyond _ => exact hnone ⟨flushed, h⟩ hidle (by simp) rfl
  | busy _ _ => exact hnone ⟨flushed, h⟩ hidle (by simp) rfl
  | unstaged _ _ _ hstage =>
    rcases stageFrom_even h hstage with hv | ⟨hr, _⟩
    · exact .inl hv
    · cases hr
  | unwritten _ _ _ hstage hf =>
    rcases stageFrom_even h hstage with hv | ⟨_, _, h1⟩
    · exact .inl (A.void_leads hv (flushNow_used hf))
    · rcases flushNow_even h1 hf with hv | ⟨⟨n, hn⟩, _⟩
      · exact .inl hv
      · cases hn
  | @large n m s1 s2 st1 _ hlarge _ _ hstage hf =>
    rcases stageFrom_even h hstage with hv | ⟨hr, _, h1⟩
    · exact .inl (A.void_leads hv (flushNow_used hf))
    · rcases flushNow_even h1 hf with hv | ⟨_, _, h2⟩
      · exact .inl hv
      · cases hr
        have hidle2 : s2.outstanding = 0 :=
          ((stageFrom_same hstage).trans (flushNow_same hf)).outstanding.trans hidle
        have htold : (Tally.ofStart (.ok (.finished (.count (.ok (0 + data.length)))))).writeAio =
            data.length := Nat.zero_add _
        refine .inr ⟨direct, data.length, ?_, ?_, .ended (by simp) hidle2 ⟨_, h2.congr rfl rfl rfl rfl⟩⟩
        · rw [if_pos hlarge, htold]
        · rw [htold]
  | unflushed _ hf =>
    rcases flushNow_even h hf with hv | ⟨⟨n, hn⟩, _⟩
    · exact .inl hv
    · cases hn
  | @refused n f s1 a st1 _ hcap _ hf hs =>
    rcases flushNow_even h hf with hv | ⟨_, _, h1⟩
    · exact .inl (A.void_leads hv (Adapter.submitWrite_used hs))
    · have hfd : (s1.loaded offset data hcap).adapter.fd = fd := h1.fd
      rcases Adapter.submitWrite_audited hfd hcap h1.books hs with
        hv | ⟨hq, _⟩ | ⟨_, _, ht, _⟩
      · exact .inl hv
      · cases hq
      · cases ht
  | @submitted n ticket s1 a st1 _ hcap _ hf hs =>
    rcases flushNow_even h hf with hv | ⟨_, hd, h1⟩
    · exact .inl (A.void_leads hv (Adapter.submitWrite_used hs))
    · have hfd : (s1.loaded offset data hcap).adapter.fd = fd := h1.fd
      rcases Adapter.submitWrite_audited hfd hcap h1.books hs with
        hv | ⟨hq, _⟩ | ⟨_, piece, ht, ha, _, hb⟩
      · exact .inl hv
      · cases hq
      · cases ht
        subst ha
        have hsame : s1.adapter.SameWrites (s1.loaded offset data hcap).adapter := ⟨rfl, rfl⟩
        have hout : Even A (s1.loaded offset data hcap) st' taken direct
            (some (ticket, .write offset piece)) taken := h1.moved hsame hb hd rfl
        refine .inr ⟨direct, 0, ?_, rfl, .out (.write hd rfl) ⟨taken, hout⟩⟩
        exact (ite_self 0).symm
  | @inline n q s1 a st1 _ hcap _ hf hs =>
    rcases flushNow_even h hf with hv | ⟨_, hd, h1⟩
    · exact .inl (A.void_leads hv (Adapter.submitWrite_used hs))
    · have hfd : (s1.loaded offset data hcap).adapter.fd = fd := h1.fd
      rcases Adapter.submitWrite_audited hfd hcap h1.books hs with
        hv | ⟨hq, ha, hb⟩ | ⟨_, _, ht, _⟩
      · exact .inl hv
      · cases hq
        subst ha
        have hsmall : ¬ s.capacity < data.length := by
          have hsame := (flushNow_same hf).capacity
          unfold Stage.capacity at hsame ⊢
          unfold Stage.buffer at hcap
          omega
        let wrote : Stage :=
          (s1.loaded offset data hcap).released ((s1.loaded offset data hcap).adapter.wrote data.length)
        rcases ha : wrote.answerWrite data.length (.ok data.length) with ⟨c, s2⟩
        obtain ⟨hdirty, hflushed, hsame, rfl⟩ := answerWrite_ok_fields ha
        obtain ⟨hinflight, _⟩ := answerWrite_counts ha
        have hidle2 : s2.outstanding = 0 := by
          unfold outstanding
          rw [hinflight]
          rfl
        have heven : s2.Even A st' taken (direct + data.length) none taken :=
          h1.wrote ⟨hsame.fd, hsame.written⟩ hb (hdirty.trans hd) hflushed
        refine .inr ⟨direct + data.length, 0, ?_, rfl, .ended (by simp) hidle2 ⟨taken, heven⟩⟩
        rw [if_neg hsmall]
      · cases ht

/-- The completion of the request that is out. -/
theorem complete_even {t : Ticket} {e : Errand} {c : Option Completion} (he : s.Expects e)
    (h : s.Even A st taken direct (some (t, e)) flushed)
    (hawait : ObjectStore.await t st = (c, st')) :
    A.Void st' ∨ ∃ done, c = some done ∧ ∀ answer s', s.complete done = (answer, s') →
      s'.outstanding = 0 ∧
        ∃ flushed', s'.Even A st' taken (direct + answer.writeCount) none flushed' := by
  cases he with
  | @read offset len at' len' hd hreq =>
    obtain rfl := h.all_flushed hd
    obtain ⟨q, rfl, hb⟩ := A.await_read h.books hawait
    refine .inr ⟨_, rfl, ?_⟩
    intro answer s' hc
    rcases hf : s.adapter.finish at' s.capacity (.bytes q) with ⟨q', a⟩
    rw [complete_read hreq hf] at hc
    obtain ⟨hdirty, hflushed, hcount⟩ := answerRead_fields hc
    obtain ⟨hinflight, _⟩ := answerRead_counts hc
    have hsame : s.adapter.SameWrites s'.adapter := by
      rw [answerRead_adapter hc]
      cases q with
      | error f =>
        cases hf
        exact ⟨rfl, rfl⟩
      | ok bytes => exact Adapter.install_writes hf
    refine ⟨?_, flushed, ?_⟩
    · unfold outstanding
      rw [hinflight]
      rfl
    · rw [hcount]
      exact h.moved hsame hb (hdirty.trans hd) hflushed
  | @write offset at' len' data hd hreq =>
    obtain rfl := h.all_flushed hd
    rcases A.await_write h.books hawait with hv | ⟨rfl, hb⟩
    · exact .inl hv
    · refine .inr ⟨_, rfl, ?_⟩
      intro answer s' hc
      have hf : s.adapter.finish at' len' (.count (.ok data.length)) =
          (.ok data.length, s.adapter.wrote data.length) := rfl
      rw [complete_write hreq hf] at hc
      obtain ⟨hdirty, hflushed, hsame, rfl⟩ := answerWrite_ok_fields hc
      obtain ⟨hinflight, _⟩ := answerWrite_counts hc
      refine ⟨?_, flushed, h.wrote ⟨hsame.fd, hsame.written⟩ hb (hdirty.trans hd) hflushed⟩
      unfold outstanding
      rw [hinflight]
      rfl

end Stage

end StagedFiles
