-- The calls that files make on their store. Whatever is done with a file between
-- its open and its close comes down to transfers, waits and calls that pass
-- through, so what each of these keeps of a store the file keeps.
import StagedFiles.File
import StagedFiles.Proofs.RawTransfers
import StagedFiles.Proofs.StageRequests

namespace StagedFiles

variable {σ : Type} [ObjectStore σ]

/-! ## Calls -/

/-- A call on a store. -/
inductive StoreCall where
  | openPath (path : String) (access : Access)
  | close (fd : Fd)
  | readAt (fd : Fd) (offset len : Nat)
  | writeAt (fd : Fd) (offset : Nat) (data : Bytes)
  | submitRead (fd : Fd) (offset len : Nat)
  | submitWrite (fd : Fd) (offset : Nat) (data : Bytes)
  | await (ticket : Ticket)
  | stat (fd : Fd)
  | sync (fd : Fd)
  | truncate (fd : Fd) (len : Nat)
  | statPath (path : String)
  | truncatePath (path : String) (len : Nat)
  | unlinkPath (path : String)
  deriving DecidableEq, Repr

/-- The store after a call. -/
def StoreCall.on {σ : Type} [ObjectStore σ] (call : StoreCall) (st : σ) : σ :=
  match call with
  | .openPath path access => (ObjectStore.openPath path access st).2
  | .close fd => (ObjectStore.close fd st).2
  | .readAt fd offset len => (ObjectStore.readAt fd offset len st).2
  | .writeAt fd offset data => (ObjectStore.writeAt fd offset data st).2
  | .submitRead fd offset len => (ObjectStore.submitRead fd offset len st).2
  | .submitWrite fd offset data => (ObjectStore.submitWrite fd offset data st).2
  | .await ticket => (ObjectStore.await ticket st).2
  | .stat fd => (ObjectStore.stat fd st).2
  | .sync fd => (ObjectStore.sync fd st).2
  | .truncate fd len => (ObjectStore.truncate fd len st).2
  | .statPath path => (ObjectStore.statPath path st).2
  | .truncatePath path len => (ObjectStore.truncatePath path len st).2
  | .unlinkPath path => (ObjectStore.unlinkPath path st).2

/-- A use of open descriptors: a transfer, a wait, or a call that passes through. -/
def StoreCall.Uses : StoreCall → Prop
  | .readAt .. | .writeAt .. | .submitRead .. | .submitWrite .. | .await _ | .stat _ | .sync _
  | .truncate .. => True
  | .openPath .. | .close _ | .statPath _ | .truncatePath .. | .unlinkPath _ => False

/-- Of these, one that writes nothing, hands nothing in and waits for nothing. -/
def StoreCall.Light : StoreCall → Prop
  | .readAt .. | .stat _ | .sync _ | .truncate .. => True
  | .openPath .. | .close _ | .writeAt .. | .submitRead .. | .submitWrite .. | .await _ | .statPath _
  | .truncatePath .. | .unlinkPath _ => False

theorem StoreCall.Light.uses {call : StoreCall} (h : call.Light) : call.Uses := by
  cases call with
  | readAt _ _ _ => trivial
  | stat _ => trivial
  | sync _ => trivial
  | truncate _ _ => trivial
  | _ => exact h.elim

/-- A call with which an adapter fills its buffer through a descriptor. -/
def StoreCall.Fills (fd : Fd) : StoreCall → Prop
  | .readAt fd' _ _ | .submitRead fd' _ _ => fd' = fd
  | .await _ => True
  | .openPath .. | .close _ | .writeAt .. | .submitWrite .. | .stat _ | .sync _ | .truncate ..
  | .statPath _ | .truncatePath .. | .unlinkPath _ => False

theorem StoreCall.Fills.uses {fd : Fd} {call : StoreCall} (h : call.Fills fd) : call.Uses := by
  cases call with
  | readAt _ _ _ => trivial
  | submitRead _ _ _ => trivial
  | await _ => trivial
  | _ => exact h.elim

/-! ## Where calls lead -/

/-- Calls of a kind lead from one store to another. -/
inductive Leads (kind : StoreCall → Prop) (st : σ) : σ → Prop where
  | stay : Leads kind st st
  | call {st' : σ} (call : StoreCall) : kind call → Leads kind st st' → Leads kind st (call.on st')

namespace Leads

variable {kind kind' : StoreCall → Prop} {st st' st'' : σ}

theorem one (call : StoreCall) (hkind : kind call) (h : call.on st = st') : Leads kind st st' :=
  h ▸ .call call hkind .stay

theorem trans (h : Leads kind st st') (h' : Leads kind st' st'') : Leads kind st st'' := by
  induction h' with
  | stay => exact h
  | call call hkind _ ih => exact .call call hkind ih

theorem mono (h : Leads kind st st') (hkind : ∀ call, kind call → kind' call) :
    Leads kind' st st' := by
  induction h with
  | stay => exact .stay
  | call call hcall _ ih => exact .call call (hkind call hcall) ih

/-- What each of the calls keeps is kept all the way. -/
theorem keeps {P : σ → Prop} (h : Leads kind st st')
    (hP : ∀ call st, kind call → P st → P (StoreCall.on call st)) (hst : P st) : P st' := by
  induction h with
  | stay => exact hst
  | call call hkind _ ih => exact hP call _ hkind ih

end Leads

/-- What the uses of open descriptors lead to. -/
abbrev Used (st st' : σ) : Prop := Leads StoreCall.Uses st st'

variable {st st' : σ}

theorem Leads.used (h : Leads StoreCall.Light st st') : Used st st' :=
  h.mono fun _ hlight => hlight.uses

/-! ## Adapters -/

namespace Adapter

variable {a a' : Adapter} {offset count : Nat} {r : Except Failure Nat}

theorem readNow_fills (h : a.readNow offset count st = (r, a', st')) :
    Leads (StoreCall.Fills a.fd) st st' := by
  unfold readNow at h
  split at h
  · rename_i hread
    cases h
    exact .one (.readAt a.fd offset count) rfl (congrArg Prod.snd hread)
  · rename_i hread
    cases h
    exact .one (.readAt a.fd offset count) rfl (congrArg Prod.snd hread)

theorem writeNow_used (h : a.writeNow offset count st = (r, a', st')) : Used st st' := by
  unfold writeNow at h
  split at h
  · rename_i hwrite
    cases h
    exact .one (.writeAt a.fd offset (a.buffer.peek 0 count)) trivial (congrArg Prod.snd hwrite)
  · rename_i hwrite
    cases h
    exact .one (.writeAt a.fd offset (a.buffer.peek 0 count)) trivial (congrArg Prod.snd hwrite)

theorem submitRead_fills {r : Except Failure (Started (Except Failure Nat))}
    (h : a.submitRead offset count st = (r, a', st')) : Leads (StoreCall.Fills a.fd) st st' := by
  unfold submitRead at h
  split at h
  · cases h
    exact .stay
  · split at h
    · rcases hnow : a.readNow offset count st with ⟨q, a1, st1⟩
      rw [hnow] at h
      cases h
      exact readNow_fills hnow
    · split at h
      · rename_i hsubmit
        cases h
        exact .one (.submitRead a.fd offset count) rfl (congrArg Prod.snd hsubmit)
      · rename_i hsubmit
        cases h
        exact .one (.submitRead a.fd offset count) rfl (congrArg Prod.snd hsubmit)

theorem submitRead_used {r : Except Failure (Started (Except Failure Nat))}
    (h : a.submitRead offset count st = (r, a', st')) : Used st st' :=
  (submitRead_fills h).mono fun _ hfills => hfills.uses

theorem submitWrite_used {r : Except Failure (Started (Except Failure Nat))}
    (h : a.submitWrite offset count st = (r, a', st')) : Used st st' := by
  unfold submitWrite at h
  split at h
  · cases h
    exact .stay
  · split at h
    · rcases hnow : a.writeNow offset count st with ⟨q, a1, st1⟩
      rw [hnow] at h
      cases h
      exact writeNow_used hnow
    · split at h
      · rename_i hsubmit
        cases h
        exact .one (.submitWrite a.fd offset (a.buffer.peek 0 count)) trivial
          (congrArg Prod.snd hsubmit)
      · rename_i hsubmit
        cases h
        exact .one (.submitWrite a.fd offset (a.buffer.peek 0 count)) trivial
          (congrArg Prod.snd hsubmit)

/-- The end of a request that is waited for, of either direction. -/
theorem settle_fills {fd : Fd} {direction : Direction} {started : Started (Except Failure Nat)}
    (h : a.settle direction offset count started st = (r, a', st')) :
    Leads (StoreCall.Fills fd) st st' := by
  unfold settle at h
  split at h
  · cases h
    exact .stay
  · rename_i ticket
    split at h
    · rename_i hawait
      cases h
      exact .one (.await ticket) trivial (congrArg Prod.snd hawait)
    · rename_i hawait
      cases h
      exact .one (.await ticket) trivial (congrArg Prod.snd hawait)

theorem settle_used {direction : Direction} {started : Started (Except Failure Nat)}
    (h : a.settle direction offset count started st = (r, a', st')) : Used st st' := by
  have hfills : Leads (StoreCall.Fills a.fd) st st' := settle_fills h
  exact hfills.mono fun _ hfills => hfills.uses

theorem read_fills (h : a.read offset count st = (r, a', st')) :
    Leads (StoreCall.Fills a.fd) st st' := by
  unfold read at h
  split at h
  · rename_i hs
    cases h
    exact submitRead_fills hs
  · rename_i hs
    exact (submitRead_fills hs).trans (settle_fills h)

theorem read_used (h : a.read offset count st = (r, a', st')) : Used st st' :=
  (read_fills h).mono fun _ hfills => hfills.uses

theorem write_used (h : a.write offset count st = (r, a', st')) : Used st st' := by
  unfold write at h
  split at h
  · rename_i hs
    cases h
    exact submitWrite_used hs
  · rename_i hs
    exact (submitWrite_used hs).trans (settle_used h)

end Adapter

/-! ## Stages -/

namespace Stage

variable {s s' : Stage} {offset pos want done : Nat} {data : Bytes}

theorem flushNow_used {r : Except Failure Nat} (h : s.flushNow st = (r, s', st')) :
    Used st st' := by
  cases flushNow_cases h with
  | clean _ => exact .stay
  | failed _ hw => exact Adapter.write_used hw
  | short _ hw _ => exact Adapter.write_used hw
  | whole _ hw _ => exact Adapter.write_used hw

theorem readFrom_used {pieces : List Bytes} {r : Except Failure (List Bytes)}
    (h : s.readFrom st pos want pieces = (r, s', st')) : Used st st' := by
  fun_induction readFrom s st pos want pieces with
  | case1 s st pos pieces =>
    cases h
    exact .stay
  | case2 s st pos want pieces hw hit hh ih => exact ih h
  | case3 s st pos want pieces hw hit hh f s1 st1 hf =>
    cases h
    exact flushNow_used hf
  | case4 s st pos want pieces hw hit hh n s1 st1 hf missed f a st2 hr =>
    cases h
    exact (flushNow_used hf).trans (Adapter.read_used hr)
  | case5 s st pos want pieces hw hit hh n s1 st1 hf missed a st2 filled hr =>
    obtain ⟨_, _, rfl⟩ := by simpa only [Prod.mk.injEq] using h
    exact (flushNow_used hf).trans (Adapter.read_used hr)
  | case6 s st pos want pieces hw hit hh n s1 st1 hf missed count a st2 hr filled hn got hg =>
    obtain ⟨_, _, rfl⟩ := by simpa only [Prod.mk.injEq] using h
    exact (flushNow_used hf).trans (Adapter.read_used hr)
  | case7 s st pos want pieces hw hit hh n s1 st1 hf missed count a st2 hr filled hn got hg ih =>
    exact ((flushNow_used hf).trans (Adapter.read_used hr)).trans (ih h)

theorem readBytes_used {r : Except Failure Bytes} (h : s.readBytes st offset want = (r, s', st')) :
    Used st st' := by
  unfold readBytes at h
  split at h
  · rename_i hr
    cases h
    exact readFrom_used hr
  · rename_i hr
    cases h
    exact readFrom_used hr

theorem stageFrom_used {r : Except Failure Nat} (h : s.stageFrom st pos data done = (r, s', st')) :
    Used st st' := by
  fun_induction stageFrom s st pos data done with
  | case1 s st pos done =>
    cases h
    exact .stay
  | case2 s st pos data done hd hj b =>
    cases h
    exact .stay
  | case3 s st pos data done hd hj f s1 st1 hf =>
    cases h
    exact flushNow_used hf
  | case4 s st pos data done hd hj n s1 st1 hf b piece fits taken started ih =>
    exact (flushNow_used hf).trans (ih h)

theorem read_used {len : Nat} {r : Except Failure Bytes} (h : s.read offset len st = (r, s', st')) :
    Used st st' := by
  unfold read at h
  split at h
  · cases h
    exact .stay
  · cases h
    exact .stay
  · exact readBytes_used h

theorem write_used {r : Except Failure Nat} (h : s.write offset data st = (r, s', st')) :
    Used st st' := by
  unfold write at h
  split at h
  · cases h
    exact .stay
  · cases h
    exact .stay
  · exact stageFrom_used h

theorem flush_used {r : Except Failure Nat} (h : s.flush st = (r, s', st')) : Used st st' := by
  unfold flush at h
  split at h
  · cases h
    exact .stay
  · exact flushNow_used h

variable {r : Except Failure (Started Completion)}

theorem readAio_used {len : Nat} (h : s.readAio offset len st = (r, s', st')) : Used st st' := by
  cases readAio_cases h with
  | beyond _ => exact .stay
  | busy _ _ => exact .stay
  | hit _ _ => exact .stay
  | large _ _ hr _ => exact readBytes_used hr
  | unflushed _ hf => exact flushNow_used hf
  | refused _ hf hs => exact (flushNow_used hf).trans (Adapter.submitRead_used hs)
  | submitted _ hf hs => exact (flushNow_used hf).trans (Adapter.submitRead_used hs)
  | inline _ hf hs => exact (flushNow_used hf).trans (Adapter.submitRead_used hs)

theorem writeAio_used (h : s.writeAio offset data st = (r, s', st')) : Used st st' := by
  cases writeAio_cases h with
  | beyond _ => exact .stay
  | busy _ _ => exact .stay
  | unstaged _ _ _ hw => exact stageFrom_used hw
  | unwritten _ _ _ hw hf => exact (stageFrom_used hw).trans (flushNow_used hf)
  | large _ _ _ hw hf => exact (stageFrom_used hw).trans (flushNow_used hf)
  | unflushed _ hf => exact flushNow_used hf
  | refused _ _ hf hs => exact (flushNow_used hf).trans (Adapter.submitWrite_used hs)
  | submitted _ _ hf hs => exact (flushNow_used hf).trans (Adapter.submitWrite_used hs)
  | inline _ _ hf hs => exact (flushNow_used hf).trans (Adapter.submitWrite_used hs)

end Stage

/-! ## Raw files -/

namespace RawFile

variable {f : RawFile} {fd : Fd}

theorem ReadsTo.light (h : ReadsTo fd st st') : Leads StoreCall.Light st st' := by
  induction h with
  | stay => exact .stay
  | @read st1 st2 offset len r _ hread ih =>
    exact ih.trans (.one (.readAt fd offset len) trivial (congrArg Prod.snd hread))

theorem Reads.light (h : Reads f st st') : Leads StoreCall.Light st st' := by
  cases h with
  | nothing hsame => exact hsame ▸ .stay
  | through _ hreads => exact hreads.light

/-- A call on the descriptor of a raw file, when it is open. -/
inductive Makes (f : RawFile) (call : Fd → StoreCall) (st : σ) : σ → Prop where
  | shut : Makes f call st st
  | made {fd : Fd} : f.fd = some fd → Makes f call st ((call fd).on st)

theorem Makes.leads {call : Fd → StoreCall} {kind : StoreCall → Prop} (h : Makes f call st st')
    (hkind : ∀ fd, f.fd = some fd → kind (call fd)) : Leads kind st st' := by
  cases h with
  | shut => exact .stay
  | made hopen => exact .one _ (hkind _ hopen) rfl

theorem stat_makes {r : Except Failure Nat} (h : f.stat st = (r, st')) : Makes f .stat st st' := by
  unfold RawFile.stat at h
  split at h
  · cases h
    exact .shut
  · rename_i hopen
    obtain rfl : st' = _ := (congrArg Prod.snd h).symm
    exact .made (requireFd_eq_ok hopen)

theorem sync_makes {r : Except Failure Unit} (h : f.sync st = (r, st')) : Makes f .sync st st' := by
  unfold RawFile.sync at h
  split at h
  · cases h
    exact .shut
  · rename_i hopen
    obtain rfl : st' = _ := (congrArg Prod.snd h).symm
    exact .made (requireFd_eq_ok hopen)

theorem truncate_makes {len : Nat} {r : Except Failure Unit} (h : f.truncate len st = (r, st')) :
    Makes f (.truncate · len) st st' := by
  unfold RawFile.truncate at h
  split at h
  · cases h
    exact .shut
  · rename_i hopen
    obtain rfl : st' = _ := (congrArg Prod.snd h).symm
    exact .made (requireFd_eq_ok hopen)

theorem stat_light {r : Except Failure Nat} (h : f.stat st = (r, st')) :
    Leads StoreCall.Light st st' := (stat_makes h).leads fun _ _ => trivial

theorem sync_light {r : Except Failure Unit} (h : f.sync st = (r, st')) :
    Leads StoreCall.Light st st' := (sync_makes h).leads fun _ _ => trivial

theorem truncate_light {len : Nat} {r : Except Failure Unit} (h : f.truncate len st = (r, st')) :
    Leads StoreCall.Light st st' := (truncate_makes h).leads fun _ _ => trivial

theorem write_used {offset : Nat} {data : Bytes} {r : Except Failure Nat}
    (h : f.write offset data st = (r, st')) : Used st st' := by
  unfold RawFile.write at h
  split at h
  · cases h
    exact .stay
  · rename_i fd _
    exact .one (.writeAt fd offset data) trivial (congrArg Prod.snd h)

theorem readAio_used {offset len : Nat} {r : Except Failure (Started Completion)}
    (h : f.readAio offset len st = (r, st')) : Used st st' := by
  unfold RawFile.readAio at h
  split at h
  · cases h
    exact .stay
  · rename_i fd _
    split at h
    · rename_i hs
      cases h
      exact .one (.submitRead fd offset len) trivial (congrArg Prod.snd hs)
    · rename_i hs
      cases h
      exact .one (.submitRead fd offset len) trivial (congrArg Prod.snd hs)

theorem writeAio_used {offset : Nat} {data : Bytes} {r : Except Failure (Started Completion)}
    (h : f.writeAio offset data st = (r, st')) : Used st st' := by
  unfold RawFile.writeAio at h
  split at h
  · cases h
    exact .stay
  · rename_i fd _
    split at h
    · rename_i hs
      cases h
      exact .one (.submitWrite fd offset data) trivial (congrArg Prod.snd hs)
    · rename_i hs
      cases h
      exact .one (.submitWrite fd offset data) trivial (congrArg Prod.snd hs)

end RawFile

end StagedFiles
