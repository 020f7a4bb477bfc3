-- What is done with a file between its open and its close, raw or with a stage. It
-- comes down to uses of its descriptor, which the file keeps; an open and a close
-- come down to calls of the store as well.
import StagedFiles.Proofs.Closing
import StagedFiles.Proofs.StoreCalls

namespace StagedFiles

/-! ## What is done with a file -/

/-- A use of a file: all that is done with it between its open and its close. -/
inductive Use where
  | read (offset len : Nat)
  | write (offset : Nat) (data : Bytes)
  | flush
  | readAio (offset len : Nat)
  | writeAio (offset : Nat) (data : Bytes)
  /-- The completion of a request comes. -/
  | complete (c : Completion)
  | readRaw (offset len : Nat)
  | readv (extents : List Extent)
  | stat
  | sync
  | truncate (len : Nat)

namespace ObjectFile

variable {σ : Type} [ObjectStore σ]

/-- A raw file has nothing to flush. -/
def flush (f : ObjectFile) (st : σ) : ObjectFile × σ :=
  match f with
  | .raw f => (.raw f, st)
  | .staged f => let (_, f, st) := f.flush st; (.staged f, st)

/-- The file and the store after a use. -/
def use (f : ObjectFile) (st : σ) : Use → ObjectFile × σ
  | .read offset len => (f.read offset len st).2
  | .write offset data => (f.write offset data st).2
  | .flush => f.flush st
  | .readAio offset len => (f.readAio offset len st).2
  | .writeAio offset data => (f.writeAio offset data st).2
  | .complete c => ((f.complete c).2, st)
  | .readRaw offset len => (f.readRaw offset len st).2
  | .readv extents => (f.readv extents st).2
  | .stat => (f.stat st).2
  | .sync => (f.sync st).2
  | .truncate len => (f.truncate len st).2

/-- The raw file under a stage has the descriptor of the session. -/
def Whole : ObjectFile → Prop
  | .raw _ => True
  | .staged f => f.raw.fd = f.fd

end ObjectFile

/-- The same descriptor, in the session and under it. -/
structure StagedFile.SameFd (f f' : StagedFile) : Prop where
  session : f'.fd = f.fd
  raw : f'.raw = f.raw

namespace StagedFile

variable {σ : Type} [ObjectStore σ] {f f' : StagedFile} {s : Session} {st st' : σ}

theorem SameFd.refl (f : StagedFile) : f.SameFd f := ⟨rfl, rfl⟩

theorem opened_eq_ok (h : f.opened = .ok s) : f.session = some s := by
  unfold opened at h
  split at h
  · cases h
    assumption
  · cases h

theorem writable_eq_ok (h : f.writable = .ok s) : f.session = some s := by
  unfold writable at h
  split at h
  · split at h
    · cases h
      assumption
    · cases h
  · cases h

theorem withStage_fd (hs : f.session = some s) (stage : Stage) : f.SameFd (f.withStage s stage) := by
  refine ⟨?_, rfl⟩
  unfold StagedFile.fd withStage
  rw [hs]
  rfl

theorem read_used {offset len : Nat} {r : Except Failure Bytes}
    (h : f.read offset len st = (r, f', st')) : Used st st' ∧ f.SameFd f' := by
  unfold StagedFile.read at h
  split at h
  · cases h
    exact ⟨.stay, .refl f⟩
  · rename_i s hs
    have hsame := withStage_fd (opened_eq_ok hs)
    split at h
    · rename_i hr
      cases h
      exact ⟨Stage.read_used hr, hsame _⟩
    · rename_i stage _ hr
      cases h
      exact ⟨Stage.read_used hr, (hsame stage).session, rfl⟩

theorem write_used {offset : Nat} {data : Bytes} {r : Except Failure Nat}
    (h : f.write offset data st = (r, f', st')) : Used st st' ∧ f.SameFd f' := by
  unfold StagedFile.write at h
  split at h
  · cases h
    exact ⟨.stay, .refl f⟩
  · rename_i s hs
    have hsame := withStage_fd (writable_eq_ok hs)
    split at h
    · rename_i hw
      cases h
      exact ⟨Stage.write_used hw, hsame _⟩
    · rename_i stage _ hw
      cases h
      exact ⟨Stage.write_used hw, (hsame stage).session, rfl⟩

theorem flush_used {r : Except Failure Nat} (h : f.flush st = (r, f', st')) :
    Used st st' ∧ f.SameFd f' := by
  unfold StagedFile.flush at h
  split at h
  · cases h
    exact ⟨.stay, .refl f⟩
  · rename_i s hs
    rcases hf : s.stage.flush st with ⟨q, stage, st1⟩
    rw [hf] at h
    cases h
    exact ⟨Stage.flush_used hf, withStage_fd (opened_eq_ok hs) stage⟩

theorem readAio_used {offset len : Nat} {r : Except Failure (Started Completion)}
    (h : f.readAio offset len st = (r, f', st')) : Used st st' ∧ f.SameFd f' := by
  unfold StagedFile.readAio at h
  split at h
  · cases h
    exact ⟨.stay, .refl f⟩
  · rename_i s hs
    rcases hr : s.stage.readAio offset len st with ⟨q, stage, st1⟩
    rw [hr] at h
    cases h
    exact ⟨Stage.readAio_used hr, withStage_fd (opened_eq_ok hs) stage⟩

theorem writeAio_used {offset : Nat} {data : Bytes} {r : Except Failure (Started Completion)}
    (h : f.writeAio offset data st = (r, f', st')) : Used st st' ∧ f.SameFd f' := by
  unfold StagedFile.writeAio at h
  split at h
  · cases h
    exact ⟨.stay, .refl f⟩
  · rename_i s hs
    rcases hw : s.stage.writeAio offset data st with ⟨q, stage, st1⟩
    rw [hw] at h
    cases h
    exact ⟨Stage.writeAio_used hw, withStage_fd (writable_eq_ok hs) stage⟩

theorem complete_fd (f : StagedFile) (c : Completion) : f.SameFd (f.complete c).2 := by
  unfold StagedFile.complete
  split
  · exact .refl f
  · rename_i s hs
    exact withStage_fd hs _

theorem pass_used {α : Type} {call : RawFile → σ → Except Failure α × σ} {r : Except Failure α}
    (hcall : ∀ r st', call f.raw st = (r, st') → Used st st')
    (h : f.pass call st = (r, f', st')) : Used st st' ∧ f' = f := by
  unfold pass at h
  split at h
  · cases h
    exact ⟨.stay, rfl⟩
  · rcases hc : call f.raw st with ⟨q, st1⟩
    rw [hc] at h
    cases h
    exact ⟨hcall _ _ hc, rfl⟩

theorem readv_used {extents : List Extent} {r : Except Failure (List Bytes)}
    (h : f.readv extents st = (r, f', st')) : Used st st' ∧ f.SameFd f' := by
  unfold StagedFile.readv at h
  rcases hp : f.pass (fun raw st => raw.readv extents st) st with ⟨q, f1, st1⟩
  obtain ⟨hused, rfl⟩ := pass_used (fun r st' hr => (RawFile.readv_reads hr).light.used) hp
  rw [hp] at h
  cases q with
  | error e =>
    cases h
    exact ⟨hused, .refl _⟩
  | ok pieces =>
    cases h
    exact ⟨hused, rfl, rfl⟩

end StagedFile

namespace ObjectFile

variable {σ : Type} [ObjectStore σ] {f f' : ObjectFile} {st st' : σ}

/-- A raw file stays as it is. -/
theorem use_raw {f : RawFile} {u : Use} (h : (ObjectFile.raw f).use st u = (f', st')) :
    Used st st' ∧ f' = .raw f := by
  cases u with
  | read offset len =>
    rcases hr : f.read offset len st with ⟨r, st1⟩
    simp only [use, ObjectFile.read, hr] at h
    cases h
    exact ⟨(RawFile.read_reads hr).light.used, rfl⟩
  | write offset data =>
    rcases hw : f.write offset data st with ⟨r, st1⟩
    simp only [use, ObjectFile.write, hw] at h
    cases h
    exact ⟨RawFile.write_used hw, rfl⟩
  | flush =>
    cases h
    exact ⟨.stay, rfl⟩
  | readAio offset len =>
    rcases hr : f.readAio offset len st with ⟨r, st1⟩
    simp only [use, ObjectFile.readAio, hr] at h
    cases h
    exact ⟨RawFile.readAio_used hr, rfl⟩
  | writeAio offset data =>
    rcases hw : f.writeAio offset data st with ⟨r, st1⟩
    simp only [use, ObjectFile.writeAio, hw] at h
    cases h
    exact ⟨RawFile.writeAio_used hw, rfl⟩
  | complete c =>
    cases h
    exact ⟨.stay, rfl⟩
  | readRaw offset len =>
    rcases hr : f.read offset len st with ⟨r, st1⟩
    simp only [use, ObjectFile.readRaw, hr] at h
    cases h
    exact ⟨(RawFile.read_reads hr).light.used, rfl⟩
  | readv extents =>
    rcases hr : f.readv extents st with ⟨r, st1⟩
    simp only [use, ObjectFile.readv, hr] at h
    cases h
    exact ⟨(RawFile.readv_reads hr).light.used, rfl⟩
  | stat =>
    rcases hs : f.stat st with ⟨r, st1⟩
    simp only [use, ObjectFile.stat, hs] at h
    cases h
    exact ⟨(RawFile.stat_light hs).used, rfl⟩
  | sync =>
    rcases hs : f.sync st with ⟨r, st1⟩
    simp only [use, ObjectFile.sync, hs] at h
    cases h
    exact ⟨(RawFile.sync_light hs).used, rfl⟩
  | truncate len =>
    rcases ht : f.truncate len st with ⟨r, st1⟩
    simp only [use, ObjectFile.truncate, ht] at h
    cases h
    exact ⟨(RawFile.truncate_light ht).used, rfl⟩

/-- A staged file keeps its descriptors. -/
theorem use_staged {f : StagedFile} {u : Use} (h : (ObjectFile.staged f).use st u = (f', st')) :
    Used st st' ∧ ∃ g, f' = .staged g ∧ f.SameFd g := by
  cases u with
  | read offset len =>
    rcases hr : f.read offset len st with ⟨r, g, st1⟩
    simp only [use, ObjectFile.read, hr] at h
    cases h
    obtain ⟨hused, hsame⟩ := StagedFile.read_used hr
    exact ⟨hused, g, rfl, hsame⟩
  | write offset data =>
    rcases hw : f.write offset data st with ⟨r, g, st1⟩
    simp only [use, ObjectFile.write, hw] at h
    cases h
    obtain ⟨hused, hsame⟩ := StagedFile.write_used hw
    exact ⟨hused, g, rfl, hsame⟩
  | flush =>
    rcases hf : f.flush st with ⟨r, g, st1⟩
    simp only [use, ObjectFile.flush, hf] at h
    cases h
    obtain ⟨hused, hsame⟩ := StagedFile.flush_used hf
    exact ⟨hused, g, rfl, hsame⟩
  | readAio offset len =>
    rcases hr : f.readAio offset len st with ⟨r, g, st1⟩
    simp only [use, ObjectFile.readAio, hr] at h
    cases h
    obtain ⟨hused, hsame⟩ := StagedFile.readAio_used hr
    exact ⟨hused, g, rfl, hsame⟩
  | writeAio offset data =>
    rcases hw : f.writeAio offset data st with ⟨r, g, st1⟩
    simp only [use, ObjectFile.writeAio, hw] at h
    cases h
    obtain ⟨hused, hsame⟩ := StagedFile.writeAio_used hw
    exact ⟨hused, g, rfl, hsame⟩
  | complete c =>
    cases h
    exact ⟨.stay, _, rfl, StagedFile.complete_fd f c⟩
  | readRaw offset len =>
    rcases hp : f.pass (fun raw st => raw.read offset len st) st with ⟨r, g, st1⟩
    simp only [use, ObjectFile.readRaw, hp] at h
    cases h
    obtain ⟨hused, rfl⟩ := StagedFile.pass_used (fun r st' hr => (RawFile.read_reads hr).light.used) hp
    exact ⟨hused, g, rfl, .refl g⟩
  | readv extents =>
    rcases hr : f.readv extents st with ⟨r, g, st1⟩
    simp only [use, ObjectFile.readv, hr] at h
    cases h
    obtain ⟨hused, hsame⟩ := StagedFile.readv_used hr
    exact ⟨hused, g, rfl, hsame⟩
  | stat =>
    rcases hp : f.pass (fun raw st => raw.stat st) st with ⟨r, g, st1⟩
    simp only [use, ObjectFile.stat, hp] at h
    cases h
    obtain ⟨hused, rfl⟩ := StagedFile.pass_used (fun r st' h => (RawFile.stat_light h).used) hp
    exact ⟨hused, g, rfl, .refl g⟩
  | sync =>
    rcases hp : f.pass (fun raw st => raw.sync st) st with ⟨r, g, st1⟩
    simp only [use, ObjectFile.sync, hp] at h
    cases h
    obtain ⟨hused, rfl⟩ := StagedFile.pass_used (fun r st' h => (RawFile.sync_light h).used) hp
    exact ⟨hused, g, rfl, .refl g⟩
  | truncate len =>
    rcases hp : f.pass (fun raw st => raw.truncate len st) st with ⟨r, g, st1⟩
    simp only [use, ObjectFile.truncate, hp] at h
    cases h
    obtain ⟨hused, rfl⟩ := StagedFile.pass_used (fun r st' h => (RawFile.truncate_light h).used) hp
    exact ⟨hused, g, rfl, .refl g⟩

/-- A use leaves the descriptor of the file and comes down to uses of descriptors. -/
theorem use_used {u : Use} (hwhole : f.Whole) (h : f.use st u = (f', st')) :
    Used st st' ∧ f'.fd = f.fd ∧ f'.Whole := by
  cases f with
  | raw f =>
    obtain ⟨hused, rfl⟩ := use_raw h
    exact ⟨hused, rfl, trivial⟩
  | staged f =>
    obtain ⟨hused, g, rfl, hsame⟩ := use_staged h
    refine ⟨hused, hsame.session, ?_⟩
    show g.raw.fd = g.fd
    rw [hsame.raw, hsame.session]
    exact hwhole

end ObjectFile

/-! ## Opens and closes -/

section Calls

variable {σ : Type} [ObjectStore σ] {st st' : σ}

/-- Any calls at all. -/
abbrev Called (st st' : σ) : Prop := Leads (fun _ => True) st st'

theorem Leads.called {kind : StoreCall → Prop} (h : Leads kind st st') : Called st st' :=
  h.mono fun _ _ => trivial

theorem RawFile.openPath_called {f f' : RawFile} {path : String} {access : Access}
    {r : Except Failure Fd} (h : f.openPath path access st = (r, f', st')) : Called st st' := by
  unfold RawFile.openPath at h
  split at h
  · cases h
    exact .stay
  · split at h
    · rename_i ho
      cases h
      exact .one (.openPath path access) trivial (congrArg Prod.snd ho)
    · rename_i ho
      cases h
      exact .one (.openPath path access) trivial (congrArg Prod.snd ho)

theorem RawFile.close_called {f f' : RawFile} {r : Except Failure Unit}
    (h : f.close st = (r, f', st')) : Called st st' := by
  unfold RawFile.close at h
  split at h
  · cases h
    exact .stay
  · rename_i fd _
    cases h
    exact .one (.close fd) trivial rfl

theorem StagedFile.openPath_called {f f' : StagedFile} {path : String} {access : Access}
    {r : Except Failure Fd} (h : f.openPath path access st = (r, f', st')) : Called st st' := by
  cases StagedFile.openPath_cases h with
  | already _ => exact .stay
  | unfit _ _ => exact .stay
  | refused _ hraw => exact RawFile.openPath_called hraw
  | unbuilt _ hraw hclose => exact (RawFile.openPath_called hraw).trans (RawFile.close_called hclose)
  | opened _ hraw _ => exact RawFile.openPath_called hraw

theorem StagedFile.close_called {f f' : StagedFile} {r : Except Failure Unit}
    (h : f.close st = (r, f', st')) : Called st st' := by
  rcases hs : f.session with _ | s
  · rw [StagedFile.close_shut hs] at h
    cases h
    exact .stay
  · by_cases hidle : s.stage.outstanding = 0
    · rcases hflush : s.lastFlush st with ⟨flushed, stage, st1⟩
      rcases hraw : f.raw.close st1 with ⟨closed, raw, st2⟩
      have hall := (Session.lastFlush_used hflush).called.trans (RawFile.close_called hraw)
      rw [StagedFile.close_idle hs hidle, hflush] at h
      dsimp only at h
      rw [hraw] at h
      cases flushed with
      | error e =>
        cases h
        exact hall
      | ok n =>
        cases h
        exact hall
    · rw [StagedFile.close_busy hs hidle] at h
      cases h
      exact .stay

end Calls

end StagedFiles
