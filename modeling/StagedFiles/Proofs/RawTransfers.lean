-- The calls of a raw file over a store that keeps its object. Reads, single
-- and vectored, come down to reads through its descriptor, which leave what is
-- kept, and so do stat and sync. A truncation changes the object and leaves the
-- transfer that is out.
import StagedFiles.File.Raw
import StagedFiles.Proofs.Keeper

namespace StagedFiles.RawFile

variable {σ : Type} [ObjectStore σ] {fd : Fd} {K : Keeper σ fd} {f : RawFile} {st st' : σ}
  {object : Bytes} {out : Option (Ticket × Errand)}

/-! ## Reads -/

/-- The store went there by reads through a descriptor. -/
inductive ReadsTo (fd : Fd) (st : σ) : σ → Prop where
  | stay : ReadsTo fd st st
  | read {st1 st2 : σ} {offset len : Nat} {r : Except Torn Bytes} : ReadsTo fd st st1 →
      ObjectStore.readAt fd offset len st1 = (r, st2) → ReadsTo fd st st2

theorem ReadsTo.trans {st'' : σ} (h : ReadsTo fd st st') (h' : ReadsTo fd st' st'') :
    ReadsTo fd st st'' := by
  induction h' with
  | stay => exact h
  | read _ hread ih => exact .read ih hread

/-- However they come out, reads leave what is kept. -/
theorem ReadsTo.kept (h : ReadsTo fd st st') (hk : K.Keeps st object out) :
    K.Keeps st' object out := by
  induction h with
  | stay => exact hk
  | @read _ _ _ _ r _ hread ih =>
    cases r with
    | ok bytes => exact (K.read_ok ih hread).1
    | error torn => exact K.read_error ih hread

/-- A file that is not open reads nothing. -/
inductive Reads (f : RawFile) (st st' : σ) : Prop where
  | nothing : st' = st → Reads f st st'
  | through {fd : Fd} : f.fd = some fd → ReadsTo fd st st' → Reads f st st'

theorem Reads.kept (h : Reads f st st') (hfd : f.fd = some fd) (hk : K.Keeps st object out) :
    K.Keeps st' object out := by
  cases h with
  | nothing hsame => exact hsame ▸ hk
  | through hopen hreads =>
    rw [hfd] at hopen
    cases hopen
    exact hreads.kept hk

theorem requireFd_eq_ok (h : f.requireFd = .ok fd) : f.fd = some fd := by
  unfold requireFd at h
  split at h
  · cases h
    assumption
  · cases h

theorem checked_eq_ok {offset len : Nat} (h : f.checked offset len = .ok fd) :
    f.fd = some fd := by
  unfold checked at h
  split at h
  · cases h
  · cases h
  · rename_i hopen _
    cases h
    exact requireFd_eq_ok hopen

theorem read_reads {offset len : Nat} {r : Except Failure Bytes}
    (h : f.read offset len st = (r, st')) : Reads f st st' := by
  unfold RawFile.read at h
  split at h
  · cases h
    exact .nothing rfl
  · rename_i hchecked
    split at h
    · rename_i hread
      cases h
      exact .through (checked_eq_ok hchecked) (.read .stay hread)
    · rename_i hread
      cases h
      exact .through (checked_eq_ok hchecked) (.read .stay hread)

/-! ## Vectored reads -/

/-- What one extent reads; an empty one asks for nothing. -/
def readExtent (fd : Fd) (st : σ) (e : Extent) : Except Failure Bytes × σ :=
  if e.len = 0 then (.ok [], st)
  else
    match ObjectStore.readAt fd e.start e.len st with
    | (.ok bytes, st) => (.ok bytes, st)
    | (.error torn, st) => (.error torn.why, st)

theorem readEach_cons (fd : Fd) (st : σ) (e : Extent) (es : List Extent) :
    readEach fd st (e :: es) =
      match readExtent fd st e with
      | (.error f, st) => (.error f, st)
      | (.ok bytes, st) =>
        match readEach fd st es with
        | (.error f, st) => (.error f, st)
        | (.ok rest, st) => (.ok (bytes :: rest), st) := by
  rw [readEach]
  rfl

theorem readExtent_reads {e : Extent} {r : Except Failure Bytes}
    (h : readExtent fd st e = (r, st')) : ReadsTo fd st st' := by
  unfold readExtent at h
  split at h
  · cases h
    exact .stay
  · split at h
    · rename_i hread
      cases h
      exact .read .stay hread
    · rename_i hread
      cases h
      exact .read .stay hread

/-- Each extent with a read of its own. -/
theorem readEach_reads {extents : List Extent} {r : Except Failure (List Bytes)}
    (h : readEach fd st extents = (r, st')) : ReadsTo fd st st' := by
  induction extents generalizing st r with
  | nil =>
    cases h
    exact .stay
  | cons e es ih =>
    rw [readEach_cons] at h
    rcases he : readExtent fd st e with ⟨f | bytes, st1⟩
    · rw [he] at h
      cases h
      exact readExtent_reads he
    · rw [he] at h
      dsimp only at h
      rcases hes : readEach fd st1 es with ⟨f | rest, st2⟩
      · rw [hes] at h
        cases h
        exact (readExtent_reads he).trans (ih hes)
      · rw [hes] at h
        cases h
        exact (readExtent_reads he).trans (ih hes)

theorem readGroup_reads {group : List Extent} {r : Except Failure (List Bytes)}
    (h : readGroup fd group st = (r, st')) : ReadsTo fd st st' := by
  unfold readGroup at h
  dsimp only at h
  split at h
  · exact readEach_reads h
  · split at h
    · cases h
      exact .stay
    · split at h
      · rename_i hread
        cases h
        exact .read .stay hread
      · rename_i hread
        cases h
        exact .read .stay hread

theorem readGroups_reads {groups : List (List Extent)} {r : Except Failure (List Bytes)}
    (h : readGroups fd st groups = (r, st')) : ReadsTo fd st st' := by
  induction groups generalizing st r with
  | nil =>
    cases h
    exact .stay
  | cons group groups ih =>
    unfold readGroups at h
    rcases hg : readGroup fd group st with ⟨f | bytes, st1⟩
    · rw [hg] at h
      cases h
      exact readGroup_reads hg
    · rw [hg] at h
      dsimp only at h
      rcases hgs : readGroups fd st1 groups with ⟨f | rest, st2⟩
      · rw [hgs] at h
        cases h
        exact (readGroup_reads hg).trans (ih hgs)
      · rw [hgs] at h
        cases h
        exact (readGroup_reads hg).trans (ih hgs)

theorem readv_reads {extents : List Extent} {r : Except Failure (List Bytes)}
    (h : f.readv extents st = (r, st')) : Reads f st st' := by
  unfold readv at h
  split at h
  · cases h
    exact .nothing rfl
  · cases h
    exact .nothing rfl
  · rename_i hopen _
    exact .through (requireFd_eq_ok hopen) (readGroups_reads h)

/-! ## The rest -/

theorem requireFd_eq (hfd : f.fd = some fd) : f.requireFd = .ok fd := by
  unfold requireFd
  rw [hfd]

theorem stat_kept {r : Except Failure Nat} (hfd : f.fd = some fd) (hk : K.Keeps st object out)
    (h : f.stat st = (r, st')) : K.Keeps st' object out := by
  unfold RawFile.stat at h
  rw [requireFd_eq hfd] at h
  exact K.stat hk h

theorem sync_kept {r : Except Failure Unit} (hfd : f.fd = some fd) (hk : K.Keeps st object out)
    (h : f.sync st = (r, st')) : K.Keeps st' object out := by
  unfold RawFile.sync at h
  rw [requireFd_eq hfd] at h
  exact K.sync hk h

/-- A truncation cuts or extends the object, or fails and leaves it. -/
theorem truncate_kept {len : Nat} {r : Except Failure Unit} (hfd : f.fd = some fd)
    (hk : K.Keeps st object out) (h : f.truncate len st = (r, st')) :
    ∃ object', K.Keeps st' object' out := by
  unfold RawFile.truncate at h
  rw [requireFd_eq hfd] at h
  dsimp only at h
  cases r with
  | ok u => exact ⟨_, K.truncate_ok hk h⟩
  | error e => exact ⟨object, K.truncate_error hk h⟩

end StagedFiles.RawFile
