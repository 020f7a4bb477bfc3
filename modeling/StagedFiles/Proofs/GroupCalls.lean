-- The calls of a vectored read. Its groups say what it asks of the store: one read
-- over the span of a group, a read for each extent of a group that reaches too far, and
-- nothing for a group without a span. After a read that fails none is made.
import StagedFiles.Proofs.RawTransfers
import StagedFiles.Proofs.RecordedCalls

namespace StagedFiles.RawFile

/-! ## The calls that are asked for -/

/-- The read of one extent; an empty one asks for nothing. -/
def extentCalls (fd : Fd) (e : Extent) : List StoreCall :=
  if e.len = 0 then [] else [.readAt fd e.start e.len]

/-- The reads of a group. -/
def groupCalls (fd : Fd) (group : List Extent) : List StoreCall :=
  if maxGroupSpan < Extent.span group then group.flatMap (extentCalls fd)
  else if Extent.span group = 0 then []
  else [.readAt fd (Extent.lowest group) (Extent.span group)]

/-! ## The calls that are made -/

variable {σ α β : Type} {t t1 t' : Recorded σ} {calls calls' : List StoreCall}

/-- Of the calls that are asked for, in their order, all were made when it came out
well, and otherwise those up to the one that failed. -/
inductive Made (calls : List StoreCall) (t : Recorded σ) :
    Except Failure α → Recorded σ → Prop where
  | all {a : α} {t' : Recorded σ} : t'.made = t.made ++ calls → Made calls t (.ok a) t'
  | upTo {f : Failure} {t' : Recorded σ} (done rest : List StoreCall) : calls = done ++ rest →
      t'.made = t.made ++ done → Made calls t (.error f) t'

theorem made_nothing (t : Recorded σ) (a : α) : Made [] t (.ok a) t := .all (List.append_nil _).symm

/-- What refuses the whole read makes none of the calls. -/
theorem made_refused (calls : List StoreCall) (t : Recorded σ) (f : Failure) :
    Made calls t (.error f : Except Failure α) t :=
  .upTo [] calls rfl (List.append_nil _).symm

/-- It does not matter what the calls brought. -/
theorem Made.answer {a : α} (h : Made calls t (.ok a) t') (b : β) : Made calls t (.ok b) t' := by
  cases h with
  | all hmade => exact .all hmade

/-- Calls that came out well, and those behind them. -/
theorem Made.andThen {a : α} {r : Except Failure β} (h : Made calls t (.ok a) t1)
    (h' : Made calls' t1 r t') : Made (calls ++ calls') t r t' := by
  cases h with
  | all hmade =>
    cases h' with
    | all hmade' => exact .all (by rw [hmade', hmade, List.append_assoc])
    | upTo done rest hcalls hmade' =>
      refine .upTo (calls ++ done) rest ?_ ?_
      · rw [hcalls, List.append_assoc]
      · rw [hmade', hmade, List.append_assoc]

/-- A call that failed, and none behind it. -/
theorem Made.stop {f : Failure} (h : Made calls t (.error f : Except Failure α) t')
    (calls' : List StoreCall) : Made (calls ++ calls') t (.error f : Except Failure β) t' := by
  cases h with
  | upTo done rest hcalls hmade =>
    exact .upTo done (rest ++ calls') (by rw [hcalls, List.append_assoc]) hmade

/-- The calls that were made start those that were asked for. -/
theorem Made.starts {r : Except Failure α} (h : Made calls t r t') :
    ∃ done, done <+: calls ∧ t'.made = t.made ++ done := by
  cases h with
  | all hmade => exact ⟨calls, List.prefix_refl _, hmade⟩
  | upTo done rest hcalls hmade => exact ⟨done, ⟨rest, hcalls.symm⟩, hmade⟩

variable [ObjectStore σ] {fd : Fd}

theorem readAt_made {offset len : Nat} {r : Except Torn Bytes}
    (h : ObjectStore.readAt fd offset len t = (r, t')) :
    t'.made = t.made ++ [.readAt fd offset len] := by
  obtain rfl : _ = t' := congrArg Prod.snd h
  exact Recorded.made_pass ..

/-! ## Vectored reads -/

theorem readExtent_made {e : Extent} {r : Except Failure Bytes}
    (h : readExtent fd t e = (r, t')) : Made (extentCalls fd e) t r t' := by
  unfold readExtent at h
  unfold extentCalls
  split at h
  · rename_i hempty
    cases h
    rw [if_pos hempty]
    exact made_nothing _ []
  · rename_i hsome
    rw [if_neg hsome]
    split at h
    · rename_i hread
      cases h
      exact .all (readAt_made hread)
    · rename_i hread
      cases h
      exact .upTo _ [] (List.append_nil _).symm (readAt_made hread)

theorem readEach_made {es : List Extent} {r : Except Failure (List Bytes)}
    (h : readEach fd t es = (r, t')) : Made (es.flatMap (extentCalls fd)) t r t' := by
  induction es generalizing t r with
  | nil =>
    cases h
    exact made_nothing _ []
  | cons e es ih =>
    rw [List.flatMap_cons]
    rw [readEach_cons] at h
    rcases he : readExtent fd t e with ⟨f | bytes, t1⟩
    · rw [he] at h
      cases h
      exact (readExtent_made he).stop _
    · rw [he] at h
      dsimp only at h
      rcases hes : readEach fd t1 es with ⟨f | rest, t2⟩
      · rw [hes] at h
        cases h
        exact (readExtent_made he).andThen (ih hes)
      · rw [hes] at h
        cases h
        exact ((readExtent_made he).andThen (ih hes)).answer _

theorem readGroup_made {group : List Extent} {r : Except Failure (List Bytes)}
    (h : readGroup fd group t = (r, t')) : Made (groupCalls fd group) t r t' := by
  unfold readGroup at h
  unfold groupCalls
  dsimp only at h
  split at h
  · rename_i hfar
    rw [if_pos hfar]
    exact readEach_made h
  · rename_i hnear
    rw [if_neg hnear]
    split at h
    · rename_i hempty
      cases h
      rw [if_pos hempty]
      exact made_nothing _ _
    · rename_i hsome
      rw [if_neg hsome]
      split at h
      · rename_i hread
        cases h
        exact .all (readAt_made hread)
      · rename_i hread
        cases h
        exact .upTo _ [] (List.append_nil _).symm (readAt_made hread)

theorem readGroups_made {groups : List (List Extent)} {r : Except Failure (List Bytes)}
    (h : readGroups fd t groups = (r, t')) : Made (groups.flatMap (groupCalls fd)) t r t' := by
  induction groups generalizing t r with
  | nil =>
    cases h
    exact made_nothing _ []
  | cons group groups ih =>
    rw [List.flatMap_cons]
    unfold readGroups at h
    rcases hg : readGroup fd group t with ⟨f | bytes, t1⟩
    · rw [hg] at h
      cases h
      exact (readGroup_made hg).stop _
    · rw [hg] at h
      dsimp only at h
      rcases hgs : readGroups fd t1 groups with ⟨f | rest, t2⟩
      · rw [hgs] at h
        cases h
        exact (readGroup_made hg).andThen (ih hgs)
      · rw [hgs] at h
        cases h
        exact ((readGroup_made hg).andThen (ih hgs)).answer _

/-- A vectored read makes the calls of its groups, one group after the other. -/
theorem readv_made {f : RawFile} {es : List Extent} {r : Except Failure (List Bytes)}
    (hfd : f.fd = some fd) (h : f.readv es t = (r, t')) :
    Made ((f.grouping.groups es).flatMap (groupCalls fd)) t r t' := by
  unfold readv at h
  rw [requireFd_eq hfd] at h
  split at h
  · cases h
    exact made_refused _ _ _
  · cases h
    exact made_refused _ _ _
  · rename_i hopen _
    cases hopen
    exact readGroups_made h

end StagedFiles.RawFile
