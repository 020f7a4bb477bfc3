-- An adapter and a stage over one store, and the same over another where the descriptor
-- has the first number. Stores that are alike as far as the descriptor goes answer the
-- same, so whoever hears the answers cannot tell the stores apart.
import StagedFiles.Proofs.StagePairs

namespace StagedFiles

/-! ## Stores that are alike -/

/-- A store that is like another as far as a descriptor goes, which has the first
number there. A transfer that is out has a ticket in each, and may have run or wait in
the first store. -/
structure Likeness (σ τ : Type) [ObjectStore σ] [ObjectStore τ] (Waits : σ → Ticket → Prop)
    (fd : Fd) where
  Like : σ → τ → Option (Ticket × Ticket) → Prop
  readAt {st : σ} {tt : τ} {out : Option (Ticket × Ticket)} (offset len : Nat) : Like st tt out →
    (∀ x ∈ out, Waits st x.1) →
      ∃ r st1 tt1, ObjectStore.readAt fd offset len st = (r, st1) ∧
        ObjectStore.readAt .first offset len tt = (r, tt1) ∧ Like st1 tt1 out ∧
        ∀ x ∈ out, Waits st1 x.1
  truncate {st : σ} {tt : τ} {out : Option (Ticket × Ticket)} (len : Nat) : Like st tt out →
    (∀ x ∈ out, Waits st x.1) →
      ∃ r st1 tt1, ObjectStore.truncate fd len st = (r, st1) ∧
        ObjectStore.truncate .first len tt = (r, tt1) ∧ Like st1 tt1 out ∧
        ∀ x ∈ out, Waits st1 x.1
  writeAt {st : σ} {tt : τ} (offset : Nat) (data : Bytes) : Like st tt none →
    ∃ r st1 tt1, ObjectStore.writeAt fd offset data st = (r, st1) ∧
      ObjectStore.writeAt .first offset data tt = (r, tt1) ∧ Like st1 tt1 none
  submitRead {st : σ} {tt : τ} (offset len : Nat) : Like st tt none →
    ∃ t u st1 tt1, ObjectStore.submitRead fd offset len st = (.ok t, st1) ∧
      ObjectStore.submitRead .first offset len tt = (.ok u, tt1) ∧
      Like st1 tt1 (some (t, u)) ∧ Waits st1 t
  submitWrite {st : σ} {tt : τ} (offset : Nat) (data : Bytes) : Like st tt none →
    ∃ t u st1 tt1, ObjectStore.submitWrite fd offset data st = (.ok t, st1) ∧
      ObjectStore.submitWrite .first offset data tt = (.ok u, tt1) ∧
      Like st1 tt1 (some (t, u)) ∧ Waits st1 t
  await {st : σ} {tt : τ} {t u : Ticket} : Like st tt (some (t, u)) →
    ∃ done st1 tt1, ObjectStore.await t st = (some done, st1) ∧
      ObjectStore.await u tt = (some done, tt1) ∧ Like st1 tt1 none

variable {σ τ : Type} [ObjectStore σ] [ObjectStore τ] {Waits : σ → Ticket → Prop} {fd : Fd}
  (L : Likeness σ τ Waits fd)  {kind : AdapterKind} {st : σ} {tt : τ}

/-! ## Adapters -/

namespace Adapter

variable {a a' : Adapter}

/-- The two come to the same, with the same answer. -/
def Together {α : Type} (L : Likeness σ τ Waits fd) (kind : AdapterKind) (x : α × Adapter × σ)
    (x' : α × Adapter × τ) : Prop :=
  ∃ r a st a' tt, x = (r, a, st) ∧ x' = (r, a', tt) ∧ Beside ⟨kind, fd⟩ ⟨kind, .first⟩ a a' ∧
    L.Like st tt none

theorem readNow_together (h : Beside ⟨kind, fd⟩ ⟨kind, .first⟩ a a') (hlike : L.Like st tt none)
    (offset count : Nat) :
    Together L kind (a.readNow offset count st) (a'.readNow offset count tt) := by
  obtain ⟨r, st1, tt1, hread, hread', hlike', -⟩ := L.readAt offset count hlike (by simp)
  rw [show fd = a.fd from h.fd.symm] at hread
  rw [show Fd.first = a'.fd from h.fd'.symm] at hread'
  unfold readNow
  rw [hread, hread']
  rcases r with torn | bytes
  · exact ⟨_, _, _, _, _, rfl, rfl, h.withBuffer (h.buffer.poke 0 torn.landed), hlike'⟩
  · obtain ⟨q, b, b', hinstall, hinstall', hbeside⟩ := h.install offset bytes
    dsimp only
    rw [hinstall, hinstall']
    exact ⟨_, _, _, _, _, rfl, rfl, hbeside, hlike'⟩

theorem writeNow_together (h : Beside ⟨kind, fd⟩ ⟨kind, .first⟩ a a') (hlike : L.Like st tt none)
    (offset count : Nat) :
    Together L kind (a.writeNow offset count st) (a'.writeNow offset count tt) := by
  obtain ⟨r, st1, tt1, hw, hw', hlike'⟩ := L.writeAt offset (a.buffer.peek 0 count) hlike
  rw [show fd = a.fd from h.fd.symm] at hw
  rw [show Fd.first = a'.fd from h.fd'.symm] at hw'
  unfold writeNow
  rw [h.buffer.peek, hw, hw']
  rcases r with f | n
  · exact ⟨_, _, _, _, _, rfl, rfl, h, hlike'⟩
  · exact ⟨_, _, _, _, _, rfl, rfl, h.wrote n, hlike'⟩

/-- A transfer that starts over both stores is refused or over in both with the same
answer, or out in both. -/
inductive StartsAlike (L : Likeness σ τ Waits fd) (kind : AdapterKind) :
    Except Failure (Started (Except Failure Nat)) × Adapter × σ →
    Except Failure (Started (Except Failure Nat)) × Adapter × τ → Prop where
  | refused {f : Failure} {a a' : Adapter} {st : σ} {tt : τ} :
      Beside ⟨kind, fd⟩ ⟨kind, .first⟩ a a' → L.Like st tt none →
      StartsAlike L kind (.error f, a, st) (.error f, a', tt)
  | finished {r : Except Failure Nat} {a a' : Adapter} {st : σ} {tt : τ} :
      Beside ⟨kind, fd⟩ ⟨kind, .first⟩ a a' → L.Like st tt none →
      StartsAlike L kind (.ok (.finished r), a, st) (.ok (.finished r), a', tt)
  | submitted {t u : Ticket} {a a' : Adapter} {st : σ} {tt : τ} :
      Beside ⟨kind, fd⟩ ⟨kind, .first⟩ a a' → L.Like st tt (some (t, u)) → Waits st t →
      StartsAlike L kind (.ok (.submitted t), a, st) (.ok (.submitted u), a', tt)

theorem submitRead_alike (h : Beside ⟨kind, fd⟩ ⟨kind, .first⟩ a a') (hlike : L.Like st tt none)
    (offset count : Nat) :
    StartsAlike L kind (a.submitRead offset count st) (a'.submitRead offset count tt) := by
  unfold Adapter.submitRead
  rw [h.checkCount, show a'.kind = a.kind from h.kind'.trans h.kind.symm]
  rcases a.checkCount count with f | ⟨⟩
  · exact .refused h hlike
  dsimp only
  rcases a.kind with _ | _
  · obtain ⟨r, b, st1, b', tt1, hn, hn', hb, hlike'⟩ := readNow_together L h hlike offset count
    rw [hn, hn']
    exact .finished hb hlike'
  · obtain ⟨t, u, st1, tt1, hs, hs', hlike', hwaits⟩ := L.submitRead offset count hlike
    rw [show fd = a.fd from h.fd.symm] at hs
    rw [show Fd.first = a'.fd from h.fd'.symm] at hs'
    rw [hs, hs']
    exact .submitted h hlike' hwaits

theorem submitWrite_alike (h : Beside ⟨kind, fd⟩ ⟨kind, .first⟩ a a') (hlike : L.Like st tt none)
    (offset count : Nat) :
    StartsAlike L kind (a.submitWrite offset count st) (a'.submitWrite offset count tt) := by
  unfold Adapter.submitWrite
  rw [h.checkCount, show a'.kind = a.kind from h.kind'.trans h.kind.symm]
  rcases a.checkCount count with f | ⟨⟩
  · exact .refused h hlike
  dsimp only
  rcases a.kind with _ | _
  · obtain ⟨r, b, st1, b', tt1, hn, hn', hb, hlike'⟩ := writeNow_together L h hlike offset count
    rw [hn, hn']
    exact .finished hb hlike'
  · obtain ⟨t, u, st1, tt1, hs, hs', hlike', hwaits⟩ :=
      L.submitWrite offset (a.buffer.peek 0 count) hlike
    rw [show fd = a.fd from h.fd.symm] at hs
    rw [show Fd.first = a'.fd from h.fd'.symm] at hs'
    rw [h.buffer.peek, hs, hs']
    exact .submitted h hlike' hwaits

variable {L}

/-- A transfer that was started and is waited for. -/
theorem StartsAlike.settled {direction : Direction} {offset count : Nat}
    {x : Except Failure (Started (Except Failure Nat)) × Adapter × σ}
    {x' : Except Failure (Started (Except Failure Nat)) × Adapter × τ}
    (h : StartsAlike L kind x x') :
    Together L kind (settled direction offset count x) (settled direction offset count x') := by
  cases h with
  | refused h hlike => exact ⟨_, _, _, _, _, rfl, rfl, h, hlike⟩
  | finished h hlike => exact ⟨_, _, _, _, _, rfl, rfl, h, hlike⟩
  | submitted h hlike _ =>
    obtain ⟨done, st1, tt1, hwait, hwait', hlike'⟩ := L.await hlike
    obtain ⟨r, b, b', hfinish, hfinish', hb⟩ := h.finish offset count done
    refine ⟨r, b, st1, b', tt1, ?_, ?_, hb, hlike'⟩
    · unfold Adapter.settled Adapter.settle
      dsimp only
      rw [hwait]
      dsimp only
      rw [hfinish]
    · unfold Adapter.settled Adapter.settle
      dsimp only
      rw [hwait']
      dsimp only
      rw [hfinish']

end Adapter

/-- Adapters of one kind move the same bytes over stores that are alike. -/
def Likeness.pairing (kind : AdapterKind) : Pairing σ τ ⟨kind, fd⟩ ⟨kind, .first⟩ where
  Abreast st tt := L.Like st tt none
  read offset count h hlike := (Adapter.submitRead_alike L h hlike offset count).settled
  write offset count h hlike := (Adapter.submitWrite_alike L h hlike offset count).settled

/-! ## Stages -/

namespace Stage

/-- A request that starts over both stores is refused or over in both with the same
answer, or out in both. -/
inductive StartsAlike (L : Likeness σ τ Waits fd) (kind : AdapterKind) :
    Except Failure (Started Completion) × Stage × σ →
    Except Failure (Started Completion) × Stage × τ → Prop where
  | refused {f : Failure} {s s' : Stage} {st : σ} {tt : τ} :
      Beside ⟨kind, fd⟩ ⟨kind, .first⟩ s s' → L.Like st tt none →
      StartsAlike L kind (.error f, s, st) (.error f, s', tt)
  | finished {c : Completion} {s s' : Stage} {st : σ} {tt : τ} :
      Beside ⟨kind, fd⟩ ⟨kind, .first⟩ s s' → L.Like st tt none →
      StartsAlike L kind (.ok (.finished c), s, st) (.ok (.finished c), s', tt)
  | submitted {t u : Ticket} {s s' : Stage} {st : σ} {tt : τ} :
      Beside ⟨kind, fd⟩ ⟨kind, .first⟩ s s' → L.Like st tt (some (t, u)) → Waits st t →
      StartsAlike L kind (.ok (.submitted t), s, st) (.ok (.submitted u), s', tt)

variable {L} {s s' : Stage}

theorem begun_alike {back back' : Adapter → Adapter}
    {x : Except Failure (Started (Except Failure Nat)) × Adapter × σ}
    {x' : Except Failure (Started (Except Failure Nat)) × Adapter × τ}
    (h : Beside ⟨kind, fd⟩ ⟨kind, .first⟩ s s')
    (hback : ∀ a a' : Adapter, a.Beside ⟨kind, fd⟩ ⟨kind, .first⟩ a' →
      (back a).Beside ⟨kind, fd⟩ ⟨kind, .first⟩ (back' a'))
    (hstarts : Adapter.StartsAlike L kind x x') :
    StartsAlike L kind (begun back s x) (begun back' s' x') := by
  cases hstarts with
  | refused ha hlike =>
    have hrest := (h.withAdapter (hback _ _ ha)).withInflight s.inflight.finish
    unfold begun
    dsimp only
    rw [h.inflight]
    exact .refused hrest hlike
  | @finished r a a' st tt ha hlike =>
    obtain ⟨hsame, hrest⟩ := (h.withAdapter ha).answer r
    unfold begun
    dsimp only
    rw [hsame]
    exact .finished hrest hlike
  | submitted ha hlike hwaits => exact .submitted (h.withAdapter ha) hlike hwaits

/-- Requests start the same over stores that are alike. -/
theorem alike_carries : Carries (L.pairing kind) (StartsAlike L kind) where
  refused h hlike := .refused h hlike
  finished h hlike := .finished h hlike
  read {offset len s s' st tt} h hlike _ := by
    rw [h.capacity]
    exact begun_alike h (fun _ _ ha => ha)
      (Adapter.submitRead_alike L h.adapter hlike offset s.capacity)
  write h hlike _ hback :=
    begun_alike h hback (Adapter.submitWrite_alike L h.adapter hlike _ _)

end Stage

end StagedFiles
