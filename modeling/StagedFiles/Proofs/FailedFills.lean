-- Fills of a buffer that come to an error, over any store. The description of the image
-- and the counters stay. The image stays behind the bytes that the store moved straight
-- into the region before it failed: these stand at its front now. A fill that was handed
-- in moves none before it is over. It may end behind older requests of its adapter, and
-- adds nothing to what these have done.
import StagedFiles.Proofs.KeptTransfers
import StagedFiles.Proofs.ScratchedStore

namespace StagedFiles

/-! ## How a fill fails -/

namespace Adapter

/-- A request that was handed in before, with the completion that came for it. -/
structure Older where
  offset : Nat
  count : Nat
  completion : Completion

/-- The adapter after completions of older requests. -/
def overtaken (a : Adapter) (older : List Older) : Adapter :=
  older.foldl (fun a x => (a.finish x.offset x.count x.completion).2) a

theorem overtaken_same (a : Adapter) (older : List Older) : a.Same (a.overtaken older) := by
  unfold overtaken
  induction older generalizing a with
  | nil => exact .refl a
  | cons x older ih =>
    have hfinish : a.Same (a.finish x.offset x.count x.completion).2 :=
      finish_same (r := (a.finish x.offset x.count x.completion).1) rfl
    exact hfinish.trans (ih _)

variable {σ : Type} [ObjectStore σ]

/-- All the ways in which a fill of `count` bytes at an offset comes to an error, with the
older requests that are over before it. -/
inductive FillFails (a : Adapter) (offset count : Nat) (st : σ) :
    List Older → Failure → Adapter → Prop where
  /-- Its caller waited for it, and nothing else was out. -/
  | waited {e : Failure} {a' : Adapter} {st' : σ} :
      a.read offset count st = (.error e, a', st') → FillFails a offset count st [] e a'
  /-- It was not taken in. -/
  | refused {e : Failure} {a' : Adapter} {st' : σ} :
      a.submitRead offset count st = (.error e, a', st') → FillFails a offset count st [] e a'
  /-- It was over when it was handed in. -/
  | atOnce {e : Failure} {a' : Adapter} {st' : σ} :
      a.submitRead offset count st = (.ok (.finished (.error e)), a', st') →
      FillFails a offset count st [] e a'
  /-- Its completion came. -/
  | late {older : List Older} {ticket : Ticket} {c : Completion} {e : Failure} {a1 a' : Adapter}
      {st' : σ} :
      a.submitRead offset count st = (.ok (.submitted ticket), a1, st') →
      (a1.overtaken older).finish offset count c = (.error e, a') →
      FillFails a offset count st older e a'
  /-- Its completion was dropped. -/
  | dropped {older : List Older} {ticket : Ticket} {a1 : Adapter} {st' : σ} :
      a.submitRead offset count st = (.ok (.submitted ticket), a1, st') →
      FillFails a offset count st older (.internal (.completionDropped .read a.fd))
        (a1.overtaken older)

/-- The bytes that a read of the store moves, also when it fails. -/
def moved (a : Adapter) (offset count : Nat) (st : σ) : Bytes :=
  match (ObjectStore.readAt a.fd offset count st).1 with
  | .ok bytes => bytes
  | .error torn => torn.landed

/-- The bytes that stand in the region when a fill comes to an error. Only a read straight
into the region leaves any. -/
def landed (a : Adapter) (offset count : Nat) (st : σ) : Bytes :=
  match a.kind, a.checkCount count with
  | .sync, .ok () => a.moved offset count st
  | _, _ => []

/-- What a fill leaves that came to an error: all as it was, or the region with the bytes
that landed at its front. -/
inductive Leaves (a : Adapter) : Bytes → Adapter → Prop where
  | untouched : Leaves a [] a
  | torn {landed : Bytes} : a.kind = .sync →
      Leaves a landed { a with buffer := a.buffer.poke 0 landed }

/-! ## What is left then -/

variable {a a' : Adapter} {offset count : Nat} {st st' : σ} {e : Failure}

theorem landed_of_async (h : a.kind = .async) : a.landed offset count st = [] := by
  unfold landed
  rw [h]

theorem landed_of_refused {f : Failure} (h : a.checkCount count = .error f) :
    a.landed offset count st = [] := by
  unfold landed
  rw [h]
  split
  · rename_i hok
    cases hok
  · rfl

theorem landed_of_sync (hkind : a.kind = .sync) (hcheck : a.checkCount count = .ok ()) :
    a.landed offset count st = a.moved offset count st := by
  unfold landed
  rw [hkind, hcheck]

theorem checkCount_eq_ok (h : a.checkCount count = .ok ()) : count ≤ a.buffer.capacity := by
  unfold checkCount at h
  split at h
  · cases h
  · rename_i hle
    exact Nat.le_of_not_lt hle

/-- Bytes that fit are always taken. -/
theorem install_ok {bytes : Bytes} (h : bytes.length ≤ a.buffer.capacity) :
    (a.install offset bytes).1 = .ok bytes.length := by
  have hfits : bytes.length ≤ (a.buffer.poke 0 bytes).capacity := h
  unfold install StagingBuffer.setLength
  dsimp only
  rw [dif_pos hfits]

/-- Bytes that do not fit are in the region by the time they are refused. -/
theorem install_error {bytes : Bytes} (h : a.install offset bytes = (.error e, a')) :
    a' = { a with buffer := a.buffer.poke 0 bytes } := by
  unfold install at h
  dsimp only at h
  split at h
  · cases h
    rfl
  · cases h

/-- A completion that brings an error touches nothing. -/
theorem finish_error {c : Completion} (hcount : count ≤ a.buffer.capacity)
    (h : a.finish offset count c = (.error e, a')) : a' = a := by
  unfold finish at h
  split at h
  · rename_i bytes
    have hok : (a.install offset (bytes.take count)).1 = .ok (bytes.take count).length :=
      install_ok (Nat.le_trans (List.length_take_le count bytes) hcount)
    rw [h] at hok
    cases hok
  · cases h
    rfl
  · cases h
  · cases h
    rfl

/-- A read straight into the region leaves there what it moved. -/
theorem readNow_error (h : a.readNow offset count st = (.error e, a', st')) :
    a' = { a with buffer := a.buffer.poke 0 (a.moved offset count st) } := by
  unfold readNow at h
  unfold moved
  split at h
  · rename_i bytes st1 hread
    rcases hinstall : a.install offset bytes with ⟨r, a1⟩
    rw [hinstall] at h
    cases h
    rw [hread]
    exact install_error hinstall
  · rename_i torn st1 hread
    cases h
    rw [hread]

/-- A fill that is not taken in touches nothing. -/
theorem submitRead_error (h : a.submitRead offset count st = (.error e, a', st')) :
    a.Leaves (a.landed offset count st) a' := by
  unfold submitRead at h
  split at h
  · rename_i hrefused
    cases h
    rw [landed_of_refused hrefused]
    exact .untouched
  · split at h
    · cases h
    · rename_i hkind
      split at h
      · cases h
      · cases h
        rw [landed_of_async hkind]
        exact .untouched

/-- Only a read straight into the region is over when it is handed in. -/
theorem submitRead_atOnce
    (h : a.submitRead offset count st = (.ok (.finished (.error e)), a', st')) :
    a.Leaves (a.landed offset count st) a' := by
  unfold submitRead at h
  split at h
  · cases h
  · rename_i hcheck
    split at h
    · rename_i hkind
      rcases hnow : a.readNow offset count st with ⟨r, a1, st1⟩
      rw [hnow] at h
      cases h
      rw [landed_of_sync hkind hcheck, readNow_error hnow]
      exact .torn hkind
    · split at h
      · cases h
      · cases h

/-- A fill that was handed in touches nothing before it ends. -/
theorem submitRead_submitted {ticket : Ticket}
    (h : a.submitRead offset count st = (.ok (.submitted ticket), a', st')) :
    a' = a ∧ count ≤ a.buffer.capacity ∧ a.landed offset count st = [] := by
  unfold submitRead at h
  split at h
  · cases h
  · rename_i hcheck
    split at h
    · cases h
    · rename_i hkind
      split at h
      · cases h
        exact ⟨rfl, checkCount_eq_ok hcheck, landed_of_async hkind⟩
      · cases h

/-- A fill that its caller waits for comes to its end in one of these ways. -/
theorem read_error (h : a.read offset count st = (.error e, a', st')) :
    a.Leaves (a.landed offset count st) a' := by
  unfold read at h
  split at h
  · rename_i hsubmit
    cases h
    exact submitRead_error hsubmit
  · rename_i started a1 st1 hsubmit
    unfold settle at h
    cases started with
    | finished r =>
      cases h
      exact submitRead_atOnce hsubmit
    | submitted ticket =>
      obtain ⟨rfl, hcount, hnothing⟩ := submitRead_submitted hsubmit
      rw [hnothing]
      dsimp only at h
      split at h
      · rename_i c st2 hawait
        rcases hfinish : a1.finish offset count c with ⟨r, a2⟩
        rw [hfinish] at h
        cases h
        rw [finish_error hcount hfinish]
        exact .untouched
      · cases h
        exact .untouched

theorem FillFails.leaves {older : List Older} (h : a.FillFails offset count st older e a') :
    (a.overtaken older).Leaves (a.landed offset count st) a' := by
  cases h with
  | waited hread => exact read_error hread
  | refused hsubmit => exact submitRead_error hsubmit
  | atOnce hsubmit => exact submitRead_atOnce hsubmit
  | late hsubmit hfinish =>
    obtain ⟨rfl, hcount, hnothing⟩ := submitRead_submitted hsubmit
    rw [hnothing, finish_error (by rw [(overtaken_same _ older).capacity]; exact hcount) hfinish]
    exact .untouched
  | dropped hsubmit =>
    obtain ⟨rfl, -, hnothing⟩ := submitRead_submitted hsubmit
    rw [hnothing]
    exact .untouched

/-- The image is described as before and the counters stand. The bytes that landed stand at
the front of the image now, as far as it goes, and what was behind them is there. -/
structure Spares (a : Adapter) (landed : Bytes) (a' : Adapter) : Prop where
  described : a.buffer.Described a'.buffer
  traffic : a'.traffic = a.traffic
  image : a'.buffer.image = (Bytes.overlay a.buffer.image 0 landed).take a.buffer.len
  covers : ∀ pos n, a'.buffer.covers pos n = a.buffer.covers pos n
  length : ∀ pos n, (a'.buffer.copyOut pos n).length = (a.buffer.copyOut pos n).length
  behind : ∀ pos n, a.buffer.start + landed.length ≤ pos →
    a'.buffer.copyOut pos n = a.buffer.copyOut pos n

variable {landed : Bytes}

theorem Spares.untouched (a : Adapter) : a.Spares [] a where
  described := ⟨rfl, rfl, rfl⟩
  traffic := rfl
  image := by simp [Bytes.overlay, Bytes.resize]
  covers _ _ := rfl
  length _ _ := rfl
  behind _ _ _ := rfl

theorem Leaves.spares (h : a.Leaves landed a') : a.Spares landed a' := by
  cases h with
  | untouched => exact .untouched a
  | torn _ =>
    exact
      { described := ⟨rfl, rfl, rfl⟩
        traffic := rfl
        image := StagingBuffer.image_poke a.buffer landed
        covers := fun _ _ => rfl
        length := fun pos n => by
          rw [StagingBuffer.length_copyOut, StagingBuffer.length_copyOut]
          rfl
        behind := fun pos n hbehind => StagingBuffer.copyOut_poke n hbehind }

/-- Where nothing landed the image is the same. -/
theorem Leaves.sameImage (h : a.Leaves [] a') : a.buffer.SameImage a'.buffer := by
  cases h with
  | untouched => exact .refl a.buffer
  | torn _ => exact ⟨rfl, rfl, rfl, StagingBuffer.peek_poke_nil ..⟩

theorem Leaves.of_async (h : a.Leaves landed a') (hkind : a.kind = .async) : a' = a := by
  cases h with
  | untouched => rfl
  | torn hsync =>
    rw [hkind] at hsync
    cases hsync

end Adapter

/-! ## Whatever the store does -/

/-- A fill that comes to an error leaves the description of the image and the counters as
the older requests have left them that are over before it, as they were when there are
none. What the store moved straight into the region before it failed stands at the front of
the image, and every later hit behind it brings what it would have brought. All of the image
stays when nothing landed, and a transfer that was handed in touches nothing at all. -/
theorem a_failed_fill_leaves_all_but_what_landed {σ : Type} [ObjectStore σ] {a a' : Adapter}
    {offset count : Nat} {st : σ} {older : List Adapter.Older} {e : Failure}
    (h : a.FillFails offset count st older e a') :
    (a.overtaken older).Spares (a.landed offset count st) a' ∧
      (a.landed offset count st = [] → (a.overtaken older).buffer.SameImage a'.buffer ∧
        ∀ pos n, a'.buffer.copyOut pos n = (a.overtaken older).buffer.copyOut pos n) ∧
      (a.kind = .async → a' = a.overtaken older) := by
  have hleaves := h.leaves
  refine ⟨hleaves.spares, ?_, ?_⟩
  · intro hnothing
    rw [hnothing] at hleaves
    have hsame := hleaves.sameImage
    exact ⟨hsame, hsame.copyOut⟩
  · intro hkind
    apply hleaves.of_async
    rw [(Adapter.overtaken_same a older).kind]
    exact hkind

/-- An adapter with the first four of eight bytes, over a disk whose last two cannot be read. -/
def halfRead (kind : AdapterKind) : Adapter × Scratched (Throttled MemoryStore) :=
  let a : Adapter := { Stage.small.adapter with kind }
  (a.read 0 4 Scratched.disk).2

/-- The fill with the other four, which fails. -/
def otherHalf (kind : AdapterKind) : Adapter :=
  ((halfRead kind).1.read 4 4 (halfRead kind).2).2.1

theorem otherHalf_fails (kind : AdapterKind) :
    (halfRead kind).1.FillFails 4 4 (halfRead kind).2 [] (.system Scratched.unreadable)
      (otherHalf kind) := by
  cases kind with
  | sync => exact .waited (Prod.ext (by decide +kernel) rfl)
  | async => exact .waited (Prod.ext (by decide +kernel) rfl)

/-- Two bytes land before the fill fails, or none when it is handed in. -/
theorem a_failed_fill_leaves_half_of_an_object :
    ((halfRead .sync).1.FillFails 4 4 (halfRead .sync).2 [] (.system Scratched.unreadable)
        (otherHalf .sync) ∧
      (halfRead .sync).1.landed 4 4 (halfRead .sync).2 = [5, 6] ∧
      (halfRead .sync).1.buffer.image = [1, 2, 3, 4] ∧ (otherHalf .sync).buffer.valid = true ∧
      (otherHalf .sync).buffer.image = [5, 6, 3, 4] ∧
      (otherHalf .sync).buffer.copyOut 2 2 = (halfRead .sync).1.buffer.copyOut 2 2 ∧
      (otherHalf .sync).traffic = (halfRead .sync).1.traffic) ∧
    (halfRead .async).1.FillFails 4 4 (halfRead .async).2 [] (.system Scratched.unreadable)
        (otherHalf .async) ∧
      (halfRead .async).1.buffer.valid = true ∧ otherHalf .async = (halfRead .async).1 := by
  obtain ⟨hspares, -, -⟩ := a_failed_fill_leaves_all_but_what_landed (otherHalf_fails .sync)
  obtain ⟨-, -, hasync⟩ := a_failed_fill_leaves_all_but_what_landed (otherHalf_fails .async)
  have hlanded : (halfRead .sync).1.landed 4 4 (halfRead .sync).2 = [5, 6] := by decide +kernel
  have himage : (halfRead .sync).1.buffer.image = [1, 2, 3, 4] := by decide +kernel
  rw [hlanded] at hspares
  refine ⟨⟨otherHalf_fails .sync, hlanded, himage, ?_, ?_, hspares.behind 2 2 (by decide +kernel),
    hspares.traffic⟩, otherHalf_fails .async, by decide +kernel, hasync rfl⟩
  · exact hspares.described.valid.trans (by decide +kernel)
  · exact hspares.image.trans (by decide +kernel)

/-- The two bytes are brought by the next hit as if they were the first of the object. -/
theorem a_failed_fill_can_tear_the_image :
    ¬ ∀ (a a' : Adapter) (offset count : Nat) (st : Scratched (Throttled MemoryStore))
        (e : Failure), a.buffer.valid = true → a.FillFails offset count st [] e a' →
        a'.buffer.image = a.buffer.image ∧
          ∀ pos n, a'.buffer.copyOut pos n = a.buffer.copyOut pos n := by
  intro hall
  have hvalid : (halfRead .sync).1.buffer.valid = true := by decide +kernel
  obtain ⟨-, hhits⟩ := hall _ _ 4 4 _ _ hvalid (otherHalf_fails .sync)
  have hbefore : (halfRead .sync).1.buffer.copyOut 0 4 = [1, 2, 3, 4] := by decide +kernel
  have hafter : (otherHalf .sync).buffer.copyOut 0 4 = [5, 6, 3, 4] := by decide +kernel
  have hsame := hhits 0 4
  rw [hbefore, hafter] at hsame
  cases hsame

end StagedFiles
