-- One file, seen through a stage, over a store in memory whose calls may fail
-- or fall short at any time. Whatever callers do and in whatever order, the
-- stage and the object together are a flat file, and the buffer never says of
-- the object what is not so.
import StagedFiles.Proofs.Client
import StagedFiles.Proofs.MemoryKeeper

namespace StagedFiles.Client

/-! ## The file -/

/-- The bytes of the object. -/
def object (o : ObjectId) (c : Client (Shared (Throttled MemoryStore))) : Bytes :=
  c.store.object o

/-- The bytes of the object, and over them the bytes that are staged. -/
def file (o : ObjectId) (c : Client (Shared (Throttled MemoryStore))) : Bytes :=
  c.stage.view (c.object o)

variable {fd : Fd} {o : ObjectId} {access : Access} {c : Client (Shared (Throttled MemoryStore))}
  {bytes : Bytes}

/-- What is kept is what the object holds. -/
theorem Good.object_eq (h : Good (MemoryStore.keeper fd o access).shared c bytes) :
    c.object o = bytes := by
  obtain ⟨out, hk⟩ := h.agree.keeps
  exact Shared.object_eq hk

/-- A store with a small object, which fails its second write and cuts its third read. -/
def troubled : Shared (Throttled MemoryStore) :=
  { inner := { inner := MemoryStore.single .deferred .readWrite [1, 2, 3, 4, 5] }
    others := fun n t =>
      { inner := { t.inner with faults := if n = 1 then { writes := ⟨1, 28⟩ } else {} }
        limits := if n = 2 then { maxRead := some 2 } else {} } }

theorem troubled_kept :
    (MemoryStore.keeper .first 0 .readWrite).Keeps troubled.inner [1, 2, 3, 4, 5] none :=
  MemoryStore.single_kept .deferred .readWrite [1, 2, 3, 4, 5] {}

theorem troubled_spared : (MemoryStore.keeper .first 0 .readWrite).Spared troubled.others :=
  MemoryStore.spared_by_faults .first 0 .readWrite _ _

/-- No read of the store that fails tears an image. -/
theorem untorn (a : Adapter) : a.Untorn (MemoryStore.keeper fd o access).shared :=
  .inr (MemoryStore.keeper_landsNothing fd o access).shared

/-- Every act does to the file what it says, wherever it comes in a run. -/
theorem every_act_is_seen {settings : Settings} {stage : Stage}
    {store : Shared (Throttled MemoryStore)} (hbuild : Stage.build settings fd = .ok stage)
    (hkept : (MemoryStore.keeper fd o access).Keeps store.inner bytes none)
    (hspared : (MemoryStore.keeper fd o access).Spared store.others) (acts : List Act) (act : Act) :
    Seen ((Client.run { stage, store } acts).file o) (Client.run { stage, store } acts).due act
      ((Client.run { stage, store } acts).step act).1
      (((Client.run { stage, store } acts).step act).2.file o) := by
  have hk : (MemoryStore.keeper fd o access).shared.Keeps store bytes none := ⟨hkept, hspared⟩
  obtain ⟨hgood, _⟩ := good_of_build hbuild hk (untorn _)
  obtain ⟨object, hrun, _⟩ := hgood.run acts
  rcases hstep : (Client.run { stage, store } acts).step act with ⟨reply, c'⟩
  obtain ⟨object', hgood', hseen⟩ := hrun.step hstep
  unfold file
  rw [hrun.object_eq, hgood'.object_eq]
  exact hseen

theorem every_act_is_seen_on_a_troubled_store :
    Stage.build { bufferSize := 4 } .first = .ok .small ∧
      Seen ((Client.run { stage := .small, store := troubled } [.write 2 [9, 8, 7], .flush]).file 0)
        (Client.run { stage := .small, store := troubled } [.write 2 [9, 8, 7], .flush]).due
        (.readAio 0 3)
        ((Client.run { stage := .small, store := troubled } [.write 2 [9, 8, 7], .flush]).step
          (.readAio 0 3)).1
        (((Client.run { stage := .small, store := troubled } [.write 2 [9, 8, 7], .flush]).step
          (.readAio 0 3)).2.file 0) :=
  ⟨Stage.small_built, every_act_is_seen Stage.small_built troubled_kept troubled_spared _ _⟩

/-! ## The buffer -/

/-- What the buffer says of the object, and what it says at all while a request is out. -/
structure Represents (o : ObjectId) (capacity : Nat)
    (c : Client (Shared (Throttled MemoryStore))) : Prop where
  /-- The region keeps its capacity. -/
  region : c.stage.buffer.raw.length = capacity
  len_le : c.stage.buffer.len ≤ capacity
  one_out : c.stage.outstanding ≤ 1
  nothing_staged : c.stage.outstanding ≠ 0 → c.stage.dirty = false
  /-- While a write is out its data do not count as an image. -/
  write_hides : ∀ offset len, AioRequest.write offset len ∈ c.stage.inflight.requests →
    c.stage.buffer.valid = false
  staged : c.stage.dirty = true → c.stage.buffer.valid = true ∧ 1 ≤ c.stage.buffer.len ∧
    c.stage.buffer.start + c.stage.buffer.len ≤ Offset.last
  clean : c.stage.buffer.valid = true → c.stage.dirty = false → 1 ≤ c.stage.buffer.len →
    c.stage.buffer.start + c.stage.buffer.len ≤ (c.object o).length ∧
      c.stage.buffer.raw.take c.stage.buffer.len =
        Bytes.slice (c.object o) c.stage.buffer.start c.stage.buffer.len

/-- Data that a run holds, and that are not empty, lie inside it. -/
theorem inside_of_hasAt {b : StagingBuffer} (hat : Bytes.HasAt bytes b.start b.image)
    (hlen : 1 ≤ b.len) :
    b.start + b.len ≤ bytes.length ∧ b.raw.take b.len = Bytes.slice bytes b.start b.len := by
  have hin := hat.length_le
  have heq := Bytes.hasAt_iff.mp hat
  rw [StagingBuffer.length_image] at hin heq
  refine ⟨by omega, ?_⟩
  rw [← heq, StagingBuffer.image_eq_take]

theorem Good.represents (h : Good (MemoryStore.keeper fd o access).shared c bytes) :
    c.Represents o c.stage.capacity := by
  refine ⟨StagingBuffer.length_raw _, c.stage.buffer.len_le, h.agree.one_out,
    h.agree.nothing_staged, fun _ _ => h.agree.write_hides, h.sound.staged, ?_⟩
  intro hvalid hclean hlen
  rw [h.object_eq]
  exact inside_of_hasAt (h.sound.clean hclean hvalid) hlen

/-- In every state of every run the buffer represents the object. -/
theorem the_buffer_represents_the_object {settings : Settings} {stage : Stage}
    {store : Shared (Throttled MemoryStore)} (hbuild : Stage.build settings fd = .ok stage)
    (hkept : (MemoryStore.keeper fd o access).Keeps store.inner bytes none)
    (hspared : (MemoryStore.keeper fd o access).Spared store.others) (acts : List Act) :
    (Client.run { stage, store } acts).Represents o settings.bufferSize := by
  have hk : (MemoryStore.keeper fd o access).shared.Keeps store bytes none := ⟨hkept, hspared⟩
  obtain ⟨hgood, hcap⟩ := good_of_build hbuild hk (untorn _)
  obtain ⟨object, hrun, hsame⟩ := hgood.run acts
  have hrepresents := hrun.represents
  rw [hsame, hcap] at hrepresents
  exact hrepresents

theorem the_buffer_represents_the_object_on_a_troubled_store :
    Stage.build { bufferSize := 4 } .first = .ok .small ∧
      (Client.run { stage := .small, store := troubled }
        [.write 2 [9, 8, 7], .writeAio 1 [6], .deliver, .read 0 9]).Represents 0 4 :=
  ⟨Stage.small_built, the_buffer_represents_the_object Stage.small_built troubled_kept troubled_spared _⟩

end StagedFiles.Client
