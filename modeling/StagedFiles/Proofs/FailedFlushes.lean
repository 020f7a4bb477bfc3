-- Flushes that fail, whatever made the stage flush, and that are tried again. Nothing
-- that is staged is lost on the way: each try sends the same bytes to the same place,
-- and the first one that comes out well leaves what the first of all would have left.
import StagedFiles.Proofs.ReachedClient
import StagedFiles.Proofs.StagedFlushes

namespace StagedFiles

/-! ## What makes a stage flush -/

/-- With bytes staged and nothing out, the act has to flush them: it asks for that, or for
more than the image has, or it has data that do not join them, or it is handed in and goes
through the buffer or past it. -/
def Act.Flushes (s : Stage) : Act → Prop
  | .flush => True
  | .read offset len => offset + len ≤ Offset.last ∧ (s.buffer.copyOut offset len).length < len
  | .write offset data => offset + data.length ≤ Offset.last ∧ data ≠ [] ∧
      ¬ (s.buffer.stop = offset ∧ s.buffer.hasRoom data = true)
  | .readAio offset len => offset + len ≤ Offset.last ∧ s.buffer.covers offset len = false
  | .writeAio offset data => offset + data.length ≤ Offset.last
  | .deliver => False

/-- The caller hears of a failure, from the call or from the completion that came with it. -/
inductive Reply.Fails (f : Failure) : Reply → Prop where
  | bytes : Fails f (.bytes (.error f))
  | count : Fails f (.count (.error f))
  | refused : Fails f (.started (.error f))
  | bytesOver : Fails f (.started (.ok (.finished (.bytes (.error f)))))
  | countOver : Fails f (.started (.ok (.finished (.count (.error f)))))

namespace Client

variable {σ : Type} [ObjectStore σ] {fd : Fd} {K : Keeper σ fd} {content : σ → Bytes}
  {capacity : Nat} {c c' c'' : Client σ} {act : Act} {s1 : Stage} {st1 : σ}

/-- A flush of a client with no request out. -/
theorem step_flush (hidle : c.stage.outstanding = 0) {r : Except Failure Nat}
    (hf : c.stage.flushNow c.store = (r, s1, st1)) :
    c.step .flush = (.count r, { c with stage := s1, store := st1 }) := by
  rw [← Stage.flush_idle _ hidle] at hf
  simp only [Client.step, hf]

/-- Where the flush fails, the act fails and leaves what the flush has left. -/
theorem flushing_fails {f : Failure} (hact : act.Flushes c.stage)
    (hidle : c.stage.outstanding = 0) (hf : c.stage.flushNow c.store = (.error f, s1, st1)) :
    ∃ reply s', c.step act = (reply, { c with stage := s', store := st1 }) ∧ reply.Fails f ∧
      s1.SameStaged s' := by
  cases act with
  | flush => exact ⟨_, s1, step_flush hidle hf, .count, .refl s1⟩
  | read offset len =>
    obtain ⟨hlast, hmiss⟩ := hact
    obtain ⟨s', hr, hsame⟩ := (Stage.readBytes_flushes c.store hmiss).fails hf
    refine ⟨_, s', ?_, .bytes, hsame⟩
    simp only [Client.step, Stage.read_idle _ hlast hidle, hr]
  | write offset data =>
    obtain ⟨hlast, hdata, happart⟩ := hact
    obtain ⟨s', hw, hsame⟩ := (Stage.stageFrom_flushes hdata happart 0 c.store).fails hf
    refine ⟨_, s', ?_, .count, hsame⟩
    simp only [Client.step, Stage.write_idle _ hlast hidle, hw]
  | readAio offset len =>
    obtain ⟨hlast, hcovers⟩ := hact
    by_cases hlarge : c.stage.capacity < len
    · obtain ⟨s', hr, hsame⟩ :=
        (Stage.readAio_large_flushes c.store hlast hidle hcovers hlarge).fails hf
      refine ⟨_, s', ?_, .bytesOver, hsame⟩
      simp only [Client.step, hr, dueAfter]
    · obtain ⟨s', hr, hsame⟩ :=
        (Stage.readAio_fitting_flushes c.store hlast hidle hcovers hlarge).fails hf
      refine ⟨_, s', ?_, .refused, hsame⟩
      simp only [Client.step, hr, dueAfter]
  | writeAio offset data =>
    by_cases hlarge : c.stage.capacity < data.length
    · obtain ⟨s', hw, hsame⟩ := (Stage.writeAio_large_flushes c.store hact hidle hlarge).fails hf
      refine ⟨_, s', ?_, .countOver, hsame⟩
      simp only [Client.step, hw, dueAfter]
    · obtain ⟨s', hw, hsame⟩ := (Stage.writeAio_fitting_flushes c.store hact hidle hlarge).fails hf
      refine ⟨_, s', ?_, .refused, hsame⟩
      simp only [Client.step, hw, dueAfter]
  | deliver => exact hact.elim

/-- Where the flush comes out well, the act goes on as after a flush that was asked for. -/
theorem flushing_goesOn {n : Nat} (hact : act.Flushes c.stage) (hidle : c.stage.outstanding = 0)
    (hf : c.stage.flushNow c.store = (.ok n, s1, st1)) (h1 : c.stage.Unstaged s1)
    (hne : act ≠ .flush) : c.step act = step { c with stage := s1, store := st1 } act := by
  have hidle1 : s1.outstanding = 0 := h1.outstanding.trans hidle
  cases act with
  | flush => exact absurd rfl hne
  | read offset len =>
    obtain ⟨hlast, hmiss⟩ := hact
    have hsame := (Stage.readBytes_flushes c.store hmiss).goesOn hf h1
    simp only [Client.step, Stage.read_idle _ hlast hidle, Stage.read_idle _ hlast hidle1, hsame]
  | write offset data =>
    obtain ⟨hlast, hdata, happart⟩ := hact
    have hsame := (Stage.stageFrom_flushes hdata happart 0 c.store).goesOn hf h1
    simp only [Client.step, Stage.write_idle _ hlast hidle, Stage.write_idle _ hlast hidle1, hsame]
  | readAio offset len =>
    obtain ⟨hlast, hcovers⟩ := hact
    have hsame : c.stage.readAio offset len c.store = s1.readAio offset len st1 := by
      by_cases hlarge : c.stage.capacity < len
      · exact (Stage.readAio_large_flushes c.store hlast hidle hcovers hlarge).goesOn hf h1
      · exact (Stage.readAio_fitting_flushes c.store hlast hidle hcovers hlarge).goesOn hf h1
    simp only [Client.step, hsame]
  | writeAio offset data =>
    have hsame : c.stage.writeAio offset data c.store = s1.writeAio offset data st1 := by
      by_cases hlarge : c.stage.capacity < data.length
      · exact (Stage.writeAio_large_flushes c.store hact hidle hlarge).goesOn hf h1
      · exact (Stage.writeAio_fitting_flushes c.store hact hidle hlarge).goesOn hf h1
    simp only [Client.step, hsame]
  | deliver => exact hact.elim

/-- An act that neither writes nor flushes makes no call and leaves the same bytes staged. -/
theorem step_without_flush (hw : act.writes = false) (hact : ¬ act.Flushes c.stage)
    (hidle : c.stage.outstanding = 0) (hdue : c.due = none) :
    ∃ s', (c.step act).2 = { c with stage := s' } ∧ c.stage.SameStaged s' := by
  cases act with
  | flush => exact absurd trivial hact
  | read offset len =>
    by_cases hlast : offset + len ≤ Offset.last
    · have hhit : (c.stage.buffer.copyOut offset len).length = len := by
        have hle := c.stage.buffer.length_copyOut_le offset len
        by_contra hne
        exact hact ⟨hlast, by omega⟩
      obtain ⟨s', hr, hsame⟩ := Stage.readBytes_hit c.store hhit
      refine ⟨s', ?_, hsame⟩
      simp only [Client.step, Stage.read_idle _ hlast hidle, hr]
    · refine ⟨c.stage, ?_, .refl _⟩
      simp only [Client.step, Stage.read_beyond _ (Nat.lt_of_not_le hlast)]
  | readAio offset len =>
    by_cases hlast : offset + len ≤ Offset.last
    · have hcovers : c.stage.buffer.covers offset len = true := by
        by_contra hne
        exact hact ⟨hlast, by simpa using hne⟩
      obtain ⟨s', hr, hsame⟩ := Stage.readAio_hit c.store hidle hcovers
      refine ⟨s', ?_, hsame⟩
      simp only [Client.step, hr, dueAfter]
    · refine ⟨c.stage, ?_, .refl _⟩
      simp only [Client.step, Stage.readAio_beyond _ (Nat.lt_of_not_le hlast), dueAfter]
  | deliver =>
    have hstep : c.step .deliver = (.nothing, c) := by simp only [Client.step, hdue]
    rw [hstep]
    exact ⟨c.stage, rfl, .refl _⟩
  | write _ _ => cases hw
  | writeAio _ _ => cases hw

/-- A read inside the staged range brings the staged bytes, however it is made. -/
theorem read_within {offset len : Nat} (hs : c.stage.Placed)
    (hd : c.stage.dirty = true) (hidle : c.stage.outstanding = 0)
    (hle : c.stage.buffer.start ≤ offset)
    (hend : offset + len ≤ c.stage.buffer.start + c.stage.buffer.len) :
    (c.step (.read offset len)).1 =
        .bytes (.ok (Bytes.slice c.stage.buffer.image (offset - c.stage.buffer.start) len)) ∧
      (c.step (.readAio offset len)).1 = .started (.ok (.finished (.bytes (.ok
        (Bytes.slice c.stage.buffer.image (offset - c.stage.buffer.start) len))))) := by
  obtain ⟨hv, -, hlast⟩ := hs.staged hd
  have hstop : c.stage.buffer.stop = c.stage.buffer.start + c.stage.buffer.len :=
    Offset.clampedEnd_of_le hlast
  have hinside : offset + len ≤ c.stage.buffer.stop := hstop ▸ hend
  have hrange : offset + len ≤ Offset.last := Nat.le_trans hend hlast
  have hcopy := Stage.copyOut_inside hv hle hinside
  have hcovers := Stage.covers_inside hv hle hinside hrange
  obtain ⟨s', hr, -⟩ := Stage.readBytes_hit c.store (StagingBuffer.length_copyOut_of_covers hcovers)
  obtain ⟨s'', hr', -⟩ := Stage.readAio_hit c.store hidle hcovers
  rw [hcopy] at hr hr'
  refine ⟨?_, ?_⟩
  · simp only [Client.step, Stage.read_idle _ hrange hidle, hr]
  · simp only [Client.step, hr']

/-! ## Tries that fail -/

/-- Acts that made the stage flush, and each time the flush has failed. In between callers
did what neither writes nor flushes. -/
inductive FailedFlushes (c : Client σ) : Client σ → Prop where
  | none : FailedFlushes c c
  | failed {c' : Client σ} {act : Act} {f : Failure} : FailedFlushes c c' →
      act.Flushes c'.stage → (c'.step .flush).1 = .count (.error f) →
      FailedFlushes c (c'.step act).2
  | between {c' : Client σ} {act : Act} : FailedFlushes c c' → act.writes = false →
      ¬ act.Flushes c'.stage → FailedFlushes c (c'.step act).2

/-- The same bytes are staged over an object that differs below them at most. -/
structure StillStaged (content : σ → Bytes) (c c' : Client σ) : Prop where
  staged : c.stage.SameStaged c'.stage
  front : Bytes.FrontLaid (content c.store) c.stage.buffer.start c.stage.buffer.image
    (content c'.store)

omit [ObjectStore σ] in
theorem StillStaged.trans (h : StillStaged content c c') (h' : StillStaged content c' c'') :
    StillStaged content c c'' := by
  have hfront := h'.front
  rw [h.staged.image.start, h.staged.image.image] at hfront
  exact ⟨h.staged.trans h'.staged, h.front.trans hfront⟩

/-- One step, with a flush that fails or with none. -/
theorem Rests.stillStaged (h : Rests K content capacity c)
    (hact : (act.Flushes c.stage ∧ ∃ f, (c.step .flush).1 = .count (.error f)) ∨
      (act.writes = false ∧ ¬ act.Flushes c.stage)) :
    Rests K content capacity (c.step act).2 ∧ StillStaged content c (c.step act).2 ∧
      (act.Flushes c.stage → (c.step act).2.store = (c.step .flush).2.store ∧
        ∃ f, (c.step .flush).1 = .count (.error f) ∧ (c.step act).1.Fails f) := by
  rcases hact with ⟨hflushes, f, hfail⟩ | ⟨hw, hnot⟩
  · rcases hf : c.stage.flushNow c.store with ⟨r, s1, st1⟩
    have hflush := step_flush h.idle hf
    rw [hflush] at hfail ⊢
    obtain rfl : r = .error f := by simpa using hfail
    obtain ⟨reply, s', hstep, hreply, hsame'⟩ := flushing_fails hflushes h.idle hf
    obtain ⟨hsame, object, hk, hfront⟩ := Stage.flushNow_error h.held.fd_eq h.keeps hf
    have hstaged := hsame.trans hsame'
    obtain ⟨hrests, -⟩ := h.step hstep (hstaged.outstanding.trans h.idle)
    rw [hstep]
    rw [← h.tells _ _ _ hk] at hfront
    exact ⟨hrests, ⟨hstaged, hfront⟩, fun _ => ⟨rfl, f, rfl, hreply⟩⟩
  · obtain ⟨s', hafter, hsame⟩ := step_without_flush hw hnot h.idle (h.held.idle h.idle).1
    have hstep : c.step act = ((c.step act).1, { c with stage := s' }) := Prod.ext rfl hafter
    obtain ⟨hrests, -⟩ := h.step hstep (hsame.outstanding.trans h.idle)
    rw [hafter]
    exact ⟨hrests, ⟨hsame, .refl ..⟩, fun hflushes => absurd hflushes hnot⟩

/-- However often the flush fails, and whatever is read in between. -/
theorem FailedFlushes.stillStaged (ht : FailedFlushes c c') (h : Rests K content capacity c) :
    Rests K content capacity c' ∧ StillStaged content c c' := by
  induction ht with
  | none => exact ⟨h, .refl _, .refl ..⟩
  | failed _ hact hfail ih =>
    obtain ⟨hrests, hstill⟩ := ih
    obtain ⟨hrests', hstill', -⟩ := hrests.stillStaged (.inl ⟨hact, _, hfail⟩)
    exact ⟨hrests', hstill.trans hstill'⟩
  | between _ hw hnot ih =>
    obtain ⟨hrests, hstill⟩ := ih
    obtain ⟨hrests', hstill', -⟩ := hrests.stillStaged (.inr ⟨hw, hnot⟩)
    exact ⟨hrests', hstill.trans hstill'⟩

omit [ObjectStore σ] in
/-- Such a file is seen as it was. -/
theorem StillStaged.seen_eq (h : StillStaged content c c') (hd : c.stage.dirty = true) :
    c'.seen content = c.seen content := by
  unfold seen
  rw [Stage.view_congr h.staged.dirty h.staged.image, Stage.view_of_dirty hd,
    Stage.view_of_dirty hd]
  exact h.front.overlay_eq

/-- The flush that comes out well at last. -/
theorem StillStaged.flushed {n : Nat} (h : StillStaged content c c')
    (hrests : Rests K content capacity c') (hd : c.stage.dirty = true)
    (hstep : c'.step .flush = (.count (.ok n), c'')) :
    n = c.stage.buffer.len ∧ c.stage.Unstaged c''.stage ∧
      content c''.store =
        Bytes.overlay (content c.store) c.stage.buffer.start c.stage.buffer.image ∧
      (∀ act, act.Flushes c'.stage → act ≠ .flush → c'.step act = c''.step act) ∧
      c''.step .flush = (.count (.ok 0), c'') := by
  rcases hf : c'.stage.flushNow c'.store with ⟨r, s1, st1⟩
  have hflush := step_flush hrests.idle hf
  rw [hstep, Prod.mk.injEq, Reply.count.injEq] at hflush
  obtain ⟨rfl, rfl⟩ := hflush
  obtain ⟨hn, hunstaged, hk⟩ := Stage.flushNow_ok hrests.held.fd_eq (h.staged.dirty.trans hd)
    hrests.keeps hf
  refine ⟨hn.trans h.staged.image.len, h.staged.unstaged hunstaged, ?_, ?_, ?_⟩
  · show content st1 = _
    rw [hrests.tells _ _ _ hk, h.staged.image.start, h.staged.image.image]
    exact h.front.overlay_eq
  · intro act hact hne
    exact flushing_goesOn hact hrests.idle hf hunstaged hne
  · exact step_flush (hunstaged.outstanding.trans hrests.idle) (hunstaged.flushNow st1)

/-! ## Nothing is lost -/

/-- However often a flush of staged bytes fails, and whatever made the stage flush, the same
bytes stay staged, the file is seen as before, and a read inside the staged range brings
them. Each try sends the same bytes to the same place, and who made the stage flush hears of
its failure. The first flush that comes out well counts once, with all of the bytes, leaves
them over the object as it was at first, and lets the act go on that made the stage flush;
the next flush does nothing at all. -/
theorem a_failed_flush_loses_nothing (hK : K.Tells content) (hc : Reached K capacity c)
    (hd : c.stage.dirty = true) (ht : FailedFlushes c c') :
    StillStaged content c c' ∧ c'.seen content = c.seen content ∧
      (∀ offset len, c.stage.buffer.start ≤ offset →
        offset + len ≤ c.stage.buffer.start + c.stage.buffer.len →
          (c'.step (.read offset len)).1 =
              .bytes (.ok (Bytes.slice c.stage.buffer.image (offset - c.stage.buffer.start) len)) ∧
            (c'.step (.readAio offset len)).1 = .started (.ok (.finished (.bytes (.ok
              (Bytes.slice c.stage.buffer.image (offset - c.stage.buffer.start) len)))))) ∧
      Sent fd c.stage.buffer.start c.stage.buffer.image c'.store (c'.step .flush).2.store ∧
      (∀ act f, act.Flushes c'.stage → (c'.step .flush).1 = .count (.error f) →
        (c'.step act).1.Fails f ∧ (c'.step act).2.store = (c'.step .flush).2.store) ∧
      ∀ n c'', c'.step .flush = (.count (.ok n), c'') →
        n = c.stage.buffer.len ∧ c.stage.Unstaged c''.stage ∧
          content c''.store =
            Bytes.overlay (content c.store) c.stage.buffer.start c.stage.buffer.image ∧
          (∀ act, act.Flushes c'.stage → act ≠ .flush → c'.step act = c''.step act) ∧
          c''.step .flush = (.count (.ok 0), c'') := by
  have hrests : Rests K content capacity c := by
    refine hc.rests hK ?_
    -- while a request is out nothing is staged
    by_contra hout
    obtain ⟨object, hheld, -⟩ := hc.held
    rw [hheld.agree.nothing_staged hout] at hd
    cases hd
  obtain ⟨hrests', hstill⟩ := ht.stillStaged hrests
  have hsame := hstill.staged
  have hd' : c'.stage.dirty = true := hsame.dirty.trans hd
  refine ⟨hstill, hstill.seen_eq hd, ?_, ?_, ?_, fun n c'' hstep => hstill.flushed hrests' hd hstep⟩
  · intro offset len hle hend
    rw [← hsame.image.start, ← hsame.image.len] at hend
    rw [← hsame.image.start] at hle
    rw [← hsame.image.image, ← hsame.image.start]
    exact read_within hrests'.held.placed hd' hrests'.idle hle hend
  · rcases hf : c'.stage.flushNow c'.store with ⟨r, s1, st1⟩
    have hsent := Stage.flushNow_sent hd' hf
    rw [step_flush hrests'.idle hf, ← hsame.image.start, ← hsame.image.image,
      ← hrests'.held.fd_eq]
    exact hsent
  · intro act f hact hfail
    obtain ⟨-, -, hheard⟩ := hrests'.stillStaged (.inl ⟨hact, f, hfail⟩)
    obtain ⟨hstore, f', hfail', hfails⟩ := hheard hact
    rw [hfail'] at hfail
    cases hfail
    exact ⟨hfails, hstore⟩

/-- A store that fails its first write and cuts its second one short. -/
def faltering : Shared (Throttled MemoryStore) :=
  { inner := { inner := MemoryStore.single .deferred .readWrite [1, 2, 3, 4, 5] }
    others := fun n t =>
      { inner := { t.inner with faults := if n = 1 then { writes := ⟨1, 28⟩ } else {} }
        limits := if n = 2 then { maxWrite := some 2 } else {} } }

/-- Three bytes are staged over it. -/
def staging : Client (Shared (Throttled MemoryStore)) :=
  (step { stage := .small, store := faltering } (.write 2 [9, 8, 7])).2

theorem staging_reached : Reached (MemoryStore.keeper .first 0 .readWrite).shared 4 staging :=
  .after (.write 2 [9, 8, 7]) (.built Stage.small_built rfl
    ⟨MemoryStore.single_kept .deferred .readWrite [1, 2, 3, 4, 5] {},
      MemoryStore.spared_by_faults .first 0 .readWrite _ _⟩)

theorem a_failed_flush_loses_nothing_on_a_faltering_store :
    Reached (MemoryStore.keeper .first 0 .readWrite).shared 4 staging ∧
      staging.stage.dirty = true ∧
      ∃ c c', FailedFlushes staging c ∧ c.step .flush = (.count (.ok 3), c') ∧
        (c.step (.read 3 1)).1 = .bytes (.ok [8]) ∧ c'.store.object 0 = [1, 2, 9, 8, 7] := by
  have hd : staging.stage.dirty = true := by decide +kernel
  -- a read that misses, and a write that is handed in
  have hread : FailedFlushes staging (staging.step (.read 0 4)).2 :=
    .failed (f := .refused .writing 28) .none ⟨by decide, by decide +kernel⟩ (by decide +kernel)
  have hwrite : FailedFlushes staging ((staging.step (.read 0 4)).2.step (.writeAio 0 [6])).2 :=
    .failed (f := .refused .writing Errno.io) hread (by unfold Act.Flushes; decide)
      (by decide +kernel)
  obtain ⟨c, hc⟩ : ∃ c, ((staging.step (.read 0 4)).2.step (.writeAio 0 [6])).2 = c := ⟨_, rfl⟩
  have hends : c.step .flush = (.count (.ok 3), (c.step .flush).2) := by
    subst hc
    exact Prod.ext (by decide +kernel) rfl
  rw [hc] at hwrite
  obtain ⟨-, -, hreads, -, -, hok⟩ := a_failed_flush_loses_nothing
    (Shared.keeper_tells .first 0 .readWrite) staging_reached hd hwrite
  obtain ⟨-, -, hobject, -, -⟩ := hok _ _ hends
  refine ⟨staging_reached, hd, c, _, hwrite, hends, ?_, ?_⟩
  · rw [(hreads 3 1 (by decide +kernel) (by decide +kernel)).1]
    decide +kernel
  · rw [hobject]
    decide +kernel

end Client

end StagedFiles
