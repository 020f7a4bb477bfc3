-- Bytes that are staged and served without the store. Writes that follow each other
-- and fit into the buffer, with any reads of what they wrote between them, make no
-- call at all. A flush that comes out well then makes one write of all the bytes.
import StagedFiles.Proofs.RecordedCalls
import StagedFiles.Proofs.RefusedRequests

namespace StagedFiles

namespace Stage

/-! ## A stage with bytes of one run -/

/-- These bytes are staged from an offset on, and no request is out. -/
structure Staged (s : Stage) (o : Nat) (w : Bytes) : Prop where
  dirty : s.dirty = true
  valid : s.buffer.valid = true
  start : s.buffer.start = o
  image : s.buffer.image = w
  idle : s.outstanding = 0

variable {σ : Type} [ObjectStore σ] {s s' : Stage} {o : Nat} {w data : Bytes}

theorem Staged.len (h : s.Staged o w) : s.buffer.len = w.length := by
  rw [← h.image, StagingBuffer.length_image]

theorem Staged.stop (h : s.Staged o w) (hlast : o + w.length ≤ Offset.last) :
    s.buffer.stop = o + w.length := by
  unfold StagingBuffer.stop
  rw [h.start, h.len]
  exact Offset.clampedEnd_of_le hlast

/-- With bytes staged and no request out, a write is pending. -/
theorem Staged.state (h : s.Staged o w) : s.state = .writePending := by
  unfold Stage.state
  rw [h.idle, h.dirty]
  rfl

theorem Staged.of_same (h : s.Staged o w) (hsame : s.SameStaged s') : s'.Staged o w :=
  ⟨hsame.dirty.trans h.dirty, hsame.image.valid.trans h.valid, hsame.image.start.trans h.start,
    hsame.image.image.trans h.image, hsame.outstanding.trans h.idle⟩

/-! ## Writes -/

/-- A stage that starts again has the piece it starts with staged. -/
theorem staged_restarted (hidle : s.outstanding = 0) (hfits : data.length ≤ s.buffer.capacity) :
    (s.restarted o data hfits).Staged o data :=
  ⟨rfl, rfl, rfl, StagingBuffer.image_restart .., hidle⟩

/-- Data that are put behind the bytes of the run are part of it. -/
theorem Staged.join (h : s.Staged o w) (hroom : s.buffer.len + data.length ≤ s.buffer.capacity) :
    (s.withBuffer (s.buffer.append data hroom)).Staged o (w ++ data) := by
  refine ⟨h.dirty, rfl, h.start, ?_, h.idle⟩
  exact (StagingBuffer.image_append ..).trans (congrArg (· ++ data) h.image)

/-- On a stage with nothing staged, data that fit into the buffer start the run. -/
theorem write_starts (st : σ) (hclean : s.dirty = false) (hidle : s.outstanding = 0)
    (hne : data ≠ []) (hcap : data.length ≤ s.capacity) (hlast : o + data.length ≤ Offset.last) :
    ∃ s', s.write o data st = (.ok data.length, s', st) ∧ s'.Staged o data := by
  have happart : ¬ (s.dirty = true ∧ s.buffer.stop = o ∧ s.buffer.hasRoom data = true) := by
    rw [hclean]
    exact fun h => Bool.false_ne_true h.1
  have hwhole : data.take s.buffer.capacity = data := List.take_of_length_le hcap
  have hlen : (data.take s.buffer.capacity).length = data.length := congrArg List.length hwhole
  have hfits : (data.take s.buffer.capacity).length ≤ s.buffer.capacity := List.length_take_le ..
  refine ⟨s.restarted o (data.take s.buffer.capacity) hfits, ?_, ?_⟩
  · rw [write_idle st hlast hidle, Stage.stageFrom, dif_neg hne, dif_neg happart,
      flushNow_clean st hclean]
    dsimp only
    -- nothing is left behind the first piece
    rw [Stage.stageFrom, dif_pos (by rw [hlen, List.drop_length]), hlen, Nat.zero_add]
    rfl
  · have hstaged := staged_restarted (o := o) hidle hfits
    exact { hstaged with image := hstaged.image.trans hwhole }

/-- Data that fit behind the bytes of the run join it, up to a buffer that is full. -/
theorem Staged.write (h : s.Staged o w) (st : σ) (hne : data ≠ [])
    (hcap : w.length + data.length ≤ s.capacity)
    (hlast : o + (w.length + data.length) ≤ Offset.last) :
    ∃ s', s.write (o + w.length) data st = (.ok data.length, s', st) ∧
      s'.Staged o (w ++ data) := by
  rw [← Nat.add_assoc] at hlast
  have hroom : s.buffer.len + data.length ≤ s.buffer.capacity := h.len ▸ hcap
  have hstop := h.stop (Nat.le_trans (Nat.le_add_right ..) hlast)
  refine ⟨s.withBuffer (s.buffer.append data hroom), ?_, h.join hroom⟩
  rw [write_idle st hlast h.idle, Stage.stageFrom, dif_neg hne,
    dif_pos ⟨h.dirty, hstop, (s.buffer.hasRoom_iff data).mpr hroom⟩, Nat.zero_add]

/-! ## Reads -/

/-- A range of the run is copied out of the image. -/
theorem Staged.copyOut (h : s.Staged o w) (hlast : o + w.length ≤ Offset.last) {i len : Nat}
    (hin : i + len ≤ w.length) : s.buffer.copyOut (o + i) len = Bytes.slice w i len := by
  have hstop := h.stop hlast
  rw [copyOut_inside h.valid (by rw [h.start]; omega) (by omega), h.image, h.start,
    Nat.add_sub_cancel_left]

/-- A read of it is answered by the image, and so is one that is handed in. -/
theorem Staged.hit (h : s.Staged o w) (hlast : o + w.length ≤ Offset.last) {i len : Nat}
    (hin : i + len ≤ w.length) :
    (Act.read (o + i) len).hit s.buffer = some (.bytes (.ok (Bytes.slice w i len))) ∧
      (Act.readAio (o + i) len).hit s.buffer =
        some (.started (.ok (.finished (.bytes (.ok (Bytes.slice w i len)))))) := by
  have hcopy := h.copyOut hlast hin
  have hstop := h.stop hlast
  have hcovers : s.buffer.covers (o + i) len = true :=
    covers_inside h.valid (by rw [h.start]; omega) (by omega) (by omega)
  have hall : (Bytes.slice w i len).length = len := by
    rw [Bytes.length_slice]
    omega
  constructor
  · simp only [Act.hit, hcopy, hall, and_true]
    rw [if_pos (by omega)]
  · simp only [Act.hit, hcopy, hcovers, if_true]

/-! ## Flush -/

/-- A flush that comes out well is one write of the run. -/
theorem Staged.flush {t t' : Recorded σ} {n : Nat} (h : s.Staged o w)
    (hf : s.flush t = (.ok n, s', t')) :
    n = w.length ∧ s'.dirty = false ∧ t'.transfers = t.transfers ++ [.write s.fd o w] := by
  rw [flush_idle t h.idle] at hf
  have hsent := (flushNow_sent h.dirty hf).transfers
  rw [h.start, h.image] at hsent
  cases flushNow_cases hf with
  | clean hclean =>
    rw [h.dirty] at hclean
    cases hclean
  | whole _ _ hall => exact ⟨hall.trans h.len, rfl, hsent⟩

end Stage

/-! ## Writes in a row, and reads between them -/

/-- Writes that follow each other from an offset on, with reads of what they wrote
between them: what is asked for, what is answered, and the bytes that were written. -/
inductive Staging (o : Nat) : List Act → List Reply → Bytes → Prop where
  | first (data : Bytes) : data ≠ [] →
      Staging o [.write o data] [.count (.ok data.length)] data
  | write {acts : List Act} {answers : List Reply} {w : Bytes} (data : Bytes) :
      Staging o acts answers w → data ≠ [] →
      Staging o (acts ++ [.write (o + w.length) data]) (answers ++ [.count (.ok data.length)])
        (w ++ data)
  | read {acts : List Act} {answers : List Reply} {w : Bytes} (i len : Nat) :
      Staging o acts answers w → 0 < len → i + len ≤ w.length →
      Staging o (acts ++ [.read (o + i) len])
        (answers ++ [.bytes (.ok (Bytes.slice w i len))]) w
  | readAio {acts : List Act} {answers : List Reply} {w : Bytes} (i len : Nat) :
      Staging o acts answers w → 0 < len → i + len ≤ w.length →
      Staging o (acts ++ [.readAio (o + i) len])
        (answers ++ [.started (.ok (.finished (.bytes (.ok (Bytes.slice w i len)))))]) w

variable {o : Nat} {acts : List Act} {answers : List Reply} {w : Bytes}

/-- What starts a row that has grown by an act starts the row as it was, or is all of it. -/
theorem Staging.take_grown {act : Act} {w' : Bytes} {n : Nat}
    (hbefore : ∃ answers' w', Staging o (acts.take n) answers' w' ∧ w' <+: w)
    (hgrown : Staging o (acts ++ [act]) answers w') (hw : w <+: w') :
    ∃ answers' w'', Staging o ((acts ++ [act]).take n) answers' w'' ∧ w'' <+: w' := by
  by_cases hn : n ≤ acts.length
  · obtain ⟨answers', w'', h, hprefix⟩ := hbefore
    rw [List.take_append_of_le_length hn]
    exact ⟨answers', w'', h, hprefix.trans hw⟩
  · have hall : (acts ++ [act]).take n = acts ++ [act] := by
      apply List.take_of_length_le
      rw [List.length_append, List.length_singleton]
      omega
    rw [hall]
    exact ⟨answers, w', hgrown, List.prefix_refl _⟩

/-- What is asked for first is such a row of writes and reads itself. -/
theorem Staging.take (h : Staging o acts answers w) {n : Nat} (hpos : 0 < n) :
    ∃ answers' w', Staging o (acts.take n) answers' w' ∧ w' <+: w := by
  induction h with
  | first data hne =>
    rw [List.take_of_length_le (by exact hpos)]
    exact ⟨_, data, .first data hne, List.prefix_refl _⟩
  | write data h hne ih => exact take_grown ih (.write data h hne) (List.prefix_append ..)
  | read i len h hlen hin ih =>
    exact take_grown ih (.read i len h hlen hin) (List.prefix_refl _)
  | readAio i len h hlen hin ih =>
    exact take_grown ih (.readAio i len h hlen hin) (List.prefix_refl _)

namespace Client

variable {σ : Type} [ObjectStore σ] {c : Client σ}

theorem replies_append_singleton (c : Client σ) (acts : List Act) (act : Act) :
    c.replies (acts ++ [act]) = c.replies acts ++ [((c.run acts).step act).1] := by
  induction acts generalizing c with
  | nil => rfl
  | cons first acts ih =>
    rw [List.cons_append, replies, ih, replies]
    rfl

/-- One more act on a client that is where some acts led. -/
theorem run_and_replies {c1 c2 : Client σ} {act : Act} {reply : Reply} (acts : List Act)
    (hreplies : c.replies acts = answers) (hrun : c.run acts = c1)
    (hstep : c1.step act = (reply, c2)) :
    c.replies (acts ++ [act]) = answers ++ [reply] ∧ c.run (acts ++ [act]) = c2 := by
  rw [replies_append_singleton, run_append_singleton, hreplies, hrun, hstep]
  exact ⟨rfl, rfl⟩

/-- Writes in a row that fit into the buffer, and the reads between them, are all
answered, and no more than the stage is changed. -/
theorem served (h : Staging o acts answers w) (hclean : c.stage.dirty = false)
    (hidle : c.stage.outstanding = 0) (hcap : w.length ≤ c.stage.capacity)
    (hlast : o + w.length ≤ Offset.last) :
    c.replies acts = answers ∧
      ∃ s', c.run acts = { c with stage := s' } ∧ s'.Staged o w ∧ s'.fd = c.stage.fd ∧
        s'.capacity = c.stage.capacity := by
  induction h with
  | first data hne =>
    obtain ⟨s', hw, hstaged⟩ := Stage.write_starts c.store hclean hidle hne hcap hlast
    have hsame := Stage.write_same hw
    have hstep : c.step (.write o data) = (.count (.ok data.length), { c with stage := s' }) := by
      simp only [Client.step, hw]
    obtain ⟨hreplies, hrun⟩ := run_and_replies [] rfl rfl hstep
    exact ⟨hreplies, s', hrun, hstaged, hsame.fd, hsame.capacity⟩
  | @write _ _ before data h hne ih =>
    rw [List.length_append] at hcap hlast
    obtain ⟨hreplies, s1, hrun, hstaged, hfd, hcap1⟩ := ih (by omega) (by omega)
    obtain ⟨s', hw, hstaged'⟩ := hstaged.write c.store hne (hcap1 ▸ hcap) hlast
    have hsame := Stage.write_same hw
    have hstep : Client.step { c with stage := s1 } (.write (o + before.length) data) =
        (.count (.ok data.length), { c with stage := s' }) := by
      simp only [Client.step, hw]
    obtain ⟨hreplies', hrun'⟩ := run_and_replies _ hreplies hrun hstep
    exact ⟨hreplies', s', hrun', hstaged', hsame.fd.trans hfd, hsame.capacity.trans hcap1⟩
  | read i len h hlen hin ih =>
    obtain ⟨hreplies, s1, hrun, hstaged, hfd, hcap1⟩ := ih hcap hlast
    obtain ⟨s', hstep, hsame⟩ :=
      step_hit (c := { c with stage := s1 }) hstaged.idle (hstaged.hit hlast hin).1
    obtain ⟨hreplies', hrun'⟩ := run_and_replies _ hreplies hrun hstep
    exact ⟨hreplies', s', hrun', hstaged.of_same hsame, hsame.adapter.fd.trans hfd,
      hsame.adapter.capacity.trans hcap1⟩
  | readAio i len h hlen hin ih =>
    obtain ⟨hreplies, s1, hrun, hstaged, hfd, hcap1⟩ := ih hcap hlast
    obtain ⟨s', hstep, hsame⟩ :=
      step_hit (c := { c with stage := s1 }) hstaged.idle (hstaged.hit hlast hin).2
    obtain ⟨hreplies', hrun'⟩ := run_and_replies _ hreplies hrun hstep
    exact ⟨hreplies', s', hrun', hstaged.of_same hsame, hsame.adapter.fd.trans hfd,
      hsame.adapter.capacity.trans hcap1⟩

/-- From any client with nothing staged and no request out, over any store: writes that
follow each other and together fit into the buffer, with reads of parts of what they
wrote between them, are answered with what was written. The store is not called, and after
each of them a write is pending. A flush that then comes out well makes one transfer, the
write of all the bytes at the offset of the first. -/
theorem staged_bytes_are_served_without_a_call {c : Client (Recorded σ)}
    (hclean : c.stage.dirty = false) (hidle : c.stage.outstanding = 0)
    (h : Staging o acts answers w) (hcap : w.length ≤ c.stage.capacity)
    (hlast : o + w.length ≤ Offset.last) :
    c.replies acts = answers ∧
      (∀ n, 0 < n →
        (c.run (acts.take n)).store = c.store ∧
          (c.run (acts.take n)).stage.state = .writePending) ∧
      ∀ n c', (c.run acts).step .flush = (.count (.ok n), c') →
        n = w.length ∧ c'.stage.dirty = false ∧
          c'.store.transfers = c.store.transfers ++ [.write c.stage.fd o w] := by
  obtain ⟨hreplies, s, hrun, hstaged, hfd, -⟩ := served h hclean hidle hcap hlast
  refine ⟨hreplies, ?_, ?_⟩
  · intro n hpos
    obtain ⟨answers', w', h', hprefix⟩ := h.take hpos
    have hshorter := hprefix.length_le
    obtain ⟨-, s', hrun', hstaged', -⟩ :=
      served h' hclean hidle (Nat.le_trans hshorter hcap) (by omega)
    rw [hrun']
    exact ⟨rfl, hstaged'.state⟩
  · intro n c' hstep
    rw [hrun] at hstep
    rcases hf : s.flush c.store with ⟨r, s', store⟩
    simp only [Client.step, hf, Prod.mk.injEq, Reply.count.injEq] at hstep
    obtain ⟨rfl, rfl⟩ := hstep
    obtain ⟨hn, hd, hsent⟩ := hstaged.flush hf
    exact ⟨hn, hd, hfd ▸ hsent⟩

/-- A stage with a buffer of four bytes over a deferred store, after a read of three. -/
def primed : Client (Recorded MemoryStore) :=
  run { stage := .small, store := { inner := .single .deferred .readWrite [1, 2, 3, 4, 5] } }
    [.read 0 3]

/-- Two writes fill the buffer, and are read between and behind them. -/
theorem four_staged_bytes_are_served_without_a_call :
    let acts : List Act := [.write 2 [9, 8], .read 3 1, .write 4 [7, 6], .readAio 2 4]
    primed.replies acts =
        [.count (.ok 2), .bytes (.ok [8]), .count (.ok 2),
          .started (.ok (.finished (.bytes (.ok [9, 8, 7, 6]))))] ∧
      (primed.run acts).store = primed.store ∧ (primed.run acts).stage.state = .writePending ∧
      ∃ c, (primed.run acts).step .flush = (.count (.ok 4), c) ∧
        c.store.transfers = [.read .first 0 4, .write .first 2 [9, 8, 7, 6]] := by
  intro acts
  have hrow : Staging 2 acts _ [9, 8, 7, 6] :=
    .readAio 0 4 (.write [7, 6] (.read 1 1 (.first [9, 8] (by decide)) (by decide) (by decide))
      (by decide)) (by decide) (by decide)
  obtain ⟨hreplies, hserved, hflush⟩ :=
    staged_bytes_are_served_without_a_call (c := primed) (by decide +kernel) (by decide +kernel)
      hrow (by decide +kernel) (by decide)
  obtain ⟨hstore, hstate⟩ := hserved 4 (by decide)
  have hstep : (primed.run acts).step .flush =
      (.count (.ok 4), ((primed.run acts).step .flush).2) :=
    Prod.ext (by decide +kernel) rfl
  refine ⟨hreplies, hstore, hstate, _, hstep, (hflush _ _ hstep).2.2.trans ?_⟩
  decide +kernel

end Client

end StagedFiles
