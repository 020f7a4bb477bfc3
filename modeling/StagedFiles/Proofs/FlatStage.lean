-- A stage over a file without errors. Each call in range comes out well: a read
-- brings exactly what is seen, a write lays all of its data over what is seen, and
-- a flush brings the file itself to what is seen.
import StagedFiles.Proofs.FlatFile
import StagedFiles.Proofs.StageRequests
import StagedFiles.Proofs.StageView

namespace StagedFiles

/-! ## The image after a read -/

/-- What was read is there to copy, unless it stands at the last offset. -/
theorem Adapter.Shown.copyOut {a : Adapter} {pos : Nat} {bytes : Bytes} (h : a.Shown pos bytes)
    (hne : bytes ≠ []) (hlast : pos < Offset.last) (want : Nat) :
    a.buffer.copyOut pos want = bytes.take want := by
  have hpos : 0 < bytes.length := List.length_pos_iff.mpr hne
  have hstop : pos < a.buffer.stop := by
    unfold StagingBuffer.stop Offset.clampedEnd
    rw [h.start, h.len]
    omega
  rw [StagingBuffer.copyOut_eq, if_pos ⟨h.valid, Nat.le_of_eq h.start, hstop⟩, h.start, h.image,
    Nat.sub_self]
  rfl

namespace Stage

variable {σ : Type} [ObjectStore σ] {fd : Fd} {s s' : Stage} {st st' : σ} {object : Bytes}

/-! ## A stage on its file -/

/-- A sound stage on a file without errors that may reach as far as what is staged. -/
structure On (F : Sink σ fd) (s : Stage) (st : σ) (object : Bytes) : Prop where
  fd_eq : s.fd = fd
  holds : F.Holds st object
  sound : s.Sound object
  reaches : s.dirty = true → F.Reaches (s.buffer.start + s.buffer.len)

variable {F : Sink σ fd}

/-- A stage with nothing staged has nothing that has to fit. -/
theorem on_of_clean (hfd : s.fd = fd) (hd : s.dirty = false) (hholds : F.Holds st object)
    (h : s.buffer.valid = true → Bytes.HasAt object s.buffer.start s.buffer.image) :
    On F s st object := by
  refine ⟨hfd, hholds, sound_of_clean hd h, ?_⟩
  intro hdirty
  rw [hd] at hdirty
  cases hdirty

/-- Settings that break no rule make a stage. -/
theorem build_of_check {settings : Settings} (h : settings.check = .ok ()) (fd : Fd) :
    ∃ s, build settings fd = .ok s := by
  have hpos : 0 < settings.bufferSize := by
    unfold Settings.check at h
    split at h
    · cases h
    · omega
  exact ⟨_, build_eq_ok_iff.mpr ⟨hpos, rfl⟩⟩

/-- A stage that was just built is on its file. -/
theorem on_of_build {settings : Settings} (hbuild : build settings fd = .ok s)
    (hholds : F.Holds st object) : On F s st object ∧ s.view object = object ∧ s.outstanding = 0 := by
  obtain ⟨hpos, rfl⟩ := build_eq_ok_iff.mp hbuild
  refine ⟨on_of_clean rfl rfl hholds ?_, rfl, rfl⟩
  intro hvalid
  cases hvalid

/-! ## Flush -/

/-- A flush comes out well and makes the file what is seen. -/
theorem On.flushNow (h : On F s st object) :
    ∃ n s' st', s.flushNow st = (.ok n, s', st') ∧ On F s' st' (s.view object) ∧
      s'.dirty = false := by
  rcases hd : s.dirty with _ | _
  · rw [view_of_clean hd]
    exact ⟨0, s, st, flushNow_clean st hd, h, hd⟩
  · obtain ⟨_, hpos, _⟩ := h.sound.staged hd
    obtain ⟨st', hw, hholds⟩ :=
      Adapter.write_flat F h.fd_eq s.buffer.len_le hpos h.holds (h.reaches hd)
    rw [view_of_dirty hd]
    refine ⟨_, _, st', flushNow_whole hd hw, on_of_clean h.fd_eq rfl hholds ?_, rfl⟩
    intro _
    exact Bytes.hasAt_overlay ..

/-! ## Write -/

/-- Data that are staged are seen over the file as it was, all of them. -/
theorem On.stageFrom {pos : Nat} {data : Bytes} (h : On F s st object)
    (hlast : pos + data.length ≤ Offset.last) (hreach : F.Reaches (pos + data.length))
    (done : Nat) :
    ∃ s' st' object', s.stageFrom st pos data done = (.ok (done + data.length), s', st') ∧
      On F s' st' object' ∧ s'.view object' = Bytes.written (s.view object) pos data := by
  fun_induction Stage.stageFrom s st pos data done generalizing object with
  | case1 s st pos done => exact ⟨s, st, object, rfl, h, (Bytes.written_nil ..).symm⟩
  | case2 s st pos data done hd hj =>
    obtain ⟨hdirty, rfl, hroom⟩ := hj
    have hfits := (s.buffer.hasRoom_iff data).mp hroom
    have hsound : (s.withBuffer (s.buffer.append data hfits)).Sound object :=
      joined_sound hdirty hd hfits hlast
    refine ⟨_, st, object, rfl, ⟨h.fd_eq, h.holds, hsound, ?_⟩, ?_⟩
    · intro _
      have hpos : 0 < data.length := List.length_pos_iff.mpr hd
      have hstop : s.buffer.stop = s.buffer.start + s.buffer.len := by
        unfold StagingBuffer.stop Offset.clampedEnd at hlast ⊢
        omega
      rw [hstop, Nat.add_assoc] at hreach
      exact hreach
    · rw [Bytes.written_of_ne_nil _ _ hd]
      exact joined_view hdirty hd hfits hlast
  | case3 s st pos data done hd hj f s1 st1 hf =>
    obtain ⟨n, s2, st2, hf2, _⟩ := h.flushNow
    rw [hf2] at hf
    cases hf
  | case4 s st pos data done hd hj n s1 st1 hf b piece fits taken started =>
    rename_i ih
    obtain ⟨m, s2, st2, hf2, hon, hclean⟩ := h.flushNow
    rw [hf2] at hf
    cases hf
    have hsplit : piece ++ data.drop piece.length = data :=
      List.prefix_iff_eq_append.mp (List.take_prefix ..)
    have hlen : piece.length + (data.drop piece.length).length = data.length := by
      rw [← List.length_append, hsplit]
    have hstarted : On F started st1 (s.view object) :=
      ⟨hon.fd_eq, hon.holds, restarted_sound fits taken (by omega),
        fun _ => F.reaches_of_le (Nat.add_le_add_left (hlen ▸ Nat.le_add_right ..) pos) hreach⟩
    have hview : started.view (s.view object) = Bytes.overlay (s.view object) pos piece := by
      have hover : started.view (s.view object) =
          Bytes.overlay (s1.view (s.view object)) pos piece := restarted_view fits hclean
      rwa [view_of_clean hclean] at hover
    obtain ⟨s', st', object', hrest, hon', hview'⟩ :=
      ih hstarted (by omega) (F.reaches_of_le (by omega) hreach)
    refine ⟨s', st', object', ?_, hon', ?_⟩
    · rw [hrest, Nat.add_assoc, hlen]
    · rw [hview', hview, Bytes.written_overlay, hsplit, Bytes.written_of_ne_nil _ _ hd]

/-! ## Read -/

/-- A read into the buffer of a stage with nothing staged shows what the file
holds from there on. -/
theorem On.missed {F : FlatFile σ fd} (h : On F.toSink s st object) (hd : s.dirty = false)
    (pos : Nat) :
    ∃ a st', s.countMiss.adapter.read pos s.countMiss.capacity st =
        (.ok (Bytes.slice object pos s.capacity).length, a, st') ∧
      a.Shown pos (Bytes.slice object pos s.capacity) ∧
      On F.toSink { s.countMiss with adapter := a } st' object := by
  obtain ⟨a, st', hr, hshown, hholds⟩ := Adapter.read_flat F pos h.fd_eq (Nat.le_refl _) h.holds
  refine ⟨a, st', hr, hshown, on_of_clean ((Adapter.read_same hr).fd.trans h.fd_eq) hd hholds ?_⟩
  intro _
  show Bytes.HasAt object a.buffer.start a.buffer.image
  rw [hshown.start, hshown.image]
  exact Bytes.hasAt_slice ..

/-- Flush, then a read into the buffer. -/
theorem On.refilled {F : FlatFile σ fd} {s1 : Stage} {st1 : σ} {pos n : Nat}
    {r : Except Failure Nat} {a : Adapter} (h : On F.toSink s st object)
    (hf : s.flushNow st = (.ok n, s1, st1))
    (hr : s1.countMiss.adapter.read pos s1.countMiss.capacity st1 = (r, a, st')) :
    r = .ok (Bytes.slice (s.view object) pos s1.capacity).length ∧
      a.Shown pos (Bytes.slice (s.view object) pos s1.capacity) ∧
      On F.toSink { s1.countMiss with adapter := a } st' (s.view object) ∧ s1.dirty = false ∧
      a.buffer.capacity = s1.capacity := by
  obtain ⟨m, s2, st2, hf2, hon, hclean⟩ := h.flushNow
  rw [hf2] at hf
  cases hf
  obtain ⟨a', st3, hread, hshown, hon'⟩ := hon.missed hclean pos
  have hsame := Adapter.read_same hread
  rw [hread] at hr
  cases hr
  exact ⟨rfl, hshown, hon', hclean, hsame.capacity⟩

/-- A slice that is shorter than asked for is all that is left. -/
theorem slice_of_short {i n : Nat} (h : (Bytes.slice object i n).length < n) :
    Bytes.slice object i n = object.drop i := by
  rw [Bytes.length_slice] at h
  unfold Bytes.slice
  apply List.take_of_length_le
  rw [List.length_drop]
  omega

/-- What a piece adds to the pieces read before it. -/
theorem flatten_piece (piece : Bytes) (pieces : List Bytes) :
    (piece :: pieces).reverse.flatten = pieces.reverse.flatten ++ piece := by
  simp

/-- A read brings exactly what is seen, behind the pieces read before it. -/
theorem On.readFrom {F : FlatFile σ fd} {pos want : Nat} (h : On F.toSink s st object)
    (hlast : pos + want ≤ Offset.last) (pieces : List Bytes) :
    ∃ got s' st' object', s.readFrom st pos want pieces = (.ok got, s', st') ∧
      On F.toSink s' st' object' ∧ s'.view object' = s.view object ∧
      got.reverse.flatten = pieces.reverse.flatten ++ Bytes.slice (s.view object) pos want := by
  fun_induction Stage.readFrom s st pos want pieces generalizing object with
  | case1 s st pos pieces =>
    refine ⟨pieces, s, st, object, rfl, h, rfl, ?_⟩
    unfold Bytes.slice
    rw [List.take_zero, List.append_nil]
  | case2 s st pos want pieces hw hit hh =>
    rename_i ih
    have hlen : hit.length ≤ want := StagingBuffer.length_copyOut_le ..
    have hat : Bytes.HasAt (s.view object) pos hit := h.sound.hasAt_copyOut pos want
    have hcount : On F.toSink s.countHit st object :=
      ⟨h.fd_eq, h.holds, h.sound.congr rfl (.refl _), h.reaches⟩
    obtain ⟨got, s', st', object', hr, hon, hview, hgot⟩ := ih hcount (by omega)
    refine ⟨got, s', st', object', hr, hon, hview, ?_⟩
    rw [hgot, flatten_piece, hat.slice_eq_append hlen, List.append_assoc]
    rfl
  | case3 s st pos want pieces hw hit hh f s1 st1 =>
    rename_i hf
    obtain ⟨n, s2, st2, hf2, _⟩ := h.flushNow
    rw [hf2] at hf
    cases hf
  | case4 s st pos want pieces hw hit hh n s1 st1 hf missed f a st2 =>
    rename_i hr
    obtain ⟨hok, _⟩ := h.refilled hf hr
    cases hok
  | case5 s st pos want pieces hw hit hh n s1 st1 hf missed a st2 filled =>
    rename_i hr
    obtain ⟨hok, _, hon, hclean, _⟩ := h.refilled hf hr
    have hzero : (Bytes.slice (s.view object) pos s1.capacity).length = 0 :=
      (Except.ok.inj hok).symm
    have hcap := s1.buffer.capacity_pos
    have hend : Bytes.slice (s.view object) pos want = [] := by
      apply List.length_eq_zero_iff.mp
      rw [Bytes.length_slice] at hzero ⊢
      unfold Stage.capacity at hzero
      unfold Stage.buffer at hcap
      omega
    refine ⟨pieces, filled, st2, s.view object, rfl, hon, view_of_clean hclean, ?_⟩
    rw [hend, List.append_nil]
  | case6 s st pos want pieces hw hit hh n s1 st1 hf missed count a st2 hr filled hn got =>
    rename_i hg
    obtain ⟨hok, hshown, hon, hclean, hcap⟩ := h.refilled hf hr
    have hcount : count = (Bytes.slice (s.view object) pos s1.capacity).length := Except.ok.inj hok
    have hgot : got = (Bytes.slice (s.view object) pos s1.capacity).take want :=
      hshown.copyOut (List.length_pos_iff.mp (by omega)) (by omega) want
    have hshort : count < s1.capacity := by
      rcases hg with hshort | hnone
      · exact hcap ▸ hshort
      · -- something was read and something is wanted, so there is a piece
        rw [hgot, List.length_take] at hnone
        omega
    have hall : got = Bytes.slice (s.view object) pos want := by
      rw [hgot, slice_of_short (hcount ▸ hshort)]
      rfl
    refine ⟨got :: pieces, filled, st2, s.view object, rfl, hon, view_of_clean hclean, ?_⟩
    rw [flatten_piece, hall]
  | case7 s st pos want pieces hw hit hh n s1 st1 hf missed count a st2 hr filled hn got hg =>
    rename_i ih
    obtain ⟨hok, hshown, hon, hclean, _⟩ := h.refilled hf hr
    have hcount : count = (Bytes.slice (s.view object) pos s1.capacity).length := Except.ok.inj hok
    have hgot : got = (Bytes.slice (s.view object) pos s1.capacity).take want :=
      hshown.copyOut (List.length_pos_iff.mp (by omega)) (by omega) want
    have hlen : got.length ≤ want := StagingBuffer.length_copyOut_le ..
    have hat : Bytes.HasAt (s.view object) pos got := by
      rw [hgot]
      exact (Bytes.hasAt_slice ..).take want
    obtain ⟨all, s', st', object', hrest, hon', hview, hall⟩ := ih hon (by omega)
    have hview' : s'.view object' = s.view object := hview.trans (view_of_clean hclean)
    refine ⟨all, s', st', object', hrest, hon', hview', ?_⟩
    have hseen : filled.view (s.view object) = s.view object := view_of_clean hclean
    rw [hall, flatten_piece, hseen, hat.slice_eq_append hlen, List.append_assoc]

/-- The bytes of a read are those that are seen, as many as there are. -/
theorem On.readBytes {F : FlatFile σ fd} {offset want : Nat} (h : On F.toSink s st object)
    (hlast : offset + want ≤ Offset.last) :
    ∃ s' st' object', s.readBytes st offset want =
        (.ok (Bytes.slice (s.view object) offset want), s', st') ∧
      On F.toSink s' st' object' ∧ s'.view object' = s.view object := by
  obtain ⟨got, s', st', object', hr, hon, hview, hgot⟩ := h.readFrom hlast []
  refine ⟨s', st', object', ?_, hon, hview⟩
  unfold Stage.readBytes
  rw [hr]
  dsimp only
  rw [hgot]
  rfl

/-! ## Writes that are handed in -/

/-- The ways in which a write starts that cannot fail: it is over with all of its
data over what was seen, or it is out and comes to that when it is waited for. -/
inductive LaysAll (F : Sink σ fd) (s : Stage) (object : Bytes) (offset : Nat) (data : Bytes) :
    Except Failure (Started Completion) × Stage × σ → Prop where
  | finished {s' : Stage} {st' : σ} {object' : Bytes} :
      On F s' st' object' → s'.outstanding = 0 →
      s'.view object' = Bytes.overlay (s.view object) offset data →
      LaysAll F s object offset data (.ok (.finished (.count (.ok data.length))), s', st')
  | out {ticket : Ticket} {s1 s' : Stage} {st1 st' : σ} {object' : Bytes} {done : Completion} :
      ObjectStore.await ticket st1 = (some done, st') →
      s1.complete done = (.count (.ok data.length), s') →
      On F s' st' object' → s'.outstanding = 0 →
      s'.view object' = Bytes.overlay (s.view object) offset data →
      LaysAll F s object offset data (.ok (.submitted ticket), s1, st1)

/-- The end of a write all of whose data went. -/
theorem answerWrite_flat {offset : Nat} {data : Bytes} {h : data.length ≤ s.buffer.capacity}
    (hfd : s.fd = fd) (hd : s.dirty = false) (hholds : F.Holds st (Bytes.overlay object offset data)) :
    ∃ s', ((s.loaded offset data h).released
          ((s.loaded offset data h).adapter.wrote data.length)).answerWrite data.length
            (.ok data.length) = (.count (.ok data.length), s') ∧
      On F s' st (Bytes.overlay object offset data) ∧ s'.outstanding = 0 ∧
      s'.view (Bytes.overlay object offset data) = Bytes.overlay object offset data := by
  unfold answerWrite
  dsimp only
  rw [if_pos rfl]
  refine ⟨_, rfl, on_of_clean hfd hd hholds ?_, rfl, view_of_clean hd⟩
  intro _
  have himage : (s.loaded offset data h).buffer.image = data :=
    StagingBuffer.peek_poke _ 0 data (by rw [Nat.zero_add]; exact h)
  show Bytes.HasAt _ offset (s.loaded offset data h).buffer.image
  rw [himage]
  exact Bytes.hasAt_overlay ..

/-- The data that a stage was loaded with are all written. -/
theorem loaded_submitWrite_flat {offset : Nat} {data : Bytes}
    (hcap : data.length ≤ s.buffer.capacity) (h : On F s st object) (hdata : data ≠ [])
    (hreach : F.Reaches (offset + data.length)) :
    Adapter.Laying F (s.loaded offset data hcap).adapter object offset data.length
        ((s.loaded offset data hcap).adapter.submitWrite offset data.length st) ∧
      (s.loaded offset data hcap).adapter.buffer.peek 0 data.length = data :=
  ⟨Adapter.submitWrite_flat F h.fd_eq hcap (List.length_pos_iff.mpr hdata) h.holds hreach,
    StagingBuffer.peek_poke _ 0 data (by rw [Nat.zero_add]; exact hcap)⟩

/-- A write that is handed in lays all of its data over what is seen. -/
theorem On.writeAio {offset : Nat} {data : Bytes} (h : On F s st object)
    (hidle : s.outstanding = 0) (hdata : data ≠ []) (hlast : offset + data.length ≤ Offset.last)
    (hreach : F.Reaches (offset + data.length)) :
    LaysAll F s object offset data (s.writeAio offset data st) := by
  obtain ⟨n, s1, st1, hf1, hon1, hclean1⟩ := h.flushNow
  obtain ⟨s2, st2, object2, hw2, hon2, hview2⟩ := h.stageFrom hlast hreach 0
  obtain ⟨m, s3, st3, hf3, hon3, hclean3⟩ := hon2.flushNow
  rcases hstart : s.writeAio offset data st with ⟨r, s', st'⟩
  cases writeAio_cases hstart with
  | beyond hbeyond => omega
  | busy _ hbusy => exact absurd hidle hbusy
  | unstaged _ _ _ hw =>
    unfold stageBytes at hw
    rw [hw2] at hw
    cases hw
  | unwritten _ _ _ hw hf =>
    unfold stageBytes at hw
    rw [hw2] at hw
    cases hw
    rw [hf3] at hf
    cases hf
  | large _ _ _ hw hf =>
    unfold stageBytes at hw
    rw [hw2] at hw
    cases hw
    rw [hf3] at hf
    cases hf
    rw [Nat.zero_add]
    have hon : On F (s3.countAioWrite data.length) _ (s2.view object2) :=
      ⟨hon3.fd_eq, hon3.holds, hon3.sound.congr rfl (.refl _), hon3.reaches⟩
    have hidle3 : s3.outstanding = 0 :=
      (flushNow_same hf3).outstanding.trans ((stageFrom_same hw2).outstanding.trans hidle)
    refine .finished hon hidle3 ?_
    rw [← Bytes.written_of_ne_nil _ _ hdata, ← hview2]
    exact view_of_clean hclean3
  | unflushed _ hf =>
    rw [hf1] at hf
    cases hf
  | @refused _ f _ a _ _ hcap _ hf hs =>
    rw [hf1] at hf
    cases hf
    obtain ⟨hlaying, _⟩ := loaded_submitWrite_flat hcap hon1 hdata hreach
    rw [hs] at hlaying
    cases hlaying
  | @submitted _ ticket _ a _ _ hcap _ hf hs =>
    rw [hf1] at hf
    cases hf
    obtain ⟨hlaying, hpeek⟩ := loaded_submitWrite_flat hcap hon1 hdata hreach
    rw [hs] at hlaying
    cases hlaying with
    | @out _ _ st4 hwait hholds =>
      rw [hpeek] at hholds
      obtain ⟨s', hanswer, hon, hidle', hview⟩ :=
        answerWrite_flat (h := hcap) hon1.fd_eq hclean1 hholds
      refine .out hwait ?_ hon hidle' hview
      rw [← hanswer]
      exact complete_write rfl rfl
  | @inline _ q _ a _ _ hcap _ hf hs =>
    rw [hf1] at hf
    cases hf
    obtain ⟨hlaying, hpeek⟩ := loaded_submitWrite_flat hcap hon1 hdata hreach
    rw [hs] at hlaying
    cases hlaying with
    | finished hholds =>
      rw [hpeek] at hholds
      obtain ⟨s', hanswer, hon, hidle', hview⟩ :=
        answerWrite_flat (h := hcap) hon1.fd_eq hclean1 hholds
      rw [hanswer]
      exact .finished hon hidle' hview

end Stage

end StagedFiles
