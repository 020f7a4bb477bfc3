-- The file as a stage shows it: the object, and over it the bytes that are
-- staged. Reads and flushes leave the file as it is seen, and a write lays its
-- data over it, whatever fails on the way. Staged bytes stay well placed. A stage
-- is sound when its image is the object's as well; every step keeps it sound, but
-- for a read that fails over a store that moved some bytes before.
import StagedFiles.Proofs.KeptTransfers

namespace StagedFiles.Stage

/-! ## The view -/

/-- The file as it is seen: the object, and over it the bytes that are staged. -/
def view (s : Stage) (object : Bytes) : Bytes :=
  if s.dirty then Bytes.overlay object s.buffer.start s.buffer.image else object

/-- Staged bytes are a valid image that ends at an offset. -/
structure Placed (s : Stage) : Prop where
  staged : s.dirty = true →
    s.buffer.valid = true ∧ 0 < s.buffer.len ∧ s.buffer.start + s.buffer.len ≤ Offset.last

/-- Staged bytes are well placed. An image that is valid and not staged is the object's. -/
structure Sound (s : Stage) (object : Bytes) : Prop extends Placed s where
  clean : s.dirty = false → s.buffer.valid = true →
    Bytes.HasAt object s.buffer.start s.buffer.image

variable {s s' : Stage} {object : Bytes}

theorem view_of_clean (h : s.dirty = false) : s.view object = object := by
  unfold view
  rw [h]
  rfl

theorem view_of_dirty (h : s.dirty = true) :
    s.view object = Bytes.overlay object s.buffer.start s.buffer.image := by
  unfold view
  rw [h]
  rfl

/-- A valid image is the file's, staged or not. -/
theorem Sound.held (h : s.Sound object) (hv : s.buffer.valid = true) :
    Bytes.HasAt (s.view object) s.buffer.start s.buffer.image := by
  rcases hd : s.dirty with _ | _
  · rw [view_of_clean hd]
    exact h.clean hd hv
  · rw [view_of_dirty hd]
    exact Bytes.hasAt_overlay ..

theorem Sound.hasAt_copyOut (h : s.Sound object) (offset n : Nat) :
    Bytes.HasAt (s.view object) offset (s.buffer.copyOut offset n) :=
  StagingBuffer.hasAt_copyOut h.held offset n

theorem view_congr (hd : s'.dirty = s.dirty) (hb : s.buffer.SameImage s'.buffer) :
    s'.view object = s.view object := by
  unfold view
  rw [hd, hb.start, hb.image]

theorem Placed.congr (h : s.Placed) (hd : s'.dirty = s.dirty)
    (hb : s.buffer.Described s'.buffer) : s'.Placed := by
  refine ⟨?_⟩
  rw [hd, hb.valid, hb.len, hb.start]
  exact h.staged

theorem Sound.congr (h : s.Sound object) (hd : s'.dirty = s.dirty)
    (hb : s.buffer.SameImage s'.buffer) : s'.Sound object := by
  refine ⟨h.toPlaced.congr hd hb.described, ?_⟩
  rw [hd, hb.valid, hb.start, hb.image]
  exact h.clean

theorem placed_of_clean (hd : s.dirty = false) : s.Placed := by
  refine ⟨?_⟩
  intro hdirty
  rw [hd] at hdirty
  cases hdirty

theorem sound_of_clean (hd : s.dirty = false)
    (h : s.buffer.valid = true → Bytes.HasAt object s.buffer.start s.buffer.image) :
    s.Sound object := ⟨placed_of_clean hd, fun _ => h⟩

theorem sound_of_dirty (hd : s.dirty = true) (hv : s.buffer.valid = true) (hpos : 0 < s.buffer.len)
    (hlast : s.buffer.start + s.buffer.len ≤ Offset.last) : s.Sound object := by
  refine ⟨⟨fun _ => ⟨hv, hpos, hlast⟩⟩, ?_⟩
  intro hclean
  rw [hd] at hclean
  cases hclean

/-- While bytes are staged the object below them is of no account. -/
theorem Placed.sound (h : s.Placed) (hd : s.dirty = true) (object' : Bytes) :
    s.Sound object' := by
  obtain ⟨hv, hpos, hlast⟩ := h.staged hd
  exact sound_of_dirty hd hv hpos hlast

/-- A stage that shows the object is sound. -/
theorem sound_of_shows {offset n : Nat} (hd : s.dirty = false)
    (h : s.buffer.Shows object offset n) : s.Sound object := by
  apply sound_of_clean hd
  intro _
  rw [h.start]
  exact h.held

/-- A stage without a valid image is sound when nothing is staged. -/
theorem sound_of_invalid (hd : s.dirty = false) (hv : s.buffer.valid = false) :
    s.Sound object := by
  apply sound_of_clean hd
  intro hvalid
  rw [hv] at hvalid
  cases hvalid

/-! ## Quiet steps -/

variable {σ : Type} [ObjectStore σ] {fd : Fd}

/-- After the step the store keeps an object through which the file is seen as before.
Where the image is unhurt, a sound stage is sound again. -/
structure Quiet (K : Keeper σ fd) (unhurt : Prop) (s : Stage) (object : Bytes) (s' : Stage)
    (st : σ) (object' : Bytes) : Prop where
  keeps : K.Keeps st object' none
  view : s'.view object' = s.view object
  placed : s.Placed → s'.Placed
  sound : unhurt → s.Sound object → s'.Sound object'

variable {K : Keeper σ fd} {st st' : σ} {unhurt : Prop}

theorem Quiet.refl (hk : K.Keeps st object none) : Quiet K unhurt s object s st object :=
  ⟨hk, rfl, id, fun _ => id⟩

theorem Quiet.trans {s1 s2 : Stage} {st1 st2 : σ} {object1 object2 : Bytes}
    (h : Quiet K True s object s1 st1 object1) (h' : Quiet K unhurt s1 object1 s2 st2 object2) :
    Quiet K unhurt s object s2 st2 object2 :=
  ⟨h'.keeps, h'.view.trans h.view, fun hp => h'.placed (h.placed hp),
    fun hu hs => h'.sound hu (h.sound trivial hs)⟩

/-- A step to a stage with the same image and nothing else staged is quiet. -/
theorem Quiet.congr {s1 s2 : Stage} {object1 : Bytes} (h : Quiet K unhurt s object s1 st object1)
    (hd : s2.dirty = s1.dirty) (hb : s1.buffer.SameImage s2.buffer) :
    Quiet K unhurt s object s2 st object1 :=
  ⟨h.keeps, (view_congr hd hb).trans h.view, fun hp => (h.placed hp).congr hd hb.described,
    fun hu hs => (h.sound hu hs).congr hd hb⟩

/-- Where less is known to be unhurt, a quiet step is quiet as well. -/
theorem Quiet.mono {s1 : Stage} {object1 : Bytes} {unhurt' : Prop}
    (h : Quiet K unhurt s object s1 st object1) (hu : unhurt' → unhurt) :
    Quiet K unhurt' s object s1 st object1 :=
  ⟨h.keeps, h.view, h.placed, fun hu' => h.sound (hu hu')⟩

/-! ## Flush -/

/-- The write of the staged bytes lays a front of the image over the object, or fails. -/
theorem write_image_kept {r : Except Failure Nat} {a : Adapter} (hfd : s.fd = fd)
    (hk : K.Keeps st object none)
    (h : s.adapter.write s.buffer.start s.buffer.len st = (r, a, st')) :
    s.buffer.SameImage a.buffer ∧ K.Put object s.buffer.start s.buffer.image st' r := by
  have hlen : s.buffer.len ≤ s.adapter.buffer.capacity := s.buffer.len_le
  obtain ⟨hbuf, hput⟩ := Adapter.write_kept hfd hlen hk h
  exact ⟨.of_eq hbuf, hput⟩

/-- While bytes are staged, a front of them that lies over the object is not seen. -/
theorem view_front {object' : Bytes} {a : Adapter} (hd : s.dirty = true)
    (hsame : s.buffer.SameImage a.buffer)
    (hfront : Bytes.FrontLaid object s.buffer.start s.buffer.image object') :
    { s with adapter := a }.view object' = s.view object := by
  have hview : { s with adapter := a }.view object' = s.view object' := view_congr rfl hsame
  rw [hview, view_of_dirty hd, view_of_dirty hd]
  exact hfront.overlay_eq

/-- A flush leaves the file as it is seen, also when it is short or fails. -/
theorem flushNow_kept {r : Except Failure Nat} (hfd : s.fd = fd) (hk : K.Keeps st object none)
    (h : s.flushNow st = (r, s', st')) :
    ∃ object', Quiet K True s object s' st' object' ∧ ∀ n, r = .ok n → s'.dirty = false := by
  -- what stays staged stays where it is
  have hstay : ∀ {a : Adapter} {object' : Bytes}, s.dirty = true →
      s.buffer.SameImage a.buffer → K.Keeps st' object' none →
      Bytes.FrontLaid object s.buffer.start s.buffer.image object' →
      Quiet K True s object { s with adapter := a } st' object' := by
    intro a object' hd hsame hk' hfront
    exact ⟨hk', view_front hd hsame hfront, fun hp => hp.congr rfl hsame.described,
      fun _ hs => (hs.toPlaced.sound hd _).congr rfl hsame⟩
  cases flushNow_cases h with
  | clean hd => exact ⟨object, .refl hk, fun _ _ => hd⟩
  | failed hd hw =>
    obtain ⟨hsame, hput⟩ := write_image_kept hfd hk hw
    cases hput with
    | error hfront hk' =>
      refine ⟨_, hstay hd hsame hk' hfront, ?_⟩
      intro n hn
      cases hn
  | @short n a _ hd hw _ =>
    obtain ⟨hsame, hput⟩ := write_image_kept hfd hk hw
    cases hput with
    | ok _ hk' =>
      have hfront : Bytes.FrontLaid object s.buffer.start s.buffer.image _ := .inr ⟨n, rfl⟩
      refine ⟨_, hstay hd hsame hk' hfront, ?_⟩
      intro m hm
      cases hm
  | @whole n a _ hd hw hall =>
    obtain ⟨hsame, hput⟩ := write_image_kept hfd hk hw
    cases hput with
    | ok _ hk' =>
      -- all of it went, so the object is what was seen
      rw [List.take_of_length_le (by rw [hall, StagingBuffer.length_image]),
        ← view_of_dirty hd] at hk'
      refine ⟨s.view object, ⟨hk', rfl, fun _ => placed_of_clean rfl, ?_⟩, fun _ _ => rfl⟩
      intro _ hs
      refine sound_of_clean rfl ?_
      intro hvalid
      have hheld := hs.held (hsame.valid ▸ hvalid)
      show Bytes.HasAt _ a.buffer.start a.buffer.image
      rw [hsame.start, hsame.image]
      exact hheld

/-- After a flush that came out well nothing is staged, and the file is as it was. -/
theorem flushed_kept {n : Nat} (hfd : s.fd = fd) (hk : K.Keeps st object none)
    (hf : s.flushNow st = (.ok n, s', st')) :
    ∃ object', Quiet K True s object s' st' object' ∧ s'.dirty = false ∧ s'.fd = fd ∧
      object' = s.view object := by
  obtain ⟨object', hq, hclean⟩ := flushNow_kept hfd hk hf
  have hd := hclean n rfl
  have hview : s'.view object' = object' := view_of_clean hd
  exact ⟨object', hq, hd, (flushNow_same hf).fd.trans hfd, hview.symm.trans hq.view⟩

/-! ## Read -/

/-- A read into the buffer of a stage with nothing staged leaves the file as
it is seen. When it comes out well, the stage shows the object, whatever it showed. -/
theorem missed_kept {pos : Nat} {r : Except Failure Nat} {a : Adapter} (hfd : s.fd = fd)
    (hd : s.dirty = false) (hk : K.Keeps st object none)
    (h : s.countMiss.adapter.read pos s.countMiss.capacity st = (r, a, st')) :
    Quiet K (s.adapter.Unhurt K r) s object { s.countMiss with adapter := a } st' object ∧
      ∀ n, r = .ok n → { s.countMiss with adapter := a }.Sound object := by
  obtain ⟨hk', hfill⟩ := Adapter.read_kept hfd (Nat.le_refl _) hk h
  have hclean : { s.countMiss with adapter := a }.dirty = false := hd
  have hview : { s.countMiss with adapter := a }.view object = s.view object := by
    rw [view_of_clean hclean, view_of_clean hd]
  cases hfill with
  | ok _ hshows =>
    have hsound : { s.countMiss with adapter := a }.Sound object := sound_of_shows hclean hshows
    exact ⟨⟨hk', hview, fun _ => placed_of_clean hclean, fun _ _ => hsound⟩, fun _ _ => hsound⟩
  | error _ hsame =>
    refine ⟨⟨hk', hview, fun _ => placed_of_clean hclean, ?_⟩, ?_⟩
    · rintro (huntorn | ⟨n, hn⟩) hs
      · exact hs.congr rfl (hsame huntorn)
      · cases hn
    · intro n hn
      cases hn

/-- Flush, then a read into the buffer. -/
theorem refilled_kept {s1 : Stage} {st1 : σ} {pos n : Nat} {r : Except Failure Nat} {a : Adapter}
    (hfd : s.fd = fd) (hk : K.Keeps st object none) (hf : s.flushNow st = (.ok n, s1, st1))
    (hr : s1.countMiss.adapter.read pos s1.countMiss.capacity st1 = (r, a, st')) :
    ∃ object', Quiet K (s.adapter.Unhurt K r) s object { s1.countMiss with adapter := a } st'
        object' ∧
      ∀ n, r = .ok n → { s1.countMiss with adapter := a }.Sound object' := by
  obtain ⟨object1, hq, hclean, hfd1, _⟩ := flushed_kept hfd hk hf
  obtain ⟨hq', hsound⟩ := missed_kept hfd1 hclean hq.keeps hr
  exact ⟨object1, hq.trans (hq'.mono (flushNow_same hf).adapter.unhurt), hsound⟩

/-- The pieces that were read, and behind them as much of the file from `pos`
on as was brought, at most `want` bytes. -/
def Brought (file : Bytes) (pos want : Nat) (pieces got : List Bytes) : Prop :=
  ∃ more : Bytes, got.reverse.flatten = pieces.reverse.flatten ++ more ∧
    more.length ≤ want ∧ Bytes.HasAt file pos more

theorem brought_nothing (file : Bytes) (pos want : Nat) (pieces : List Bytes) :
    Brought file pos want pieces pieces :=
  ⟨[], (List.append_nil _).symm, Nat.zero_le _, Bytes.hasAt_nil ..⟩

/-- A piece, and behind it what was brought from its end on. -/
theorem Brought.cons {file : Bytes} {pos want : Nat} {pieces got : List Bytes} {piece : Bytes}
    (hlen : piece.length ≤ want) (hat : Bytes.HasAt file pos piece)
    (h : Brought file (pos + piece.length) (want - piece.length) (piece :: pieces) got) :
    Brought file pos want pieces got := by
  obtain ⟨more, hgot, hmore, hrest⟩ := h
  refine ⟨piece ++ more, ?_, ?_, hat.append hrest⟩
  · rw [hgot]
    simp
  · rw [List.length_append]
    omega

theorem brought_piece {file : Bytes} {pos want : Nat} {pieces : List Bytes} {piece : Bytes}
    (hlen : piece.length ≤ want) (hat : Bytes.HasAt file pos piece) :
    Brought file pos want pieces (piece :: pieces) :=
  .cons hlen hat (brought_nothing ..)

/-- A read leaves the file as it is seen, and brings what is seen. -/
theorem readFrom_kept {pos want : Nat} {pieces : List Bytes} {r : Except Failure (List Bytes)}
    (hfd : s.fd = fd) (hk : K.Keeps st object none)
    (h : s.readFrom st pos want pieces = (r, s', st')) :
    ∃ object', Quiet K (s.adapter.Unhurt K r) s object s' st' object' ∧
      (s.Sound object → ∀ got, r = .ok got → Brought (s.view object) pos want pieces got) := by
  fun_induction readFrom s st pos want pieces generalizing object with
  | case1 s st pos pieces =>
    cases h
    refine ⟨object, .refl hk, ?_⟩
    intro _ got hgot
    cases hgot
    exact brought_nothing ..
  | case2 s st pos want pieces hw hit hh =>
    rename_i ih
    obtain ⟨object', hq, hbrought⟩ := ih hfd hk h
    have hcount : s.Sound object → s.countHit.Sound object := fun hs => hs.congr rfl (.refl _)
    have hplaced : s.Placed → s'.Placed := fun hp => hq.placed (hp.congr rfl ⟨rfl, rfl, rfl⟩)
    refine ⟨object', ⟨hq.keeps, hq.view, hplaced, fun hu hs => hq.sound hu (hcount hs)⟩, ?_⟩
    intro hs got hgot
    exact .cons (StagingBuffer.length_copyOut_le ..) (hs.hasAt_copyOut pos want)
      (hbrought (hcount hs) got hgot)
  | case3 s st pos want pieces hw hit hh f s1 st1 =>
    rename_i hf
    cases h
    obtain ⟨object', hq, _⟩ := flushNow_kept hfd hk hf
    refine ⟨object', hq.mono fun _ => trivial, ?_⟩
    intro _ got hgot
    cases hgot
  | case4 s st pos want pieces hw hit hh n s1 st1 hf missed f a st2 =>
    rename_i hr
    cases h
    obtain ⟨object', hq, _⟩ := refilled_kept hfd hk hf hr
    refine ⟨object', hq.mono fun hu => .inl (Adapter.unhurt_error.mp hu), ?_⟩
    intro _ got hgot
    cases hgot
  | case5 s st pos want pieces hw hit hh n s1 st1 hf missed a st2 filled =>
    rename_i hr
    simp only [Prod.mk.injEq] at h
    obtain ⟨hgot, rfl, rfl⟩ := h
    obtain ⟨object', hq, _⟩ := refilled_kept hfd hk hf hr
    refine ⟨object', hq.mono fun _ => .inr ⟨_, rfl⟩, ?_⟩
    intro _ got hr
    rw [← hgot] at hr
    cases hr
    exact brought_nothing ..
  | case6 s st pos want pieces hw hit hh n s1 st1 hf missed count a st2 hr filled hn got =>
    simp only [Prod.mk.injEq] at h
    obtain ⟨hgot, rfl, rfl⟩ := h
    obtain ⟨object', hq, hsound⟩ := refilled_kept hfd hk hf hr
    refine ⟨object', hq.mono fun _ => .inr ⟨_, rfl⟩, ?_⟩
    intro _ all hr
    rw [← hgot] at hr
    cases hr
    have hat := (hsound _ rfl).hasAt_copyOut pos want
    rw [hq.view] at hat
    exact brought_piece (StagingBuffer.length_copyOut_le ..) hat
  | case7 s st pos want pieces hw hit hh n s1 st1 hf missed count a st2 hr filled hn got hg =>
    rename_i ih
    obtain ⟨object1, hq, hsound⟩ := refilled_kept hfd hk hf hr
    have hsame : s.Same filled := (flushNow_same hf).trans (missed_same hr)
    obtain ⟨object', hq', hbrought⟩ := ih (hsame.fd.trans hfd) hq.keeps h
    have hfilled := hq.mono fun _ : True => .inr ⟨_, rfl⟩
    refine ⟨object', hfilled.trans (hq'.mono hsame.adapter.unhurt), ?_⟩
    intro _ all hall
    have hat := (hsound _ rfl).hasAt_copyOut pos want
    have hrest := hbrought (hsound _ rfl) all hall
    rw [hq.view] at hat hrest
    exact .cons (StagingBuffer.length_copyOut_le ..) hat hrest

/-- What a read brings is what the file holds from the offset on. -/
theorem readBytes_kept {offset want : Nat} {r : Except Failure Bytes} (hfd : s.fd = fd)
    (hk : K.Keeps st object none) (h : s.readBytes st offset want = (r, s', st')) :
    ∃ object', Quiet K (s.adapter.Unhurt K r) s object s' st' object' ∧
      (s.Sound object → ∀ bytes, r = .ok bytes →
        bytes.length ≤ want ∧ Bytes.HasAt (s.view object) offset bytes) := by
  unfold readBytes at h
  rcases hr : s.readFrom st offset want [] with ⟨f | pieces, s1, st1⟩
  · rw [hr] at h
    cases h
    obtain ⟨object', hq, _⟩ := readFrom_kept hfd hk hr
    refine ⟨object', hq.mono fun hu => .inl (Adapter.unhurt_error.mp hu), ?_⟩
    intro _ bytes hbytes
    cases hbytes
  · rw [hr] at h
    cases h
    obtain ⟨object', hq, hbrought⟩ := readFrom_kept hfd hk hr
    refine ⟨object', hq.mono fun _ => .inr ⟨_, rfl⟩, ?_⟩
    intro hs bytes hbytes
    cases hbytes
    obtain ⟨more, hmore, hlen, hat⟩ := hbrought hs pieces rfl
    rw [hmore]
    exact ⟨hlen, hat⟩

/-! ## Write -/

/-- The step keeps a stage sound, and makes it sound where all went well, whatever it was. -/
structure Mends (s : Stage) (object : Bytes) (s' : Stage) (object' : Bytes) (well : Prop) :
    Prop where
  placed : s.Placed → s'.Placed
  sound : s.Sound object → s'.Sound object'
  renewed : well → s'.Sound object'

theorem Mends.of_sound {object' : Bytes} {well : Prop} (h : s'.Sound object') :
    Mends s object s' object' well := ⟨fun _ => h.toPlaced, fun _ => h, fun _ => h⟩

/-- Data that follows the staged bytes joins them. -/
theorem joined_view {data : Bytes} (hd : s.dirty = true) (hdata : data ≠ [])
    (hroom : s.buffer.len + data.length ≤ s.buffer.capacity)
    (hlast : s.buffer.stop + data.length ≤ Offset.last) :
    (s.withBuffer (s.buffer.append data hroom)).view object =
      Bytes.overlay (s.view object) s.buffer.stop data := by
  have hpos : 0 < data.length := List.length_pos_iff.mpr hdata
  -- the last offset is not reached, so the end of the image is not held back
  have hstop : s.buffer.stop = s.buffer.start + s.buffer.len := by
    unfold StagingBuffer.stop Offset.clampedEnd at hlast ⊢
    omega
  have hdirty : (s.withBuffer (s.buffer.append data hroom)).dirty = true := hd
  rw [view_of_dirty hdirty, view_of_dirty hd, hstop]
  show Bytes.overlay object s.buffer.start (s.buffer.append data hroom).image = _
  rw [StagingBuffer.image_append, Bytes.overlay_append, StagingBuffer.length_image]

theorem joined_sound {data : Bytes} (hd : s.dirty = true) (hdata : data ≠ [])
    (hroom : s.buffer.len + data.length ≤ s.buffer.capacity)
    (hlast : s.buffer.stop + data.length ≤ Offset.last) :
    (s.withBuffer (s.buffer.append data hroom)).Sound object := by
  have hpos : 0 < data.length := List.length_pos_iff.mpr hdata
  refine sound_of_dirty hd rfl ?_ ?_
  · show 0 < s.buffer.len + data.length
    omega
  · show s.buffer.start + (s.buffer.len + data.length) ≤ Offset.last
    unfold StagingBuffer.stop Offset.clampedEnd at hlast
    omega

/-- The stage that starts again at `pos`, with a piece of data as its image. -/
def restarted (s : Stage) (pos : Nat) (piece : Bytes) (h : piece.length ≤ s.buffer.capacity) :
    Stage := { s.withBuffer (s.buffer.restart pos piece h) with dirty := true }

theorem restarted_view {pos : Nat} {piece : Bytes} (h : piece.length ≤ s.buffer.capacity)
    (hd : s.dirty = false) :
    (s.restarted pos piece h).view object = Bytes.overlay (s.view object) pos piece := by
  rw [view_of_clean hd, view_of_dirty (s := s.restarted pos piece h) rfl]
  show Bytes.overlay object pos (s.buffer.restart pos piece h).image = _
  rw [StagingBuffer.image_restart]

theorem restarted_sound {pos : Nat} {piece : Bytes} (h : piece.length ≤ s.buffer.capacity)
    (hpos : 0 < piece.length) (hlast : pos + piece.length ≤ Offset.last) :
    (s.restarted pos piece h).Sound object := sound_of_dirty rfl rfl hpos hlast

/-- Data that is staged lies over the file as it was seen, all of it when the
staging comes out well, and the image is theirs then. When it fails, pieces of it do
that each filled the buffer. -/
theorem stageFrom_pieces {pos done : Nat} {data : Bytes} {r : Except Failure Nat}
    (hfd : s.fd = fd) (hk : K.Keeps st object none) (hlast : pos + data.length ≤ Offset.last)
    (h : s.stageFrom st pos data done = (r, s', st')) :
    ∃ object', K.Keeps st' object' none ∧
      Mends s object s' object' (data ≠ [] ∧ ∃ n, r = .ok n) ∧
      (∀ n, r = .ok n → n = done + data.length ∧
        s'.view object' = Bytes.written (s.view object) pos data) ∧
      (∀ f, r = .error f →
        Bytes.PiecesLaid (s.view object) pos s.capacity data (s'.view object')) := by
  fun_induction stageFrom s st pos data done generalizing object with
  | case1 s st pos done =>
    cases h
    refine ⟨object, hk, ⟨id, id, fun hwell => absurd rfl hwell.1⟩, ?_, ?_⟩
    · intro n hn
      cases hn
      exact ⟨rfl, (Bytes.written_nil ..).symm⟩
    · intro f hf
      cases hf
  | case2 s st pos data done hd hj =>
    simp only [Prod.mk.injEq] at h
    obtain ⟨rfl, rfl, rfl⟩ := h
    obtain ⟨hdirty, rfl, hroom⟩ := hj
    have hfits := (s.buffer.hasRoom_iff data).mp hroom
    have hsound : (s.withBuffer (s.buffer.append data hfits)).Sound object :=
      joined_sound hdirty hd hfits hlast
    refine ⟨object, hk, .of_sound hsound, ?_, ?_⟩
    · intro n hn
      cases hn
      rw [Bytes.written_of_ne_nil _ _ hd]
      exact ⟨rfl, joined_view hdirty hd hfits hlast⟩
    · intro f hf
      cases hf
  | case3 s st pos data done hd hj f s1 st1 hf =>
    cases h
    obtain ⟨object', hq, _⟩ := flushNow_kept hfd hk hf
    refine ⟨object', hq.keeps, ⟨hq.placed, hq.sound trivial, ?_⟩, ?_, ?_⟩
    · rintro ⟨-, n, hn⟩
      cases hn
    · intro n hn
      cases hn
    · intro _ _
      rw [hq.view]
      exact Bytes.piecesLaid_nothing _ _ _ hd
  | case4 s st pos data done hd hj n s1 st1 hf b piece fits taken started =>
    rename_i ih
    obtain ⟨object1, hq, hclean, hfd1, _⟩ := flushed_kept hfd hk hf
    have hstarted : started = s1.restarted pos piece fits := rfl
    have hview : started.view object1 = Bytes.overlay (s.view object) pos piece := by
      rw [hstarted, restarted_view fits hclean, hq.view]
    have hsplit : piece ++ data.drop piece.length = data :=
      List.prefix_iff_eq_append.mp (List.take_prefix ..)
    have hlen : piece.length + (data.drop piece.length).length = data.length := by
      rw [← List.length_append, hsplit]
    have hfd' : started.fd = fd := hfd1
    obtain ⟨object', hk', hmends, hok, herror⟩ := ih hfd' hq.keeps (by omega) h
    rw [hview] at hok herror
    have hsound : s'.Sound object' := hmends.sound (restarted_sound fits taken (by omega))
    refine ⟨object', hk', .of_sound hsound, ?_, ?_⟩
    · intro m hm
      obtain ⟨rfl, hwritten⟩ := hok m hm
      refine ⟨by omega, ?_⟩
      rw [hwritten, Bytes.written_overlay, hsplit, Bytes.written_of_ne_nil _ _ hd]
    · intro f hf'
      have hpieces := herror f hf'
      have hcap : started.capacity = s.capacity := (flushNow_same hf).capacity
      -- something is left behind the piece, so the piece filled the buffer
      have hfull : piece.length = s.capacity := by
        obtain ⟨k, hk, -⟩ := hpieces
        have hpiece : piece.length = min s1.capacity data.length := List.length_take
        have hcap1 : s1.capacity = s.capacity := hcap
        omega
      rw [hcap, ← hfull] at hpieces
      rw [← hfull, ← hsplit]
      exact hpieces.of_overlay (List.length_pos_iff.mp taken)

/-- Whether it comes out well or fails, no more than a front of the data lies
over the file. -/
theorem stageFrom_kept {pos done : Nat} {data : Bytes} {r : Except Failure Nat}
    (hfd : s.fd = fd) (hk : K.Keeps st object none) (hlast : pos + data.length ≤ Offset.last)
    (h : s.stageFrom st pos data done = (r, s', st')) :
    ∃ object', K.Keeps st' object' none ∧
      Mends s object s' object' (data ≠ [] ∧ ∃ n, r = .ok n) ∧
      (∀ n, r = .ok n → n = done + data.length ∧
        s'.view object' = Bytes.written (s.view object) pos data) ∧
      Bytes.FrontLaid (s.view object) pos data (s'.view object') := by
  obtain ⟨object', hk', hmends, hok, herror⟩ := stageFrom_pieces hfd hk hlast h
  refine ⟨object', hk', hmends, hok, ?_⟩
  cases r with
  | error f => exact (herror f rfl).frontLaid
  | ok n =>
    rw [(hok n rfl).2]
    exact Bytes.frontLaid_written ..

end StagedFiles.Stage
