-- Truncation seen through a stage. It goes past the stage to the store, and the stage
-- keeps what it has. As long as it leaves the image whole, the file is one flat file to
-- its caller, cut or extended where it was asked to be; when it cuts into the image, the
-- bytes that were cut off are there to be read again.
import StagedFiles.Proofs.StagedFlushes
import StagedFiles.Proofs.Transparency

namespace StagedFiles

/-! ## A stage over an object that is cut -/

namespace Stage

variable {σ : Type} [ObjectStore σ] {fd : Fd} {s : Stage} {st st' : σ} {object : Bytes}
  {F : Sink σ fd} {len : Nat}

/-- The image ends within the first `len` bytes of the file. -/
def EndsWithin (s : Stage) (len : Nat) : Prop :=
  s.buffer.valid = true → 0 < s.buffer.len → s.buffer.start + s.buffer.len ≤ len

instance (s : Stage) (len : Nat) : Decidable (s.EndsWithin len) :=
  inferInstanceAs (Decidable (s.buffer.valid = true → 0 < s.buffer.len →
    s.buffer.start + s.buffer.len ≤ len))

theorem EndsWithin.image (h : s.EndsWithin len) (hvalid : s.buffer.valid = true)
    (hne : s.buffer.image ≠ []) : s.buffer.start + s.buffer.image.length ≤ len := by
  have hpos := List.length_pos_iff.mpr hne
  rw [StagingBuffer.length_image] at hpos ⊢
  exact h hvalid hpos

/-- An object that is cut behind the image, or extended, is seen as the file is, cut or extended
in the same place. -/
theorem On.resized (h : On F s st object) (hends : s.EndsWithin len)
    (hholds : F.Holds st' (Bytes.resize object len)) :
    On F s st' (Bytes.resize object len) ∧
      s.view (Bytes.resize object len) = Bytes.resize (s.view object) len := by
  rcases hd : s.dirty with _ | _
  · rw [view_of_clean hd, view_of_clean hd]
    refine ⟨on_of_clean h.fd_eq hd hholds ?_, rfl⟩
    intro hvalid
    exact (h.sound.clean hd hvalid).resize (hends.image hvalid)
  · obtain ⟨hvalid, hpos, -⟩ := h.sound.staged hd
    have hend : s.buffer.start + s.buffer.image.length ≤ len := by
      rw [StagingBuffer.length_image]
      exact hends hvalid hpos
    rw [view_of_dirty hd, view_of_dirty hd]
    exact ⟨⟨h.fd_eq, hholds, h.sound.toPlaced.sound hd _, h.reaches⟩, Bytes.overlay_resize _ _ _ hend⟩

end Stage

/-! ## Edits -/

/-- What a caller does with an open file: it reads, writes, flushes and truncates. -/
inductive Edit where
  | read (offset len : Nat)
  | write (offset : Nat) (data : Bytes)
  | flush
  | truncate (len : Nat)
  deriving DecidableEq, Repr

/-- What an edit answers. How much a flush has to write is the business of the stage. -/
inductive EditReply where
  | bytes (result : Except Failure Bytes)
  | count (result : Except Failure Nat)
  | flushed (result : Except Failure Unit)
  | truncated (result : Except Failure Unit)
  deriving DecidableEq

namespace FileUser

section Edits

variable {σ : Type} [ObjectStore σ]

/-- A direct file has nothing to flush. -/
def edit (u : FileUser σ) : Edit → EditReply × FileUser σ
  | .read offset len =>
    let (r, file, store) := u.file.read offset len u.store
    (.bytes r, { file, store })
  | .write offset data =>
    let (r, file, store) := u.file.write offset data u.store
    (.count r, { file, store })
  | .flush =>
    match u.file with
    | .raw _ => (.flushed (.ok ()), u)
    | .staged f =>
      let (r, f, store) := f.flush u.store
      (.flushed (r.map fun _ => ()), { file := .staged f, store })
  | .truncate len =>
    let (r, file, store) := u.file.truncate len u.store
    (.truncated r, { file, store })

/-- All the edits in order, and what each of them answers. -/
def edits (u : FileUser σ) : List Edit → List EditReply × FileUser σ
  | [] => ([], u)
  | e :: es =>
    let (reply, u) := u.edit e
    let (replies, u) := u.edits es
    (reply :: replies, u)

/-- A truncation cuts nothing off the image of the session that is open. -/
def SparesImage (u : FileUser σ) : Edit → Prop
  | .truncate len => ∀ stage ∈ u.file.stage?, stage.EndsWithin len
  | .read .. | .write .. | .flush => True

/-- No truncation of a run does. -/
def SparesImages (u : FileUser σ) : List Edit → Prop
  | [] => True
  | e :: es => u.SparesImage e ∧ (u.edit e).2.SparesImages es

instance (u : FileUser σ) : (e : Edit) → Decidable (u.SparesImage e)
  | .truncate len => inferInstanceAs (Decidable (∀ stage ∈ u.file.stage?, stage.EndsWithin len))
  | .read .. | .write .. | .flush => inferInstanceAs (Decidable True)

instance decidableSparesImages : (u : FileUser σ) → (es : List Edit) →
    Decidable (u.SparesImages es)
  | _, [] => inferInstanceAs (Decidable True)
  | u, e :: es =>
    have := decidableSparesImages (u.edit e).2 es
    inferInstanceAs (Decidable (u.SparesImage e ∧ (u.edit e).2.SparesImages es))

end Edits

/-! ## The flat file -/

/-- What an edit answers on a flat file with these bytes, and the bytes after it. -/
def onFlat (b : Bytes) : Edit → EditReply × Bytes
  | .read offset len => (.bytes (inRange offset len (Bytes.slice b offset len)), b)
  | .write offset data =>
    (.count (inRange offset data.length data.length),
      if offset + data.length ≤ Offset.last then Bytes.written b offset data else b)
  | .flush => (.flushed (.ok ()), b)
  | .truncate len => (.truncated (.ok ()), Bytes.resize b len)

/-- All the edits in order on a flat file. -/
def allOnFlat (b : Bytes) : List Edit → List EditReply × Bytes
  | [] => ([], b)
  | e :: es =>
    let (reply, b) := onFlat b e
    let (replies, b) := allOnFlat b es
    (reply :: replies, b)

/-! ## An open file is edited -/

open MemoryStore (Shelf OpenAt shelfFile)

variable {objects : String → Option Bytes} {next fd : Fd} {path : String} {b : Bytes}
  {u : FileUser MemoryStore}

/-- A flush leaves the file as it is seen. -/
theorem StagedOpen.flush (h : StagedOpen objects next path fd b u) :
    ∃ u', u.edit .flush = (.flushed (.ok ()), u') ∧ StagedOpen objects next path fd b u' := by
  obtain ⟨hread, hwrite, hsession, hfd, hraw, hcheck, hon, hidle, hview⟩ := h
  rename_i f st s object
  obtain ⟨n, stage, st', hf, hon', hclean⟩ := hon.flushNow
  rw [← Stage.flush_idle st hidle] at hf
  have hidle' : stage.outstanding = 0 := (Stage.flush_same hf).outstanding.trans hidle
  refine ⟨⟨.staged (f.withStage s stage), st'⟩, ?_,
    .mk (s := { s with stage }) hread hwrite rfl hfd hraw hcheck hon' hidle'
      ((Stage.view_of_clean hclean).trans hview)⟩
  simp only [edit, StagedFile.flush, StagedFile.opened, hsession, hf]
  rfl

/-- A truncation goes to the store, and leaves the file as it is. -/
theorem truncate_passes {f : StagedFile} {st st' : MemoryStore} {s : Session} {len : Nat}
    (hsession : f.session = some s) (hraw : f.raw.fd = some fd)
    (ht : ObjectStore.truncate fd len st = (.ok (), st')) :
    edit ⟨.staged f, st⟩ (.truncate len) = (.truncated (.ok ()), ⟨.staged f, st'⟩) := by
  simp only [edit, ObjectFile.truncate, StagedFile.pass, hsession, RawFile.truncate,
    RawFile.requireFd, hraw, ht]

/-- A truncation that spares the image cuts or extends the file that is seen. -/
theorem StagedOpen.truncate (h : StagedOpen objects next path fd b u) {len : Nat}
    (hspares : u.SparesImage (.truncate len)) :
    ∃ u', u.edit (.truncate len) = (.truncated (.ok ()), u') ∧
      StagedOpen objects next path fd (Bytes.resize b len) u' := by
  obtain ⟨hread, hwrite, hsession, hfd, hraw, hcheck, hon, hidle, hview⟩ := h
  have hends := hspares _ (congrArg (Option.map Session.stage) hsession)
  have hopen : OpenAt objects next path fd _ _ _ := hon.holds
  obtain ⟨st', ht, hopen'⟩ := hopen.truncate hwrite len
  obtain ⟨hon', hview'⟩ := hon.resized hends hopen'
  rw [hview] at hview'
  exact ⟨_, truncate_passes hsession hraw ht,
    .mk hread hwrite hsession hfd hraw hcheck hon' hidle hview'⟩

/-- An edit that spares the image does to the file that is seen what it does to a flat file. -/
theorem StagedOpen.edit (h : StagedOpen objects next path fd b u) {e : Edit}
    (hspares : u.SparesImage e) :
    ∃ u', u.edit e = ((onFlat b e).1, u') ∧ StagedOpen objects next path fd (onFlat b e).2 u' := by
  cases e with
  | read offset len =>
    obtain ⟨u', hstep, hopen⟩ := h.read offset len
    simp only [FileUser.step, Prod.mk.injEq, FileReply.bytes.injEq] at hstep
    obtain ⟨hreply, rfl⟩ := hstep
    exact ⟨_, by simp only [FileUser.edit, hreply, onFlat], hopen⟩
  | write offset data =>
    obtain ⟨u', hstep, hopen⟩ := h.write offset data
    simp only [FileUser.step, Prod.mk.injEq, FileReply.count.injEq] at hstep
    obtain ⟨hreply, rfl⟩ := hstep
    exact ⟨_, by simp only [FileUser.edit, hreply, onFlat], hopen⟩
  | flush => exact h.flush
  | truncate len => exact h.truncate hspares

/-- So do all the edits of a run that spares the images. -/
theorem StagedOpen.edits (h : StagedOpen objects next path fd b u) {es : List Edit}
    (hspares : u.SparesImages es) :
    ∃ u', u.edits es = ((allOnFlat b es).1, u') ∧
      StagedOpen objects next path fd (allOnFlat b es).2 u' := by
  induction es generalizing b u with
  | nil => exact ⟨u, rfl, h⟩
  | cons e es ih =>
    obtain ⟨hhere, hrest⟩ := hspares
    obtain ⟨u1, hstep, h1⟩ := h.edit hhere
    rw [hstep] at hrest
    obtain ⟨u', hrun, hopen⟩ := ih h1 hrest
    refine ⟨u', ?_, hopen⟩
    simp only [FileUser.edits, hstep, hrun, allOnFlat]

/-! ## What was cut off -/

/-- A byte that the image has is read, also when a truncation has just cut it off. -/
theorem StagedOpen.read_cut (h : StagedOpen objects next path fd b u) {stage : Stage}
    (hstage : stage ∈ u.file.stage?) (len : Nat) {offset : Nat}
    (hcovers : stage.buffer.covers offset 1 = true) :
    ∃ byte, (u.edits [.truncate len, .read offset 1]).1 =
      [.truncated (.ok ()), .bytes (.ok [byte])] := by
  obtain ⟨hread, hwrite, hsession, hfd, hraw, hcheck, hon, hidle, hview⟩ := h
  obtain rfl := Option.some.inj
    ((congrArg (Option.map Session.stage) hsession).symm.trans hstage)
  have hopen : OpenAt objects next path fd _ _ _ := hon.holds
  obtain ⟨st', ht, -⟩ := hopen.truncate hwrite len
  have hlen := StagingBuffer.length_copyOut_of_covers hcovers
  obtain ⟨byte, hbyte⟩ := List.length_eq_one_iff.mp hlen
  obtain ⟨stage', hr, -⟩ := Stage.readBytes_hit st' hlen
  rw [← Stage.read_idle st' (StagingBuffer.last_of_covers hcovers) hidle, hbyte] at hr
  refine ⟨byte, ?_⟩
  simp only [FileUser.edits]
  rw [truncate_passes hsession hraw ht]
  simp only [FileUser.edit, ObjectFile.read, StagedFile.read, StagedFile.opened, hsession, hr]

/-- Staged bytes that a truncation cuts off come back with the close. -/
theorem StagedOpen.close_cut (h : StagedOpen objects next path fd b u) {stage : Stage}
    (hstage : stage ∈ u.file.stage?) (hd : stage.dirty = true) {len : Nat}
    (hcut : len < stage.buffer.start + stage.buffer.len) :
    ∃ object, ((u.edit (.truncate len)).2.step .close).2.store.object? path = some object ∧
      len < object.length := by
  obtain ⟨hread, hwrite, hsession, hfd, hraw, hcheck, hon, hidle, hview⟩ := h
  obtain rfl := Option.some.inj
    ((congrArg (Option.map Session.stage) hsession).symm.trans hstage)
  have hopen : OpenAt objects next path fd _ _ _ := hon.holds
  obtain ⟨st', ht, hopen'⟩ := hopen.truncate hwrite len
  -- what is staged is seen over the object, however short that is now
  have hafter := StagedOpen.mk hread hwrite hsession hfd hraw hcheck
    ⟨hon.fd_eq, hopen', hon.sound.toPlaced.sound hd _, hon.reaches⟩ hidle rfl
  obtain ⟨v, hclose, -, -, -, hshelf⟩ := hafter.close
  rw [truncate_passes hsession hraw ht, hclose]
  refine ⟨_, (hshelf.shows path).trans (Function.update_self ..), ?_⟩
  rw [Stage.view_of_dirty hd, Bytes.length_overlay, StagingBuffer.length_image]
  omega

/-- A flat file has nothing where it was cut. -/
theorem read_past_cut (b : Bytes) {len offset : Nat} (hcut : len ≤ offset)
    (hlast : offset + 1 ≤ Offset.last) :
    (allOnFlat b [.truncate len, .read offset 1]).1 =
      [.truncated (.ok ()), .bytes (.ok [])] := by
  have hnone : Bytes.slice (Bytes.resize b len) offset 1 = [] := by
    apply List.length_eq_zero_iff.mp
    rw [Bytes.length_slice, Bytes.length_resize]
    omega
  simp only [allOnFlat, onFlat, hnone, inRange, Stage.rangeEnd_of_le hlast]
  rfl

/-! ## Truncation is seen -/

/-- A buffered file that is opened to read and to write, over a store without faults: as long
as no truncation cuts into the image, its edits answer as those of the flat file that stood
there, and a close leaves that file in the store. When a truncation cuts into the image, any
byte that it cuts off is still read, where the flat file has none, and bytes that are staged
make the object longer again with the close. -/
theorem truncation_is_seen_unless_it_cuts_the_image {settings : Settings} {front : Front}
    {st : MemoryStore} {create truncate : Bool} (hfront : Front.ofSettings settings = .ok front)
    (hon : settings.enabled = true) (hshelf : Shelf objects next st)
    (hleft : MemoryStore.left (asked create truncate) (objects path) = some b) :
    ∃ u, step ⟨front.newFile, st⟩ (.openPath path create truncate) = (.opened (.ok next), u) ∧
      ∀ es, u.SparesImages es →
        ((u.edits es).1 = (allOnFlat b es).1 ∧
          ((u.edits es).2.step .close).1 = .closed (.ok ()) ∧
          ((u.edits es).2.step .close).2.store.object? path = some (allOnFlat b es).2) ∧
        ∀ len, ∀ stage ∈ (u.edits es).2.file.stage?,
          (∀ offset, len ≤ offset → stage.buffer.covers offset 1 = true →
            ∃ byte, ((u.edits es).2.edits [.truncate len, .read offset 1]).1 =
                [.truncated (.ok ()), .bytes (.ok [byte])] ∧
              (allOnFlat (allOnFlat b es).2 [.truncate len, .read offset 1]).1 =
                [.truncated (.ok ()), .bytes (.ok [])]) ∧
          (stage.dirty = true → len < stage.buffer.start + stage.buffer.len →
            ∃ object, (((u.edits es).2.edit (.truncate len)).2.step .close).2.store.object? path =
                some object ∧
              (onFlat (allOnFlat b es).2 (.truncate len)).2.length < object.length) := by
  obtain ⟨hcheck, rfl⟩ := Front.ofSettings_eq_ok_iff.mp hfront
  have hshut : StagedShut objects next ⟨Front.newFile { settings }, st⟩ := by
    unfold Front.newFile ObjectFile.ofSettings
    dsimp only
    rw [if_pos hon]
    exact .mk rfl rfl hcheck hshelf
  obtain ⟨u, hstep, hopen⟩ := hshut.open_present hleft
  refine ⟨u, hstep, ?_⟩
  intro es hspares
  obtain ⟨u', hrun, hopen'⟩ := hopen.edits hspares
  rw [hrun]
  refine ⟨⟨rfl, ?_⟩, ?_⟩
  · obtain ⟨v, hclose, -, -, -, hshelf'⟩ := hopen'.close
    rw [hclose]
    exact ⟨rfl, (hshelf'.shows path).trans (Function.update_self ..)⟩
  · intro len stage hstage
    refine ⟨?_, ?_⟩
    · intro offset hcut hcovers
      obtain ⟨byte, hread⟩ := hopen'.read_cut hstage len hcovers
      exact ⟨byte, hread, read_past_cut _ hcut (StagingBuffer.last_of_covers hcovers)⟩
    · intro hd hcut
      obtain ⟨object, hobject, hlonger⟩ := hopen'.close_cut hstage hd hcut
      exact ⟨object, hobject, (Bytes.length_resize _ len).symm ▸ hlonger⟩

/-- The one object of the shelf, opened through four bytes of buffer. -/
def logOpen : FileUser MemoryStore :=
  (step ⟨(bufferedFront .sync).newFile, shelved .threaded⟩ (.openPath "log" false false)).2

/-- Truncations behind data that are staged and behind the image of what was flushed. -/
def sparingEdits : List Edit :=
  [.write 0 [7, 8], .truncate 2, .read 0 9, .write 3 [9], .flush, .truncate 6, .write 4 [5]]

theorem truncation_is_seen_over_a_shelf :
    logOpen.SparesImages sparingEdits ∧
      (logOpen.edits sparingEdits).1 = (allOnFlat [1, 2, 3] sparingEdits).1 ∧
      ((logOpen.edits sparingEdits).2.step .close).2.store.object? "log" =
        some [7, 8, 0, 9, 5, 0] ∧
      (∃ byte, ((logOpen.edits sparingEdits).2.edits [.truncate 3, .read 4 1]).1 =
        [.truncated (.ok ()), .bytes (.ok [byte])]) ∧
      ∃ object, (((logOpen.edits sparingEdits).2.edit (.truncate 3)).2.step
        .close).2.store.object? "log" = some object ∧ 3 < object.length := by
  have hbuffered : Front.ofSettings (bufferedFront .sync).settings = .ok (bufferedFront .sync) :=
    rfl
  have hleft : MemoryStore.left (asked false false)
      (Function.update (fun _ => none) "log" (some [1, 2, 3]) "log") = some [1, 2, 3] := by
    rw [Function.update_self]
    rfl
  obtain ⟨u, hstep, hall⟩ :=
    truncation_is_seen_unless_it_cuts_the_image hbuffered rfl (shelf_shelved .threaded) hleft
  have hu : logOpen = u := congrArg Prod.snd hstep
  rw [← hu] at hall
  have hspares : logOpen.SparesImages sparingEdits := by decide +kernel
  obtain ⟨⟨hreplies, -, hobject⟩, hcut⟩ := hall sparingEdits hspares
  obtain ⟨stage, hstage, hcovers, hd, hlen⟩ :
      ∃ stage ∈ (logOpen.edits sparingEdits).2.file.stage?,
        stage.buffer.covers 4 1 = true ∧ stage.dirty = true ∧
          3 < stage.buffer.start + stage.buffer.len := by decide +kernel
  obtain ⟨hread, hclose⟩ := hcut 3 stage hstage
  obtain ⟨byte, hbyte, -⟩ := hread 4 (by decide) hcovers
  exact ⟨hspares, hreplies, hobject, ⟨byte, hbyte⟩, hclose hd hlen⟩

/-- Truncations that cut an image that was read, and then data that are staged. -/
def cuttingEdits : List Edit :=
  [.read 0 3, .truncate 1, .read 0 3, .write 0 [7, 8, 9], .truncate 1]

/-- Bytes that were cut off are read again, and come back into the store with a close. -/
theorem truncation_is_not_seen_through_an_image :
    (logOpen.edits cuttingEdits).1 =
        [.bytes (.ok [1, 2, 3]), .truncated (.ok ()), .bytes (.ok [1, 2, 3]), .count (.ok 3),
          .truncated (.ok ())] ∧
      ((logOpen.edits cuttingEdits).2.step .close).2.store.object? "log" = some [7, 8, 9] ∧
      allOnFlat [1, 2, 3] cuttingEdits =
        ([.bytes (.ok [1, 2, 3]), .truncated (.ok ()), .bytes (.ok [1]), .count (.ok 3),
          .truncated (.ok ())], [7]) := by
  refine ⟨?_, ?_, ?_⟩
  · decide +kernel
  · decide +kernel
  · decide

end FileUser

end StagedFiles
