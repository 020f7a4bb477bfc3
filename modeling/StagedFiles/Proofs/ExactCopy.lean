-- A copy into a file without errors. Chunk by chunk the file is seen to hold the
-- front of the data that was written, whatever the sizes of chunk and buffer and
-- however the chunks are handed in, and the close brings all of it to the store.
import Mathlib
import StagedFiles.Copy
import StagedFiles.Proofs.DirectoryFile
import StagedFiles.Proofs.FlatStage

namespace StagedFiles

/-- Data laid at the end of a run stand behind it. -/
theorem Bytes.overlay_end (b d : Bytes) : overlay b b.length d = b ++ d := by
  unfold overlay
  rw [resize_length, List.drop_of_length_le (Nat.le_add_right ..), List.append_nil]

namespace Copy

variable {σ : Type} [ObjectStore σ] {fd : Fd} {F : Sink σ fd} {f : ObjectFile} {st st' : σ}
  {b data : Bytes} {offset : Nat}

/-! ## An open file -/

/-- The file is open for writing, and these bytes are seen in it. -/
inductive Shows (F : Sink σ fd) : ObjectFile → σ → Bytes → Prop where
  | raw {f : RawFile} {st : σ} {b : Bytes} : f.fd = some fd → F.Holds st b → Shows F (.raw f) st b
  | staged {f : StagedFile} {s : Session} {st : σ} {object b : Bytes} : f.session = some s →
      f.raw.fd = some fd → s.access.write = true → s.stage.On F st object →
      s.stage.outstanding = 0 → s.stage.view object = b → Shows F (.staged f) st b

/-- A new file that opens shows what the store holds for it. -/
theorem shows_of_open {settings : Settings} {front : Front} {path : String} {access : Access}
    (hfront : Front.ofSettings settings = .ok front) (hwrite : access.write = true)
    (hopen : ObjectStore.openPath path access st = (.ok fd, st')) (hholds : F.Holds st' b) :
    ∃ f, front.newFile.openPath path access st = (.ok fd, f, st') ∧ Shows F f st' b := by
  obtain ⟨hcheck, rfl⟩ := Front.ofSettings_eq_ok_iff.mp hfront
  unfold Front.newFile ObjectFile.ofSettings
  dsimp only
  split
  · obtain ⟨stage, hbuild⟩ := Stage.build_of_check hcheck fd
    obtain ⟨hon, hview, hidle⟩ := Stage.on_of_build hbuild hholds
    let opened : StagedFile :=
      { raw := { grouping := settings.grouping, fd := some fd }
        settings
        session := some { fd, path, access, stage } }
    refine ⟨.staged opened, ?_, .staged rfl rfl hwrite hon hidle hview⟩
    simp only [opened, ObjectFile.openPath, StagedFile.ofSettings, StagedFile.openPath, hcheck,
      RawFile.openPath, hopen, hbuild]
  · refine ⟨.raw { grouping := settings.grouping, fd := some fd }, ?_, .raw rfl hholds⟩
    simp only [ObjectFile.openPath, RawFile.openPath, hopen]

/-! ## One chunk -/

theorem write_shows {raw : RawFile} {aio : Bool} (hfd : raw.fd = some fd) (h : F.Holds st b)
    (hdata : data ≠ []) (hlast : offset + data.length ≤ Offset.last)
    (hreach : F.Reaches (offset + data.length)) :
    ∃ f' st', writeChunk aio (.raw raw) offset data st = (.ok data.length, f', st') ∧
      Shows F f' st' (Bytes.overlay b offset data) := by
  have hchecked : raw.checked offset data.length = .ok fd := by
    unfold RawFile.checked RawFile.requireFd
    rw [hfd, Stage.rangeEnd_of_le hlast]
  cases aio with
  | false =>
    obtain ⟨st', hw, hholds⟩ := F.write h hdata hreach
    refine ⟨.raw raw, st', ?_, .raw hfd hholds⟩
    simp [Copy.writeChunk, ObjectFile.write, RawFile.write, hchecked, hw]
  | true =>
    obtain ⟨ticket, st1, st2, hs, hwait, hholds⟩ := F.submitWrite h hdata hreach
    refine ⟨.raw raw, st2, ?_, .raw hfd hholds⟩
    simp [Copy.writeChunk, ObjectFile.writeAio, RawFile.writeAio, hchecked, hs, settle, hwait,
      ObjectFile.complete, countOf]

theorem Shows.writeChunk (aio : Bool) (h : Shows F f st b) (hdata : data ≠ [])
    (hlast : offset + data.length ≤ Offset.last) (hreach : F.Reaches (offset + data.length)) :
    ∃ f' st', Copy.writeChunk aio f offset data st = (.ok data.length, f', st') ∧
      Shows F f' st' (Bytes.overlay b offset data) := by
  cases h with
  | raw hfd hholds => exact write_shows hfd hholds hdata hlast hreach
  | @staged f s _ object _ hsession hraw hwrite hon hidle hview =>
    subst hview
    have hwritable : f.writable = .ok s := by
      unfold StagedFile.writable
      rw [hsession]
      exact if_pos hwrite
    cases aio with
    | false =>
      obtain ⟨stage, st', object', hw, hon', hview'⟩ := hon.stageFrom hlast hreach 0
      rw [Nat.zero_add] at hw
      rw [← Stage.write_idle st hlast hidle] at hw
      have hidle' : stage.outstanding = 0 := (Stage.write_same hw).outstanding.trans hidle
      rw [Bytes.written_of_ne_nil _ _ hdata] at hview'
      let after : StagedFile :=
        { f.withStage s stage with
          bytes := { f.bytes with write := Counter.plus f.bytes.write data.length } }
      have hafter : Shows F (.staged after) st' (Bytes.overlay (s.stage.view object) offset data) :=
        .staged rfl hraw hwrite hon' hidle' hview'
      refine ⟨.staged after, st', ?_, hafter⟩
      simp only [Copy.writeChunk, ObjectFile.write, StagedFile.write, hwritable, hw]
      rfl
    | true =>
      have hlays := hon.writeAio hidle hdata hlast hreach
      rcases hw : s.stage.writeAio offset data st with ⟨r, stage, st1⟩
      rw [hw] at hlays
      cases hlays with
      | finished hon' hidle' hview' =>
        refine ⟨.staged (f.withStage s stage), st1, ?_, .staged rfl hraw hwrite hon' hidle' hview'⟩
        simp only [Copy.writeChunk, if_true, ObjectFile.writeAio, StagedFile.writeAio, hwritable,
          hw, settle, countOf]
      | @out ticket _ stage' _ st' object' done hwait hcomplete hon' hidle' hview' =>
        refine ⟨.staged (f.withStage s stage'), st', ?_,
          .staged rfl hraw hwrite hon' hidle' hview'⟩
        simp only [Copy.writeChunk, if_true, ObjectFile.writeAio, StagedFile.writeAio, hwritable,
          hw, settle, hwait, ObjectFile.complete, StagedFile.complete, StagedFile.withStage,
          hcomplete, countOf]

/-! ## All chunks -/

/-- The next chunk of data that are left goes, and is not empty. -/
theorem chunk_shows (plan : CopyPlan) (h : Shows F f st b) (hdata : data ≠ [])
    (hlast : offset + data.length ≤ Offset.last) (hreach : F.Reaches (offset + data.length)) :
    (data.take plan.chunk).length + (data.drop plan.chunk).length = data.length ∧
      ∃ f' st', Copy.writeChunk plan.aio f offset (data.take plan.chunk) st =
          (.ok (data.take plan.chunk).length, f', st') ∧
        Shows F f' st' (Bytes.overlay b offset (data.take plan.chunk)) := by
  have hlen : (data.take plan.chunk).length + (data.drop plan.chunk).length = data.length := by
    rw [← List.length_append, List.take_append_drop]
  have hpos := List.length_pos_iff.mpr hdata
  have hchunk : data.take plan.chunk ≠ [] := by
    apply List.length_pos_iff.mp
    rw [List.length_take]
    exact Nat.lt_min.mpr ⟨plan.chunk_pos, hpos⟩
  exact ⟨hlen, h.writeChunk plan.aio hchunk (by omega) (F.reaches_of_le (by omega) hreach)⟩

/-- All chunks go, each behind the one before it. -/
theorem Shows.writeAll (h : Shows F f st b) (plan : CopyPlan) (hoffset : offset = b.length)
    (hlast : offset + data.length ≤ Offset.last) (hreach : F.Reaches (offset + data.length)) :
    ∃ f' st', Copy.writeAll plan f offset data st = (.ok (), f', st') ∧
      Shows F f' st' (b ++ data) := by
  fun_induction Copy.writeAll plan f offset data st generalizing b with
  | case1 f offset st =>
    rw [List.append_nil]
    exact ⟨f, st, rfl, h⟩
  | case2 f offset data st hd chunk e f1 st1 =>
    rename_i hw
    obtain ⟨_, f', st', hchunk, _⟩ := chunk_shows plan h hd hlast hreach
    rw [hchunk] at hw
    cases hw
  | case3 f offset data st hd chunk n f1 st1 hw =>
    rename_i hn
    obtain ⟨_, f', st', hchunk, _⟩ := chunk_shows plan h hd hlast hreach
    rw [hchunk] at hw
    cases hw
    exact absurd rfl hn
  | case4 f offset data st hd chunk n f1 st1 hw hn =>
    rename_i ih
    obtain ⟨hlen, f', st', hchunk, hshows⟩ := chunk_shows plan h hd hlast hreach
    rw [hchunk] at hw
    cases hw
    have hsplit : chunk ++ data.drop plan.chunk = data := List.take_append_drop ..
    rw [hoffset, Bytes.overlay_end] at hshows
    have hnext : offset + chunk.length = (b ++ chunk).length := by
      rw [List.length_append, hoffset]
    obtain ⟨f2, st2, hrest, hall⟩ :=
      ih hshows hnext (by omega) (F.reaches_of_le (by omega) hreach)
    refine ⟨f2, st2, hrest, ?_⟩
    rwa [List.append_assoc, hsplit] at hall

/-! ## The end of a copy -/

/-- What a close leaves: the descriptor was given up after all that was seen
had reached the store, and letting go of the file does nothing more. -/
theorem Shows.close {After : σ → Prop} (h : Shows F f st b)
    (hclose : ∀ st, F.Holds st b → ∃ st', ObjectStore.close fd st = (.ok (), st') ∧ After st') :
    ∃ f' st', f.close st = (.ok (), f', st') ∧ (f'.drop st').2 = st' ∧ After st' := by
  cases h with
  | @raw f _ _ hfd hholds =>
    obtain ⟨st', hc, hafter⟩ := hclose st hholds
    refine ⟨.raw { f with fd := none }, st', ?_, rfl, hafter⟩
    simp only [ObjectFile.close, RawFile.close, hfd, hc]
  | @staged f s _ object _ hsession hraw hwrite hon hidle hview =>
    subst hview
    obtain ⟨n, stage, st1, hf, hon1, _⟩ := hon.flushNow
    rw [← Stage.flush_idle st hidle] at hf
    obtain ⟨st', hc, hafter⟩ := hclose st1 hon1.holds
    let last := f.summarize { s with stage } true
    let after : StagedFile :=
      { f with raw := { f.raw with fd := none }, session := none, lastSummary := some last }
    refine ⟨.staged after, st', ?_, rfl, hafter⟩
    simp only [ObjectFile.close, StagedFile.close, hsession, hidle, ne_eq, not_true_eq_false,
      if_false, hwrite, if_true, hf, RawFile.close, hraw, hc, after, last]

/-- A copy comes out well and leaves what the close of the written file leaves. -/
theorem copyIn_flat {After : σ → Prop} {settings : Settings} {front : Front} {plan : CopyPlan}
    (F : Sink σ fd) (hfront : Front.ofSettings settings = .ok front)
    (hopen : ObjectStore.openPath plan.dest .createTruncate st = (.ok fd, st'))
    (hempty : F.Holds st' []) (hlast : data.length ≤ Offset.last) (hreach : F.Reaches data.length)
    (hclose : ∀ st, F.Holds st data →
      ∃ st', ObjectStore.close fd st = (.ok (), st') ∧ After st') :
    ∃ summary st2, copyIn front plan data st = (.ok summary, st2) ∧ After st2 := by
  obtain ⟨f, hopened, hshows⟩ := shows_of_open hfront rfl hopen hempty
  rw [← Nat.zero_add data.length] at hlast hreach
  have hstart : 0 = ([] : Bytes).length := rfl
  obtain ⟨f1, st1, hwritten, hall⟩ := hshows.writeAll plan hstart hlast hreach
  rw [List.nil_append] at hall
  obtain ⟨f2, st2, hclosed, hdrop, hafter⟩ := hall.close hclose
  refine ⟨f2.summary, st2, ?_, hafter⟩
  unfold copyIn
  rw [hopened]
  dsimp only
  rw [hwritten]
  dsimp only
  rw [hclosed]
  dsimp only
  unfold releasing
  dsimp only
  rw [hdrop]

/-! ## A copy into a directory store -/

/-- Into a directory store whose workers run, a copy comes out well and leaves
exactly the data under the path, whatever the sizes of chunk and buffer, the
adapter, and whether the chunks are handed in. -/
theorem a_copy_is_exact {settings : Settings} {front : Front} {plan : CopyPlan}
    {st opened : DirectoryStore} {fd : Fd} (data : Bytes)
    (hfront : Front.ofSettings settings = .ok front) (hready : st.Ready)
    (hopen : ObjectStore.openPath plan.dest .createTruncate st = (.ok fd, opened))
    (hfile : opened.OnFile fd) (hsize : data.length ≤ FileTree.maxSize) :
    ∃ summary st' place, copyIn front plan data st = (.ok summary, st') ∧
      ObjectPath.resolve st.root plan.dest = .ok place ∧ st'.tree.contents place = .ok data ∧
      ObjectStore.statPath plan.dest st' = (.ok data.length, st') := by
  obtain ⟨place, f, hplace, hempty⟩ :=
    DirectoryStore.filed_of_open hready rfl rfl rfl hopen hfile
  have hclose : ∀ st1, (DirectoryStore.sink st.root place fd f).Holds st1 data →
      ∃ st', ObjectStore.close fd st1 = (.ok (), st') ∧
        st'.tree.contents place = .ok data ∧
        ObjectStore.statPath plan.dest st' = (.ok data.length, st') := by
    intro st1 hfiled
    obtain ⟨hcontents, hfound, hlength⟩ := hfiled.contents
    obtain ⟨st', hc, hroot, htree⟩ := hfiled.close
    refine ⟨st', hc, ?_, ?_⟩
    · rw [htree]
      exact hcontents
    · show DirectoryStore.statPath plan.dest st' = _
      unfold DirectoryStore.statPath
      rw [hroot, hplace, htree]
      dsimp only
      rw [hfound]
      dsimp only
      rw [hlength]
  have hlast : data.length ≤ Offset.last := Nat.le_trans hsize (by decide)
  obtain ⟨summary, st', hcopy, hcontents, hstat⟩ :=
    copyIn_flat (DirectoryStore.sink st.root place fd f) hfront hopen hempty hlast hsize hclose
  exact ⟨summary, st', place, hcopy, hplace, hcontents, hstat⟩

/-! ## A copy below an empty root -/

/-- A store with nothing below its root. -/
def scratch : DirectoryStore := { root := "/" }

/-- The store with a new file open in it. -/
def scratchOpen : DirectoryStore :=
  { scratch with
    tree := (scratch.tree.addNode 0 "log" (.file {})).2
    files := ({} : Table Fd OpenNode).insert .first ⟨1, .createTruncate⟩
    nextFd := Fd.first.next }

theorem scratch_ready : scratch.Ready := by
  refine ⟨rfl, ?_, FileTree.fresh_empty⟩
  intro e he
  cases he

theorem splitOn_log : "/log".splitOn "/" = ["", "log"] := by cbv

theorem route_log : FileTree.route "/log" = .ok ⟨true, ["log"], false⟩ := by
  unfold FileTree.route FileTree.Route.ofText
  rw [splitOn_log]
  rfl

theorem scratch_opens :
    ObjectStore.openPath "log" .createTruncate scratch = (.ok .first, scratchOpen) := by
  have hplace : ObjectPath.resolve scratch.root "log" = .ok "/log" := by decide
  have hparents : scratch.prepare "/log" .createTruncate = (.ok (), scratch.tree) := by
    show scratch.tree.makeParents "/log" = _
    unfold FileTree.makeParents
    rw [splitOn_log]
    rfl
  have hopen : scratch.tree.openPath "/log" .createTruncate =
      .ok (⟨1, .createTruncate⟩, (scratch.tree.addNode 0 "log" (.file {})).2) := by
    unfold FileTree.openPath
    rw [route_log]
    rfl
  show DirectoryStore.openPath "log" .createTruncate scratch = _
  unfold DirectoryStore.openPath
  rw [hplace]
  dsimp only
  rw [hparents]
  dsimp only
  rw [hopen]
  rfl

theorem a_copy_is_exact_below_an_empty_root :
    Front.ofSettings { bufferSize := 3 } = .ok { settings := { bufferSize := 3 } } ∧
      scratch.Ready ∧
      ObjectStore.openPath "log" .createTruncate scratch = (.ok .first, scratchOpen) ∧
      scratchOpen.OnFile .first ∧ [1, 2, 3, 4, 5].length ≤ FileTree.maxSize ∧
      ∃ summary st' place,
        copyIn { settings := { bufferSize := 3 } }
          { dest := "log", chunk := 2, aio := true, chunk_pos := by decide } [1, 2, 3, 4, 5]
          scratch = (.ok summary, st') ∧
        ObjectPath.resolve scratch.root "log" = .ok place ∧
        st'.tree.contents place = .ok [1, 2, 3, 4, 5] ∧
        ObjectStore.statPath "log" st' = (.ok 5, st') :=
  have hfront : Front.ofSettings { bufferSize := 3 } = .ok { settings := { bufferSize := 3 } } := rfl
  ⟨hfront, scratch_ready, scratch_opens, ⟨_, _, rfl, rfl⟩, by decide,
    a_copy_is_exact [1, 2, 3, 4, 5] hfront scratch_ready scratch_opens ⟨_, _, rfl, rfl⟩ (by decide)⟩

end Copy

end StagedFiles
