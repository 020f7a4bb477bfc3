-- A comparison with an object that stands still. The chunks that are read follow
-- each other from the front of the object to its end, however short each of them
-- comes, so the comparison comes out well exactly when the object has the bytes
-- that were expected.
import StagedFiles.Copy
import StagedFiles.Proofs.MemoryKeeper
import StagedFiles.Proofs.MemoryShelf
import StagedFiles.Proofs.SteadyObject
import StagedFiles.Store.Throttled

namespace StagedFiles

namespace Copy

variable {σ : Type} [ObjectStore σ] {path : String} {content : Bytes} {O : SteadyObject σ path content}
  {fd : Fd} {f : ObjectFile} {st st' : σ} {offset len : Nat} {left expected : Bytes}

/-! ## An open file -/

/-- The file is open on the object to be read. -/
inductive Reading (O : SteadyObject σ path content) (fd : Fd) : ObjectFile → σ → Prop where
  | raw {f : RawFile} {st : σ} : f.fd = some fd → O.Opened fd st → Reading O fd (.raw f) st
  | staged {f : StagedFile} {s : Session} {st : σ} : f.session = some s → f.raw.fd = some fd →
      s.access.write = false → s.stage.Mirrors O fd st → Reading O fd (.staged f) st

/-- A new file opens on the object. -/
theorem reading_of_open {settings : Settings} {front : Front}
    (hfront : Front.ofSettings settings = .ok front) (h : O.Rests st) :
    ∃ fd f st', front.newFile.openPath path .readOnly st = (.ok fd, f, st') ∧ Reading O fd f st' := by
  obtain ⟨hcheck, rfl⟩ := Front.ofSettings_eq_ok_iff.mp hfront
  obtain ⟨fd, st', hopen, hopened⟩ := O.openPath h
  unfold Front.newFile ObjectFile.ofSettings
  dsimp only
  split
  · obtain ⟨stage, hbuild⟩ := Stage.build_of_check hcheck fd
    have hmirrors := Stage.mirrors_of_build hbuild hopened
    let opened : StagedFile :=
      { raw := { grouping := settings.grouping, fd := some fd }
        settings
        session := some { fd, path, access := .readOnly, stage } }
    refine ⟨fd, .staged opened, st', ?_, .staged rfl rfl rfl hmirrors⟩
    simp only [opened, ObjectFile.openPath, StagedFile.ofSettings, StagedFile.openPath, hcheck,
      RawFile.openPath, hopen, hbuild]
  · refine ⟨fd, .raw { grouping := settings.grouping, fd := some fd }, st', ?_, .raw rfl hopened⟩
    simp only [ObjectFile.openPath, RawFile.openPath, hopen]

/-- A file that was only read closes. -/
theorem Reading.close (h : Reading O fd f st) : ∃ f' st', f.close st = (.ok (), f', st') := by
  cases h with
  | @raw f _ hfd hopened =>
    obtain ⟨st', hc⟩ := O.close hopened
    refine ⟨.raw { f with fd := none }, st', ?_⟩
    simp only [ObjectFile.close, RawFile.close, hfd, hc]
  | @staged f s _ hsession hraw haccess hmirrors =>
    obtain ⟨st', hc⟩ := O.close hmirrors.opened
    let last := f.summarize s true
    let after : StagedFile :=
      { f with raw := { f.raw with fd := none }, session := none, lastSummary := some last }
    refine ⟨.staged after, st', ?_⟩
    simp only [ObjectFile.close, StagedFile.close, hsession, hmirrors.idle, ne_eq,
      not_true_eq_false, if_false, haccess, Bool.false_eq_true, RawFile.close, hraw, hc, after, last]

/-! ## One chunk -/

theorem readChunk_raw {raw : RawFile} (aio : Bool) (hfd : raw.fd = some fd) (h : O.Opened fd st)
    (hle : offset ≤ content.length) (hlen : 0 < len) (hrange : offset + len ≤ Offset.last) :
    ∃ bytes f' st', readChunk aio (.raw raw) offset len st = (.ok bytes, f', st') ∧
      content.Piece offset bytes ∧ Reading O fd f' st' := by
  have hchecked : raw.checked offset len = .ok fd := by
    unfold RawFile.checked RawFile.requireFd
    rw [hfd, Stage.rangeEnd_of_le hrange]
  cases aio with
  | false =>
    obtain ⟨bytes, st', hread, hopened, hpiece, _⟩ := O.readAt h hle hlen
    refine ⟨bytes, .raw raw, st', ?_, hpiece, .raw hfd hopened⟩
    simp [readChunk, ObjectFile.read, RawFile.read, hchecked, hread]
  | true =>
    obtain ⟨ticket, bytes, st1, st2, hs, hwait, hopened, hpiece⟩ := O.submitRead h hle hlen
    refine ⟨bytes, .raw raw, st2, ?_, hpiece, .raw hfd hopened⟩
    simp [readChunk, ObjectFile.readAio, RawFile.readAio, hchecked, hs, settle, hwait,
      ObjectFile.complete, bytesOf]

/-- A chunk that is read is a piece of the object, however it is asked for. -/
theorem Reading.readChunk (aio : Bool) (h : Reading O fd f st) (hlast : content.length ≤ Offset.last)
    (hle : offset ≤ content.length) (hlen : 0 < len) (hrange : offset + len ≤ Offset.last) :
    ∃ bytes f' st', Copy.readChunk aio f offset len st = (.ok bytes, f', st') ∧
      content.Piece offset bytes ∧ Reading O fd f' st' := by
  cases h with
  | raw hfd hopened => exact readChunk_raw aio hfd hopened hle hlen hrange
  | @staged f s _ hsession hraw haccess hmirrors =>
    have hopened : f.opened = .ok s := by
      unfold StagedFile.opened
      rw [hsession]
    cases aio with
    | false =>
      obtain ⟨bytes, stage, st', hr, hmirrors', hpiece⟩ := hmirrors.readBytes hlast hle hlen
      rw [← Stage.read_idle st hrange hmirrors.idle] at hr
      let after : StagedFile :=
        { f.withStage s stage with
          bytes := { f.bytes with read := Counter.plus f.bytes.read bytes.length } }
      have hafter : Reading O fd (.staged after) st' := .staged rfl hraw haccess hmirrors'
      refine ⟨bytes, .staged after, st', ?_, hpiece, hafter⟩
      simp only [Copy.readChunk, ObjectFile.read, StagedFile.read, hopened, hr]
      rfl
    | true =>
      have hbrings := hmirrors.readAio hlast hle hlen hrange
      rcases hr : s.stage.readAio offset len st with ⟨r, stage, st1⟩
      rw [hr] at hbrings
      cases hbrings with
      | @finished bytes _ _ hpiece hmirrors' =>
        refine ⟨bytes, .staged (f.withStage s stage), st1, ?_, hpiece,
          .staged rfl hraw haccess hmirrors'⟩
        simp only [Copy.readChunk, if_true, ObjectFile.readAio, StagedFile.readAio, hopened, hr,
          settle, bytesOf]
      | @out ticket done bytes _ stage' _ st' hwait hcomplete hpiece hmirrors' =>
        refine ⟨bytes, .staged (f.withStage s stage'), st', ?_, hpiece,
          .staged rfl hraw haccess hmirrors'⟩
        simp only [Copy.readChunk, if_true, ObjectFile.readAio, StagedFile.readAio, hopened, hr,
          settle, hwait, ObjectFile.complete, StagedFile.complete, StagedFile.withStage, hcomplete,
          bytesOf]

/-! ## All chunks -/

/-- The ways in which a comparison with a steady object ends: all that is left of the
object was seen at the front of what was expected, or something else was seen. -/
inductive Compared (O : SteadyObject σ path content) (fd : Fd) (offset : Nat) (left : Bytes) :
    Except CopyFault Nat × ObjectFile × σ → Prop where
  | same {f : ObjectFile} {st : σ} : content.drop offset <+: left → Reading O fd f st →
      Compared O fd offset left (.ok content.length, f, st)
  | different {e : CopyFault} {f : ObjectFile} {st : σ} : ¬ content.drop offset <+: left →
      Compared O fd offset left (.error e, f, st)

/-- A piece that both runs begin with can be passed over in both. -/
theorem drop_prefix_iff {piece : Bytes} (hat : content.HasAt offset piece) (hfront : piece <+: left) :
    content.drop (offset + piece.length) <+: left.drop piece.length ↔
      content.drop offset <+: left := by
  obtain ⟨rest, hrest⟩ := hat
  obtain ⟨behind, rfl⟩ := hfront
  rw [← List.drop_drop, ← hrest, List.drop_left, List.drop_left, List.prefix_append_right_inj]

/-- The chunks are compared one behind the other until the object ends. -/
theorem Reading.compareFrom (plan : CopyPlan) (h : Reading O fd f st)
    (hle : offset ≤ content.length) (hrange : content.length + plan.chunk ≤ Offset.last) :
    Compared O fd offset left (Copy.compareFrom plan f offset left st) := by
  fun_induction Copy.compareFrom plan f offset left st with
  | case1 f offset left st e f1 st1 =>
    rename_i hr
    obtain ⟨bytes, f', st', hchunk, _⟩ :=
      h.readChunk plan.aio (by omega) hle plan.chunk_pos (by omega)
    rw [hchunk] at hr
    cases hr
  | case2 f offset left st f1 st1 =>
    rename_i hr
    obtain ⟨bytes, f', st', hchunk, hpiece, hreading⟩ :=
      h.readChunk plan.aio (by omega) hle plan.chunk_pos (by omega)
    rw [hchunk] at hr
    cases hr
    have hend := hpiece.at_end hle
    subst hend
    refine .same ?_ hreading
    rw [List.drop_length]
    exact List.nil_prefix
  | case3 f offset left st b f1 st1 hr hb hl =>
    obtain ⟨bytes, f', st', hchunk, hpiece, _⟩ :=
      h.readChunk plan.aio (by omega) hle plan.chunk_pos (by omega)
    rw [hchunk] at hr
    cases hr
    refine .different ?_
    intro hprefix
    exact hl (List.prefix_iff_eq_take.mp (hpiece.here.trans hprefix))
  | case4 f offset left st b f1 st1 hr hb hl ih =>
    obtain ⟨bytes, f', st', hchunk, hpiece, hreading⟩ :=
      h.readChunk plan.aio (by omega) hle plan.chunk_pos (by omega)
    rw [hchunk] at hr
    cases hr
    have hrest := ih hreading (hpiece.here.stop_le hle)
    have hfront : b <+: left := List.prefix_iff_eq_take.mpr (Decidable.not_not.mp hl)
    have hiff := drop_prefix_iff hpiece.here hfront
    generalize Copy.compareFrom plan f1 (offset + b.length) (left.drop b.length) st1 = out at hrest
    cases hrest with
    | same hsame hreading => exact .same (hiff.mp hsame) hreading
    | different hdifferent => exact .different fun hprefix => hdifferent (hiff.mpr hprefix)

/-! ## The whole object -/

/-- Data with the length of the object are the object when it is a front of them. -/
theorem content_prefix_iff (hsize : content.length = expected.length) :
    content.drop 0 <+: expected ↔ content = expected := by
  rw [List.drop_zero]
  constructor
  · intro hprefix
    exact hprefix.eq_of_length hsize
  · rintro rfl
    exact List.prefix_rfl

theorem Reading.compareOpen (plan : CopyPlan) (h : Reading O fd f st)
    (hsize : content.length = expected.length)
    (hrange : content.length + plan.chunk ≤ Offset.last) :
    (∃ summary st', Copy.compareOpen plan f expected st = (.ok summary, st')) ↔
      content = expected := by
  have hcompared : Compared O fd 0 expected (Copy.compareFrom plan f 0 expected st) :=
    h.compareFrom plan (Nat.zero_le _) hrange
  unfold Copy.compareOpen
  generalize Copy.compareFrom plan f 0 expected st = out at hcompared
  cases hcompared with
  | @same f1 st1 hprefix hreading =>
    obtain ⟨f2, st2, hclosed⟩ := hreading.close
    dsimp only
    rw [if_neg (Decidable.not_not.mpr hsize), hclosed]
    exact iff_of_true ⟨_, _, rfl⟩ ((content_prefix_iff hsize).mp hprefix)
  | @different e f1 st1 hprefix =>
    refine iff_of_false ?_ fun heq => hprefix ((content_prefix_iff hsize).mpr heq)
    rintro ⟨summary, st', heq⟩
    cases heq

/-- A comparison with an object that stands still comes out well exactly when the
object has the bytes that are expected, whatever the sizes of chunk and buffer, the
adapter, and whether the chunks are asked for with requests that are handed in. A
chunk and the expected bytes lie in memory, so together they end before the last offset. -/
theorem a_comparison_is_exact {settings : Settings} {front : Front} {plan : CopyPlan}
    (O : SteadyObject σ plan.dest content) (hfront : Front.ofSettings settings = .ok front)
    (hrests : O.Rests st) (expected : Bytes)
    (hrange : expected.length + plan.chunk ≤ Offset.last) :
    (∃ summary st', verify front plan expected st = (.ok summary, st')) ↔ content = expected := by
  obtain ⟨st1, hstat, hrests1⟩ := O.statPath hrests
  unfold verify
  rw [hstat]
  dsimp only
  by_cases hsize : content.length = expected.length
  · obtain ⟨fd, f, st2, hopen, hreading⟩ := reading_of_open hfront hrests1
    rw [if_neg (Decidable.not_not.mpr hsize), hopen]
    exact hreading.compareOpen plan hsize (hsize ▸ hrange)
  · rw [if_pos hsize]
    refine iff_of_false ?_ fun heq => hsize (congrArg List.length heq)
    rintro ⟨summary, st', heq⟩
    cases heq

end Copy

/-! ## An object in memory that is read in short pieces -/

namespace MemoryStore

variable {objects : String → Option Bytes} {next fd : Fd} {path : String} {content : Bytes}
  {st : MemoryStore} {limits : Limits} {offset len : Nat}

/-- A cap that lets something through leaves a piece of what was asked for. -/
theorem capped_piece (hcap : ∀ cap, limits.maxRead = some cap → 0 < cap) (hlen : 0 < len) (n : Nat) :
    content.Piece offset (Bytes.slice content offset (Limits.capped limits.maxRead len + n)) := by
  have hpos : 0 < Limits.capped limits.maxRead len := by
    unfold Limits.capped
    split
    · rename_i cap hsome
      have := hcap cap hsome
      omega
    · exact hlen
  refine ⟨Bytes.hasAt_slice .., ?_⟩
  intro hbefore hnil
  have hlength := congrArg List.length hnil
  rw [Bytes.length_slice, List.length_nil] at hlength
  omega

/-- An object of a shelf stands still while it is only read, also behind a cap. -/
def steady (objects : String → Option Bytes) (limits : Limits)
    (hcap : ∀ cap, limits.maxRead = some cap → 0 < cap) (hobject : objects path = some content) :
    SteadyObject (Throttled MemoryStore) path content where
  Rests t := t.limits = limits ∧ ∃ next, Shelf objects next t.inner
  Opened fd t := t.limits = limits ∧ ∃ next, OpenAt objects next path fd .readOnly t.inner content
  statPath := by
    rintro t ⟨hlimits, next, hshelf⟩
    have hsize : (ObjectStore.statPath path t.inner).1 = .ok content.length := by
      rw [hshelf.statPath, hobject]
    have hsame : (ObjectStore.statPath path t.inner).2 = t.inner := by
      show (MemoryStore.statPath path t.inner).2 = _
      unfold MemoryStore.statPath
      split
      · rfl
      · rfl
    have hstat : ObjectStore.statPath path t.inner = (.ok content.length, t.inner) :=
      Prod.ext hsize hsame
    refine ⟨t, ?_, hlimits, next, hshelf⟩
    show t.pass (ObjectStore.statPath path) = _
    unfold Throttled.pass
    rw [hstat]
  openPath := by
    rintro t ⟨hlimits, next, hshelf⟩
    have hleft : left .readOnly (objects path) = some content := by
      rw [hobject]
      rfl
    obtain ⟨st, ho, hopen⟩ := hshelf.open_present (by decide) hleft
    refine ⟨next, { t with inner := st }, ?_, hlimits, next.next, hopen⟩
    show t.pass (MemoryStore.openPath path .readOnly) = _
    unfold Throttled.pass
    rw [ho]
  readAt := by
    rintro fd t offset len ⟨hlimits, next, hopen⟩ _ hlen
    obtain ⟨st, hr, hopen'⟩ := hopen.readAt rfl offset (Limits.capped limits.maxRead len)
    have hpiece : content.Piece offset
        (Bytes.slice content offset (Limits.capped limits.maxRead len)) := capped_piece hcap hlen 0
    refine ⟨_, { t with inner := st }, ?_, ⟨hlimits, next, hopen'⟩, hpiece, ?_⟩
    · show t.pass (ObjectStore.readAt fd offset (Limits.capped t.limits.maxRead len)) = _
      unfold Throttled.pass
      rw [hlimits, hr]
    · rw [Bytes.length_slice]
      exact Nat.le_trans (Nat.min_le_left ..) (Limits.capped_le ..)
  submitRead := by
    rintro fd t offset len ⟨hlimits, next, hopen⟩ _ hlen
    obtain ⟨ticket, st1, st2, hs, hwait, hopen'⟩ :=
      hopen.submitRead rfl offset (Limits.capped limits.maxRead len + limits.extraRead)
    refine ⟨ticket, _, { t with inner := st1 }, { t with inner := st2 }, ?_, ?_,
      ⟨hlimits, next, hopen'⟩, capped_piece hcap hlen limits.extraRead⟩
    · show t.pass (ObjectStore.submitRead fd offset
        (Limits.capped t.limits.maxRead len + t.limits.extraRead)) = _
      unfold Throttled.pass
      rw [hlimits, hs]
    · show Throttled.pass (ObjectStore.await ticket) _ = _
      unfold Throttled.pass
      rw [hwait]
  close := by
    rintro fd t ⟨_, next, hopen⟩
    obtain ⟨st, hc, _⟩ := hopen.close
    refine ⟨{ t with inner := st }, ?_⟩
    show t.pass (MemoryStore.close fd) = _
    unfold Throttled.pass
    rw [hc]

end MemoryStore

namespace Copy

/-- Reads bring two bytes at most, and one more than asked when they are handed in. -/
def shortReads : Limits := { maxRead := some 2, extraRead := 1 }

theorem shortReads_some (cap : Nat) (h : shortReads.maxRead = some cap) : 0 < cap := by
  cases h
  decide

/-- A store with three bytes under one name. -/
def threeBytes : Throttled MemoryStore :=
  { inner := ({ delivery := .deferred } : MemoryStore).insert "log" [1, 2, 3], limits := shortReads }

theorem a_comparison_is_exact_over_short_reads :
    Front.ofSettings { bufferSize := 4 } = .ok { settings := { bufferSize := 4 } } ∧
      3 + 5 ≤ Offset.last ∧
      (∃ summary st', verify { settings := { bufferSize := 4 } }
        { dest := "log", chunk := 5, aio := true, chunk_pos := by decide } [1, 2, 3] threeBytes =
          (.ok summary, st')) ∧
      ¬ ∃ summary st', verify { settings := { bufferSize := 4 } }
        { dest := "log", chunk := 5, aio := true, chunk_pos := by decide } [1, 2, 4] threeBytes =
          (.ok summary, st') := by
  have hfront : Front.ofSettings { bufferSize := 4 } = .ok { settings := { bufferSize := 4 } } := rfl
  have hshelf := (MemoryStore.shelf_empty .deferred).insert "log" [1, 2, 3]
  have hobject : Function.update (fun _ => none) "log" (some ([1, 2, 3] : Bytes)) "log" =
      some [1, 2, 3] := Function.update_self ..
  let O := MemoryStore.steady _ shortReads shortReads_some hobject
  have hrests : O.Rests threeBytes := ⟨rfl, _, hshelf⟩
  refine ⟨hfront, by decide, ?_, ?_⟩
  · exact (a_comparison_is_exact O hfront hrests [1, 2, 3] (by decide)).mpr rfl
  · intro hok
    have heq := (a_comparison_is_exact O hfront hrests [1, 2, 4] (by decide)).mp hok
    exact absurd heq (by decide)

end Copy

end StagedFiles
