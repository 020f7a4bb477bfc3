-- A vectored read as the caller sees it: a list of places in the file, each with
-- a buffer that the bytes land in. The groups are served in order, each out of
-- the buffers that stand at its turn. What lands is what `RawFile.readv` brings
-- for the same extents.
import StagedFiles.Proofs.GroupCuts
import StagedFiles.Proofs.RawTransfers

namespace StagedFiles

/-- A buffer to fill from an offset on. -/
structure IoVec where
  offset : Nat
  buffer : Bytes
  deriving DecidableEq, Repr

namespace IoVec

/-- The bytes it asks for. -/
def extent (v : IoVec) : Extent := ⟨v.offset, v.buffer.length⟩

/-- The buffer with bytes over its head; the rest stands. -/
def fill (v : IoVec) (bytes : Bytes) : IoVec :=
  { v with buffer := bytes ++ v.buffer.drop bytes.length }

@[simp] theorem extent_start (v : IoVec) : v.extent.start = v.offset := rfl

@[simp] theorem extent_len (v : IoVec) : v.extent.len = v.buffer.length := rfl

@[simp] theorem fill_nil (v : IoVec) : v.fill [] = v := rfl

end IoVec

namespace RawFile

variable {σ : Type}

section Calls

variable [ObjectStore σ]

/-! ## Filling buffers -/

/-- Each buffer with a read of its own, but for the empty ones. What landed before a
failure stays. -/
def fillEach (fd : Fd) (st : σ) : List IoVec → Except Failure Nat × List IoVec × σ
  | [] => (.ok 0, [], st)
  | v :: iov =>
    if v.buffer.isEmpty then
      let (r, iov, st) := fillEach fd st iov
      (r, v :: iov, st)
    else
      match ObjectStore.readAt fd v.offset v.buffer.length st with
      | (.error torn, st) => (.error torn.why, v.fill torn.landed :: iov, st)
      | (.ok bytes, st) =>
        let (r, iov, st) := fillEach fd st iov
        (r.map (bytes.length + ·), v.fill bytes :: iov, st)

/-- The bytes of a span to the buffers of its extents, one after another. The span may
have been cut short anywhere. -/
def fillFrom (low : Nat) (bytes : Bytes) : List Extent → List IoVec → Nat × List IoVec
  | e :: group, v :: iov =>
    let start := e.start - low
    let stop := min (start + e.len) bytes.length
    let (n, iov) := fillFrom low bytes group iov
    if start < stop then (stop - start + n, v.fill (Bytes.slice bytes start (stop - start)) :: iov)
    else (n, v :: iov)
  | _, iov => (0, iov)

/-- The buffers of one group, with one read over its span or, past the greatest span, with
a read for each buffer. -/
def fillGroup (fd : Fd) (group : List Extent) (iov : List IoVec) (st : σ) :
    Except Failure Nat × List IoVec × σ :=
  let low := Extent.lowest group
  let span := Extent.span group
  if maxGroupSpan < span then fillEach fd st iov
  else
    let (read, st) := if span = 0 then (.ok [], st) else ObjectStore.readAt fd low span st
    match read with
    | .error torn => (.error torn.why, iov, st)
    | .ok bytes =>
      let (n, iov) := fillFrom low bytes group iov
      (.ok n, iov, st)

/-- All groups in order, each with as many buffers as it has extents. -/
def fillGroups (fd : Fd) (st : σ) :
    List (List Extent) → List IoVec → Except Failure Nat × List IoVec × σ
  | [], iov => (.ok 0, iov, st)
  | group :: groups, iov =>
    match fillGroup fd group (iov.take group.length) st with
    | (.error e, done, st) => (.error e, done ++ iov.drop group.length, st)
    | (.ok n, done, st) =>
      let (r, rest, st) := fillGroups fd st groups (iov.drop group.length)
      (r.map (n + ·), done ++ rest, st)

/-- The count of the bytes that landed, and the buffers after the call. -/
def readInto (f : RawFile) (iov : List IoVec) (st : σ) :
    Except Failure Nat × List IoVec × σ :=
  let extents := iov.map IoVec.extent
  match f.requireFd, checkExtents extents with
  | .error e, _ => (.error e, iov, st)
  | .ok _, .error e => (.error e, iov, st)
  | .ok fd, .ok () => fillGroups fd st (f.grouping.groups extents) iov

end Calls

/-! ## What lands is what is read -/

/-- A read of pieces, and the same read into buffers: every piece stands at the head of
its buffer and the count is that of all of them. -/
inductive Fills (iov : List IoVec) :
    Except Failure (List Bytes) × σ → Except Failure Nat × List IoVec × σ → Prop where
  | ok {pieces : List Bytes} {st : σ} : pieces.length = iov.length →
      Fills iov (.ok pieces, st)
        (.ok pieces.flatten.length, List.zipWith IoVec.fill iov pieces, st)
  | error {e : Failure} {iov' : List IoVec} {st : σ} :
      Fills iov (.error e, st) (.error e, iov', st)

/-- Some buffers and the others behind them. -/
theorem Fills.append {iov iov' : List IoVec} {pieces : List Bytes}
    {read : Except Failure (List Bytes) × σ} {filled : Except Failure Nat × List IoVec × σ}
    (hlen : pieces.length = iov.length) (h : Fills iov' read filled) :
    Fills (iov ++ iov')
      (match read with
        | (.error f, st) => (.error f, st)
        | (.ok rest, st) => (.ok (pieces ++ rest), st))
      (filled.1.map (pieces.flatten.length + ·), List.zipWith IoVec.fill iov pieces ++ filled.2.1,
        filled.2.2) := by
  cases h with
  | error => exact .error
  | @ok rest st hrest =>
    have hall : (pieces ++ rest).length = (iov ++ iov').length := by
      rw [List.length_append, List.length_append, hlen, hrest]
    have hok : Fills (iov ++ iov') (.ok (pieces ++ rest), st) _ := .ok hall
    rw [List.flatten_append, List.length_append, List.zipWith_append hlen.symm] at hok
    exact hok

/-- One buffer in front of others. -/
theorem Fills.cons {iov : List IoVec} {read : Except Failure (List Bytes) × σ}
    {filled : Except Failure Nat × List IoVec × σ} (h : Fills iov read filled) (v : IoVec)
    (piece : Bytes) :
    Fills (v :: iov)
      (match read with
        | (.error f, st) => (.error f, st)
        | (.ok rest, st) => (.ok (piece :: rest), st))
      (filled.1.map (piece.length + ·), v.fill piece :: filled.2.1, filled.2.2) := by
  have hone : [piece].length = [v].length := rfl
  have hall := h.append hone
  rwa [List.flatten_singleton] at hall

variable [ObjectStore σ]

/-- Nothing in front of a count. -/
theorem map_zero_add (r : Except Failure Nat) : r.map (0 + ·) = r := by
  cases r with
  | error e => rfl
  | ok n => exact congrArg Except.ok (Nat.zero_add n)

theorem fillEach_fills (fd : Fd) (st : σ) (iov : List IoVec) :
    Fills iov (readEach fd st (iov.map IoVec.extent)) (fillEach fd st iov) := by
  induction iov generalizing st with
  | nil => exact .ok rfl
  | cons v iov ih =>
    have hnext := fun bytes st => (ih st).cons v bytes
    rw [List.map_cons, readEach_cons]
    unfold fillEach readExtent
    rw [IoVec.extent_len, IoVec.extent_start]
    by_cases hempty : v.buffer = []
    · have hnone := hnext [] st
      rw [List.length_nil, map_zero_add] at hnone
      rw [hempty]
      exact hnone
    · have hlen : v.buffer.length ≠ 0 := fun h => hempty (List.length_eq_zero_iff.mp h)
      rw [if_neg hlen, if_neg (by simpa using hempty)]
      rcases ObjectStore.readAt fd v.offset v.buffer.length st with ⟨torn | bytes, st⟩
      · exact .error
      · exact hnext bytes st

/-- What the loop over a group takes out of the span is what `scatter` holds. -/
theorem fillFrom_eq (low : Nat) (bytes : Bytes) (group : List Extent) (iov : List IoVec)
    (hlen : group.length = iov.length) :
    fillFrom low bytes group iov =
      ((scatter low bytes group).flatten.length,
        List.zipWith IoVec.fill iov (scatter low bytes group)) := by
  induction group generalizing iov with
  | nil =>
    obtain rfl := List.length_eq_zero_iff.mp hlen.symm
    rfl
  | cons e group ih =>
    cases iov with
    | nil => cases hlen
    | cons v iov =>
      have hcut : Bytes.slice bytes (e.start - low) e.len =
          Bytes.slice bytes (e.start - low)
            (min (e.start - low + e.len) bytes.length - (e.start - low)) := by
        unfold Bytes.slice
        rw [List.take_eq_take_iff, List.length_drop]
        omega
      unfold fillFrom
      rw [ih iov (Nat.succ.inj hlen)]
      have hscatter : scatter low bytes (e :: group) =
          Bytes.slice bytes (e.start - low) e.len :: scatter low bytes group := rfl
      rw [hscatter, List.zipWith_cons_cons, List.flatten_cons, List.length_append, hcut,
        Bytes.length_slice]
      dsimp only
      split
      · rename_i hsome
        have hcount : min (min (e.start - low + e.len) bytes.length - (e.start - low))
            (bytes.length - (e.start - low)) =
              min (e.start - low + e.len) bytes.length - (e.start - low) := by omega
        rw [hcount]
      · rename_i hnone
        have hzero : min (e.start - low + e.len) bytes.length - (e.start - low) = 0 := by omega
        rw [hzero, Nat.zero_min, Nat.zero_add]
        unfold Bytes.slice
        rw [List.take_zero, IoVec.fill_nil]

theorem fillGroup_fills (fd : Fd) (st : σ) (iov : List IoVec) :
    Fills iov (readGroup fd (iov.map IoVec.extent) st)
      (fillGroup fd (iov.map IoVec.extent) iov st) := by
  have hlen : (iov.map IoVec.extent).length = iov.length := List.length_map ..
  have hspan : ∀ low bytes (st : σ),
      Fills iov (.ok (scatter low bytes (iov.map IoVec.extent)), st)
        (.ok (fillFrom low bytes (iov.map IoVec.extent) iov).1,
          (fillFrom low bytes (iov.map IoVec.extent) iov).2, st) := by
    intro low bytes st
    rw [fillFrom_eq low bytes _ _ hlen]
    exact .ok (by rw [scatter, List.length_map, hlen])
  unfold readGroup fillGroup
  dsimp only
  split
  · exact fillEach_fills fd st iov
  · split
    · exact hspan _ [] st
    · rcases ObjectStore.readAt fd (Extent.lowest (iov.map IoVec.extent))
          (Extent.span (iov.map IoVec.extent)) st with ⟨torn | bytes, st⟩
      · exact .error
      · exact hspan _ bytes st

/-- The first group has the extents of as many buffers, and the other groups have those of
the rest. -/
theorem buffers_of_first_group {group : List Extent} {groups : List (List Extent)}
    {iov : List IoVec} (hflat : (group :: groups).flatten = iov.map IoVec.extent) :
    group = (iov.take group.length).map IoVec.extent ∧
      groups.flatten = (iov.drop group.length).map IoVec.extent := by
  rw [List.map_take, List.map_drop, ← hflat, List.flatten_cons]
  exact ⟨(List.take_left ..).symm, (List.drop_left ..).symm⟩

/-- The groups take the buffers in their order. -/
theorem fillGroups_fills (fd : Fd) (st : σ) {groups : List (List Extent)} {iov : List IoVec}
    (hflat : groups.flatten = iov.map IoVec.extent) :
    Fills iov (readGroups fd st groups) (fillGroups fd st groups iov) := by
  induction groups generalizing iov st with
  | nil =>
    obtain rfl := List.map_eq_nil_iff.mp hflat.symm
    exact .ok rfl
  | cons group groups ih =>
    obtain ⟨hgroup, hrest⟩ := buffers_of_first_group hflat
    have hfirst := fillGroup_fills fd st (iov.take group.length)
    rw [← hgroup] at hfirst
    unfold readGroups fillGroups
    generalize readGroup fd group st = read at hfirst
    generalize fillGroup fd group (iov.take group.length) st = filled at hfirst
    cases hfirst with
    | error => exact .error
    | @ok pieces st hlen =>
      have hall := (ih st hrest).append hlen
      rw [List.take_append_drop] at hall
      exact hall

/-- A vectored read into buffers is the vectored read of their extents. -/
theorem readInto_fills (f : RawFile) (st : σ) (iov : List IoVec) :
    Fills iov (f.readv (iov.map IoVec.extent) st) (f.readInto iov st) := by
  unfold readv readInto
  dsimp only
  rcases f.requireFd with e | fd
  · exact .error
  · rcases checkExtents (iov.map IoVec.extent) with e | ⟨⟩
    · exact .error
    · exact fillGroups_fills fd st (Grouping.cuts_groups f.grouping _).flatten_eq

end RawFile

end StagedFiles
