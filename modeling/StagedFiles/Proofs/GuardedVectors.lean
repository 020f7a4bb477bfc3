-- Vectored reads, guarded: the cuts between the extents, the span of a group and the
-- allocation of its bytes, the way of each extent out of the span into its buffer, and the
-- running counts. Where each range ends at an offset and the buffers of a request can be
-- allocated together, nothing stops them.
import StagedFiles.Proofs.GuardedClients
import StagedFiles.Proofs.VectoredReads

namespace StagedFiles

/-- Ranges that were checked end at offsets. -/
theorem RawFile.fits_of_checkExtents {es : List Extent} (h : checkExtents es = .ok ()) :
    ∀ e ∈ es, e.Fits := by
  intro e he
  by_contra hpast
  obtain ⟨_, _, _, hcheck⟩ := checkExtents_of_not_fits ⟨e, he, hpast⟩
  rw [h] at hcheck
  cases hcheck

namespace Guarded

/-! ## Cuts -/

/-- The bytes of some extents, behind others that were counted. -/
def bytes (total : Nat) : List Extent → Guarded Nat
  | [] => return total
  | e :: es => do
    let total ← plus total e.len
    bytes total es

def accepts (minSpan maxSpan : Nat) (minDensity : Float) (group : List Extent) (next : Extent) :
    Guarded Bool := do
  let span ← minus (max (Extent.highest group) next.stop) (min (Extent.lowest group) next.start)
  if span < minSpan then return true
  else if maxSpan ≤ span then return false
  else if span = 0 then return true
  else
    let held ← bytes 0 group
    let all ← plus held next.len
    return decide (minDensity < Float.ofNat all / Float.ofNat span)

def grow (accept : List Extent → Extent → Guarded Bool) (group : List Extent) :
    List Extent → Guarded (List (List Extent))
  | [] => return [group]
  | e :: rest => do
    if ← accept group e then grow accept (group ++ [e]) rest
    else
      let groups ← grow accept [e] rest
      return group :: groups

def groups (policy : Grouping) (es : List Extent) : Guarded (List (List Extent)) :=
  match policy with
  | .fixedCount _ => return policy.groups es
  | .density minSpan maxSpan minDensity =>
    match es with
    | [] => return []
    | e :: rest => grow (accepts minSpan maxSpan minDensity) [e] rest

theorem bytes_eq {total : Nat} {es : List Extent} (h : total + Extent.bytes es ≤ Offset.last) :
    bytes total es = .ok (total + Extent.bytes es) := by
  induction es generalizing total with
  | nil => rfl
  | cons e es ih =>
    rw [Extent.bytes_cons] at h ⊢
    unfold bytes
    rw [plus_of_le (by omega), ok_bind, ih (by omega), Nat.add_assoc]

theorem accepts_eq (minSpan maxSpan : Nat) (minDensity : Float) {group : List Extent}
    {next : Extent} (hnext : next.Fits) (hbytes : Extent.bytes group + next.len ≤ Offset.last) :
    accepts minSpan maxSpan minDensity group next =
      .ok (Grouping.accepts minSpan maxSpan minDensity group next) := by
  have hstop : next.start ≤ next.stop := by
    rw [Extent.stop_of_fits hnext]
    exact Nat.le_add_right ..
  have hspan : min (Extent.lowest group) next.start ≤ max (Extent.highest group) next.stop :=
    (Nat.min_le_right ..).trans (hstop.trans (Nat.le_max_right ..))
  unfold accepts Grouping.accepts
  rw [minus_of_le hspan, ok_bind]
  dsimp only
  split
  · rfl
  split
  · rfl
  split
  · rfl
  · rw [bytes_eq (by omega), ok_bind, Nat.zero_add, plus_of_le hbytes]
    rfl

theorem grow_eq {accept : List Extent → Extent → Bool}
    {guarded : List Extent → Extent → Guarded Bool} {group es : List Extent}
    (haccept : ∀ group next, next.Fits → Extent.bytes group + next.len ≤ Offset.last →
      guarded group next = .ok (accept group next))
    (hfits : ∀ e ∈ es, e.Fits) (hbytes : Extent.bytes group + Extent.bytes es ≤ Offset.last) :
    grow guarded group es = .ok (Grouping.grow accept group es) := by
  induction es generalizing group with
  | nil => rfl
  | cons e es ih =>
    have hrest : ∀ x ∈ es, x.Fits := fun x hx => hfits x (List.mem_cons_of_mem _ hx)
    rw [Extent.bytes_cons] at hbytes
    unfold grow Grouping.grow
    rw [haccept group e (hfits e (List.mem_cons_self ..)) (by omega), ok_bind]
    split
    · refine ih hrest ?_
      rw [Extent.bytes_append, Extent.bytes_cons, Extent.bytes_nil]
      omega
    · rw [ih hrest (by rw [Extent.bytes_cons, Extent.bytes_nil]; omega)]
      rfl

theorem groups_eq (policy : Grouping) {es : List Extent} (hfits : ∀ e ∈ es, e.Fits)
    (hbytes : Extent.bytes es ≤ Offset.last) : groups policy es = .ok (policy.groups es) := by
  unfold groups Grouping.groups
  cases policy with
  | fixedCount n => rfl
  | density minSpan maxSpan minDensity =>
    cases es with
    | nil => rfl
    | cons e es =>
      refine grow_eq (fun _ _ => accepts_eq minSpan maxSpan minDensity)
        (fun x hx => hfits x (List.mem_cons_of_mem _ hx)) ?_
      rw [Extent.bytes_cons] at hbytes
      rw [Extent.bytes_cons, Extent.bytes_nil]
      omega

/-! ## Bytes that land -/

section Fills

/-- The bytes that buffers have room for. -/
def room (iov : List IoVec) : Nat := Extent.bytes (iov.map IoVec.extent)

theorem room_cons (v : IoVec) (iov : List IoVec) : room (v :: iov) = v.buffer.length + room iov := rfl

theorem room_take_drop (n : Nat) (iov : List IoVec) :
    room (iov.take n) + room (iov.drop n) = room iov := by
  unfold room
  rw [← Extent.bytes_append, ← List.map_append, List.take_append_drop]

variable {σ : Type}

/-- The count goes on behind bytes that landed before. -/
def behind (total : Nat) (filled : Except Failure Nat × List IoVec × σ) :
    Except Failure Nat × List IoVec × σ := (filled.1.map (total + ·), filled.2)

theorem behind_zero (filled : Except Failure Nat × List IoVec × σ) : behind 0 filled = filled :=
  Prod.ext (RawFile.map_zero_add filled.1) rfl

theorem map_behind (total n : Nat) (r : Except Failure Nat) :
    (r.map (n + ·)).map (total + ·) = r.map (total + n + ·) := by
  cases r with
  | error f => rfl
  | ok m => exact congrArg Except.ok (Nat.add_assoc ..).symm

variable [ObjectStore σ]

/-- The buffers one after another, with the count of the bytes that landed before. -/
def fillEach (fd : Fd) (st : σ) (total : Nat) :
    List IoVec → Guarded (Except Failure Nat × List IoVec × σ)
  | [] => return (.ok total, [], st)
  | v :: iov =>
    if v.buffer.isEmpty then do
      let (r, iov, st) ← fillEach fd st total iov
      return (r, v :: iov, st)
    else
      match ObjectStore.readAt fd v.offset v.buffer.length st with
      | (.error torn, st) => return (.error torn.why, v.fill torn.landed :: iov, st)
      | (.ok bytes, st) => do
        let total ← plus total bytes.length
        let (r, iov, st) ← fillEach fd st total iov
        return (r, v.fill bytes :: iov, st)

/-- The bytes were read into a run of `span`. -/
def fillFrom (low : Nat) (bytes : Bytes) (span total : Nat) :
    List Extent → List IoVec → Guarded (Nat × List IoVec)
  | e :: group, v :: iov => do
    let start ← minus e.start low
    let whole ← plus start e.len
    let stop := min whole bytes.length
    if start < stop then
      let n ← minus stop start
      copy ⟨0, n, v.buffer.length⟩ ⟨start, stop, span⟩
      let total ← plus total n
      let (total, iov) ← fillFrom low bytes span total group iov
      return (total, v.fill (Bytes.slice bytes start n) :: iov)
    else
      let (total, iov) ← fillFrom low bytes span total group iov
      return (total, v :: iov)
  | _, iov => return (total, iov)

def fillGroup (fd : Fd) (group : List Extent) (iov : List IoVec) (st : σ) :
    Guarded (Except Failure Nat × List IoVec × σ) := do
  let low := Extent.lowest group
  let span ← minus (Extent.highest group) low
  if RawFile.maxGroupSpan < span then fillEach fd st 0 iov
  else
    allocate span
    let (read, st) := if span = 0 then (.ok [], st) else ObjectStore.readAt fd low span st
    match read with
    | .error torn => return (.error torn.why, iov, st)
    | .ok bytes =>
      let (n, iov) ← fillFrom low bytes span 0 group iov
      return (.ok n, iov, st)

/-- The groups in order. Of `count` buffers, those before the `next` have had their turn. -/
def fillGroups (fd : Fd) (st : σ) (count next total : Nat) :
    List (List Extent) → List IoVec → Guarded (Except Failure Nat × List IoVec × σ)
  | [], iov => return (.ok total, iov, st)
  | group :: groups, iov => do
    let stop ← plus next group.length
    slice ⟨next, stop, count⟩
    match ← fillGroup fd group (iov.take group.length) st with
    | (.error e, done, st) => return (.error e, done ++ iov.drop group.length, st)
    | (.ok n, done, st) =>
      let total ← plus total n
      let (r, rest, st) ← fillGroups fd st count stop total groups (iov.drop group.length)
      return (r, done ++ rest, st)

def readInto (f : RawFile) (iov : List IoVec) (st : σ) :
    Guarded (Except Failure Nat × List IoVec × σ) :=
  let extents := iov.map IoVec.extent
  match f.requireFd, RawFile.checkExtents extents with
  | .error e, _ => return (.error e, iov, st)
  | .ok _, .error e => return (.error e, iov, st)
  | .ok fd, .ok () => do
    let groups ← groups f.grouping extents
    fillGroups fd st iov.length 0 0 groups iov

/-- No more has landed than there is room for, in a store that is as it should be. -/
structure Lands (M : Modest σ) (iov : List IoVec)
    (filled : Except Failure Nat × List IoVec × σ) : Prop where
  count : ∀ n, filled.1 = .ok n → n ≤ room iov
  fits : M.Fits filled.2.2

theorem fillEach_lands (M : Modest σ) {st : σ} (hst : M.Fits st) (fd : Fd) (iov : List IoVec) :
    Lands M iov (RawFile.fillEach fd st iov) := by
  induction iov generalizing st with
  | nil =>
    refine ⟨fun n hn => ?_, hst⟩
    cases hn
    exact Nat.le_refl 0
  | cons v iov ih =>
    unfold RawFile.fillEach
    split
    · obtain ⟨hcount, hfits⟩ := ih hst
      exact ⟨fun n hn => (hcount n hn).trans (Nat.le_add_left ..), hfits⟩
    · have hread : M.Fits (ObjectStore.readAt fd v.offset v.buffer.length st).2 :=
        M.keeps (.readAt fd v.offset v.buffer.length) trivial hst
      rcases hr : ObjectStore.readAt fd v.offset v.buffer.length st with ⟨torn | bytes, st1⟩
      · rw [hr] at hread
        refine ⟨fun n hn => ?_, hread⟩
        cases hn
      · rw [hr] at hread
        obtain ⟨hcount, hfits⟩ := ih hread
        refine ⟨fun n hn => ?_, hfits⟩
        have hbytes := M.readAt_le hst hr
        dsimp only at hn
        rcases hrest : (RawFile.fillEach fd st1 iov).1 with f | m
        · rw [hrest] at hn
          cases hn
        · have hm := hcount m hrest
          rw [hrest] at hn
          cases hn
          rw [room_cons]
          exact Nat.add_le_add hbytes hm

theorem fillEach_eq (M : Modest σ) {fd : Fd} {st : σ} {total : Nat} {iov : List IoVec}
    (hst : M.Fits st) (h : total + room iov ≤ Offset.last) :
    fillEach fd st total iov = .ok (behind total (RawFile.fillEach fd st iov)) := by
  induction iov generalizing st total with
  | nil => rfl
  | cons v iov ih =>
    rw [room_cons] at h
    unfold fillEach RawFile.fillEach
    split
    · rw [ih hst (by omega)]
      rfl
    · have hread : M.Fits (ObjectStore.readAt fd v.offset v.buffer.length st).2 :=
        M.keeps (.readAt fd v.offset v.buffer.length) trivial hst
      rcases hr : ObjectStore.readAt fd v.offset v.buffer.length st with ⟨torn | bytes, st1⟩
      · rfl
      · rw [hr] at hread
        have hbytes := M.readAt_le hst hr
        dsimp only
        rw [plus_of_le (by omega), ok_bind, ih hread (by omega), ok_bind]
        unfold behind
        dsimp only
        rw [map_behind]
        rfl

theorem fillFrom_le (low : Nat) (bytes : Bytes) (iov : List IoVec) :
    (RawFile.fillFrom low bytes (iov.map IoVec.extent) iov).1 ≤ room iov := by
  induction iov with
  | nil => exact Nat.le_refl 0
  | cons v iov ih =>
    rw [room_cons, List.map_cons]
    unfold RawFile.fillFrom
    dsimp only
    split
    · rw [IoVec.extent_len]
      dsimp only
      omega
    · exact ih.trans (Nat.le_add_left ..)

theorem fillFrom_eq {low span total : Nat} {bytes : Bytes} {iov : List IoVec}
    (hlow : ∀ v ∈ iov, low ≤ v.offset) (hspan : ∀ v ∈ iov, v.offset + v.buffer.length ≤ low + span)
    (hlast : span ≤ Offset.last) (hbytes : bytes.length ≤ span)
    (h : total + room iov ≤ Offset.last) :
    fillFrom low bytes span total (iov.map IoVec.extent) iov =
      .ok (total + (RawFile.fillFrom low bytes (iov.map IoVec.extent) iov).1,
        (RawFile.fillFrom low bytes (iov.map IoVec.extent) iov).2) := by
  induction iov generalizing total with
  | nil => rfl
  | cons v iov ih =>
    have hv := hlow v (List.mem_cons_self ..)
    have hend := hspan v (List.mem_cons_self ..)
    have hrest : ∀ {total : Nat}, total + room iov ≤ Offset.last →
        fillFrom low bytes span total (iov.map IoVec.extent) iov = _ :=
      ih (fun w hw => hlow w (List.mem_cons_of_mem _ hw))
        (fun w hw => hspan w (List.mem_cons_of_mem _ hw))
    rw [room_cons] at h
    rw [List.map_cons]
    unfold fillFrom RawFile.fillFrom
    rw [IoVec.extent_start, IoVec.extent_len, minus_of_le hv, ok_bind, plus_of_le (by omega), ok_bind]
    dsimp only
    split
    · rename_i hsome
      rw [minus_of_le (Nat.le_of_lt hsome), ok_bind, copy_of_slices, ok_bind,
        plus_of_le (by omega), ok_bind, hrest (by omega), ok_bind, Nat.add_assoc]
      · rfl
      · exact slice_of_le (Nat.zero_le _) (by dsimp only; omega)
      · exact slice_of_le (Nat.le_of_lt hsome) (by dsimp only; omega)
      · rfl
    · rw [hrest (by omega)]
      rfl

/-- What is read over a span, which may be empty. -/
theorem span_lands (M : Modest σ) {st : σ} (hst : M.Fits st) (fd : Fd) (low span : Nat) :
    M.Fits (if span = 0 then (.ok [], st) else ObjectStore.readAt fd low span st).2 ∧
      ∀ bytes, (if span = 0 then (.ok [], st) else ObjectStore.readAt fd low span st).1 =
        .ok bytes → bytes.length ≤ span := by
  split
  · refine ⟨hst, fun bytes hbytes => ?_⟩
    cases hbytes
    exact Nat.zero_le _
  · exact ⟨M.keeps (.readAt fd low span) trivial hst,
      fun bytes hbytes => M.readAt_le hst (Prod.ext hbytes rfl)⟩

theorem fillGroup_lands (M : Modest σ) {st : σ} (hst : M.Fits st) (fd : Fd) (iov : List IoVec) :
    Lands M iov (RawFile.fillGroup fd (iov.map IoVec.extent) iov st) := by
  unfold RawFile.fillGroup
  dsimp only
  split
  · exact fillEach_lands M hst fd iov
  · obtain ⟨hfits, -⟩ := span_lands M hst fd (Extent.lowest (iov.map IoVec.extent))
      (Extent.span (iov.map IoVec.extent))
    generalize (if Extent.span (iov.map IoVec.extent) = 0 then (.ok [], st) else
      ObjectStore.readAt fd (Extent.lowest (iov.map IoVec.extent))
        (Extent.span (iov.map IoVec.extent)) st) = read at hfits
    rcases read with ⟨torn | bytes, st1⟩
    · refine ⟨fun n hn => ?_, hfits⟩
      cases hn
    · refine ⟨fun n hn => ?_, hfits⟩
      cases hn
      exact fillFrom_le ..

/-- A group of ranges that end at offsets has an end, and it is not below the start. -/
theorem lowest_le_highest {es : List Extent} (hfits : ∀ e ∈ es, e.Fits) :
    Extent.lowest es ≤ Extent.highest es := by
  cases es with
  | nil => exact Nat.le_refl 0
  | cons e es =>
    have hmem : e ∈ e :: es := List.mem_cons_self ..
    have hstop := Extent.stop_of_fits (hfits e hmem)
    calc Extent.lowest (e :: es) ≤ e.start := Extent.lowest_le hmem
      _ ≤ e.stop := by
        rw [hstop]
        exact Nat.le_add_right ..
      _ ≤ Extent.highest (e :: es) := Extent.stop_le_highest hmem

theorem fillGroup_eq (M : Modest σ) {fd : Fd} {st : σ} {iov : List IoVec} (hst : M.Fits st)
    (hfits : ∀ v ∈ iov, v.extent.Fits) (h : room iov ≤ Offset.last) :
    fillGroup fd (iov.map IoVec.extent) iov st =
      .ok (RawFile.fillGroup fd (iov.map IoVec.extent) iov st) := by
  have hgroup : ∀ e ∈ iov.map IoVec.extent, e.Fits := List.forall_mem_map.mpr hfits
  have hmax : RawFile.maxGroupSpan ≤ maxAllocation := by decide
  have hlast : maxAllocation ≤ Offset.last := by decide
  have hspan : minus (Extent.highest (iov.map IoVec.extent)) (Extent.lowest (iov.map IoVec.extent)) =
      .ok (Extent.span (iov.map IoVec.extent)) := minus_of_le (lowest_le_highest hgroup)
  unfold fillGroup RawFile.fillGroup
  dsimp only
  rw [hspan, ok_bind]
  split
  · rw [fillEach_eq M hst (by omega), behind_zero]
  · rename_i hsmall
    have hroom := Nat.le_of_not_lt hsmall
    obtain ⟨-, hread⟩ := span_lands M hst fd (Extent.lowest (iov.map IoVec.extent))
      (Extent.span (iov.map IoVec.extent))
    rw [allocate_of_le (hroom.trans hmax), ok_bind]
    generalize (if Extent.span (iov.map IoVec.extent) = 0 then (.ok [], st) else
      ObjectStore.readAt fd (Extent.lowest (iov.map IoVec.extent))
        (Extent.span (iov.map IoVec.extent)) st) = read at hread
    rcases read with ⟨torn | bytes, st1⟩
    · rfl
    · dsimp only
      rw [fillFrom_eq _ _ (hroom.trans (hmax.trans hlast)) (hread bytes rfl) (by omega), ok_bind,
        Nat.zero_add]
      · rfl
      · intro v hv
        exact Extent.lowest_le (List.mem_map_of_mem hv)
      · intro v hv
        exact Extent.within_span (List.mem_map_of_mem hv) (hfits v hv)

theorem fillGroups_eq (M : Modest σ) {fd : Fd} {st : σ} {count next total : Nat}
    {groups : List (List Extent)} {iov : List IoVec} (hst : M.Fits st)
    (hflat : groups.flatten = iov.map IoVec.extent) (hfits : ∀ v ∈ iov, v.extent.Fits)
    (hcount : next + iov.length = count) (hlast : count ≤ Offset.last)
    (h : total + room iov ≤ Offset.last) :
    fillGroups fd st count next total groups iov =
      .ok (behind total (RawFile.fillGroups fd st groups iov)) := by
  induction groups generalizing iov st next total with
  | nil => rfl
  | cons group groups ih =>
    obtain ⟨hgroup, hrest⟩ := RawFile.buffers_of_first_group hflat
    have hroom := room_take_drop group.length iov
    have hlen : group.length ≤ iov.length := by
      have := congrArg List.length hgroup
      rw [List.length_map, List.length_take] at this
      omega
    have hparts : ∀ v ∈ iov.take group.length, v.extent.Fits := fun v hv =>
      hfits v (List.mem_of_mem_take hv)
    have hlands := fillGroup_lands M hst fd (iov.take group.length)
    have hfilled : fillGroup fd _ (iov.take group.length) st = _ :=
      fillGroup_eq M hst hparts (by omega)
    rw [← hgroup] at hlands hfilled
    unfold fillGroups RawFile.fillGroups
    rw [plus_of_le (by omega), ok_bind, slice_of_le (Nat.le_add_right ..) (by dsimp only; omega),
      ok_bind, hfilled, ok_bind]
    generalize RawFile.fillGroup fd group (iov.take group.length) st = filled at hlands
    rcases filled with ⟨f | n, done, st1⟩
    · rfl
    · have hn := hlands.count n rfl
      dsimp only
      rw [plus_of_le (by omega), ok_bind, ih hlands.fits hrest
        (fun v hv => hfits v (List.mem_of_mem_drop hv)) (by rw [List.length_drop]; omega) (by omega),
        ok_bind]
      unfold behind
      dsimp only
      rw [map_behind]
      rfl

theorem readInto_eq (M : Modest σ) (f : RawFile) {st : σ} {iov : List IoVec} (hst : M.Fits st)
    (hcount : iov.length ≤ maxAllocation) (hroom : room iov ≤ maxAllocation) :
    readInto f iov st = .ok (f.readInto iov st) := by
  have hlast : maxAllocation ≤ Offset.last := by decide
  unfold readInto RawFile.readInto
  dsimp only
  rcases f.requireFd with e | fd
  · rfl
  rcases hcheck : RawFile.checkExtents (iov.map IoVec.extent) with e | ⟨⟩
  · rfl
  have hfits := RawFile.fits_of_checkExtents hcheck
  have hcuts := (Grouping.cuts_groups f.grouping (iov.map IoVec.extent)).flatten_eq
  have hgroups : groups f.grouping (iov.map IoVec.extent) = _ :=
    groups_eq f.grouping hfits (hroom.trans hlast)
  dsimp only
  rw [hgroups, ok_bind, fillGroups_eq M hst hcuts (List.forall_mem_map.mp hfits) (Nat.zero_add _)
    (hcount.trans hlast) (by omega), behind_zero]

end Fills

end Guarded

/-! ## Requests past the last offset -/

/-- It ends past the last offset. -/
def Act.Beyond : Act → Prop
  | .read offset len => Offset.last < offset + len
  | .write offset data => Offset.last < offset + data.length
  | .flush => False
  | .readAio offset len => Offset.last < offset + len
  | .writeAio offset data => Offset.last < offset + data.length
  | .deliver => False

/-- What is heard when it is refused. -/
def Act.refused (why : Failure) : Act → Reply
  | .read _ _ => .bytes (.error why)
  | .write _ _ => .count (.error why)
  | .flush => .count (.error why)
  | .readAio _ _ => .started (.error why)
  | .writeAio _ _ => .started (.error why)
  | .deliver => .nothing

variable {σ : Type} [ObjectStore σ]

/-- A stage refuses it, whatever is staged or out, and nothing changes. -/
theorem Client.step_beyond (c : Client σ) {act : Act} (h : act.Beyond) :
    ∃ why, c.step act = (act.refused (.invalidArgument why), c) := by
  cases act with
  | read offset len =>
    refine ⟨.pastLastOffset len offset, ?_⟩
    simp only [Client.step, Stage.read_beyond c.store h]
    rfl
  | write offset data =>
    refine ⟨.pastLastOffset data.length offset, ?_⟩
    simp only [Client.step, Stage.write_beyond c.store h]
    rfl
  | flush => exact h.elim
  | readAio offset len =>
    refine ⟨.pastLastOffset len offset, ?_⟩
    simp only [Client.step, Stage.readAio_beyond c.store h]
    rfl
  | writeAio offset data =>
    refine ⟨.pastLastOffset data.length offset, ?_⟩
    simp only [Client.step, Stage.writeAio_beyond c.store h]
    rfl
  | deliver => exact h.elim

namespace RawFile

variable {f : RawFile} {Why : Failure → Prop}

/-- It is refused with such a failure, and the store is not called. -/
structure RefusesBeyond (σ : Type) [ObjectStore σ] (f : RawFile) (Why : Failure → Prop) :
    Prop where
  read : ∀ (offset len : Nat) (st : σ), Offset.last < offset + len →
    ∃ why, Why why ∧ f.read offset len st = (.error why, st)
  write : ∀ (offset : Nat) (data : Bytes) (st : σ), Offset.last < offset + data.length →
    ∃ why, Why why ∧ f.write offset data st = (.error why, st)
  readAio : ∀ (offset len : Nat) (st : σ), Offset.last < offset + len →
    ∃ why, Why why ∧ f.readAio offset len st = (.error why, st)
  writeAio : ∀ (offset : Nat) (data : Bytes) (st : σ), Offset.last < offset + data.length →
    ∃ why, Why why ∧ f.writeAio offset data st = (.error why, st)
  readInto : ∀ (iov : List IoVec) (st : σ), (∃ v ∈ iov, ¬ v.extent.Fits) →
    ∃ why, Why why ∧ f.readInto iov st = (.error why, iov, st)

/-- The single transfers have one check. -/
theorem refusesBeyond_of_checked
    (hchecked : ∀ offset len, Offset.last < offset + len →
      ∃ why, Why why ∧ f.checked offset len = .error why)
    (hreadInto : ∀ (iov : List IoVec) (st : σ), (∃ v ∈ iov, ¬ v.extent.Fits) →
      ∃ why, Why why ∧ f.readInto iov st = (.error why, iov, st)) : RefusesBeyond σ f Why := by
  refine ⟨?_, ?_, ?_, ?_, hreadInto⟩
  · intro offset len st h
    obtain ⟨why, hwhy, hrefused⟩ := hchecked offset len h
    exact ⟨why, hwhy, by unfold RawFile.read; rw [hrefused]⟩
  · intro offset data st h
    obtain ⟨why, hwhy, hrefused⟩ := hchecked offset data.length h
    exact ⟨why, hwhy, by unfold RawFile.write; rw [hrefused]⟩
  · intro offset len st h
    obtain ⟨why, hwhy, hrefused⟩ := hchecked offset len h
    exact ⟨why, hwhy, by unfold RawFile.readAio; rw [hrefused]⟩
  · intro offset data st h
    obtain ⟨why, hwhy, hrefused⟩ := hchecked offset data.length h
    exact ⟨why, hwhy, by unfold RawFile.writeAio; rw [hrefused]⟩

theorem open_refusesBeyond {fd : Fd} (hfd : f.fd = some fd) :
    RefusesBeyond σ f fun why => ∃ what, why = .invalidArgument what := by
  refine refusesBeyond_of_checked ?_ ?_
  · intro offset len h
    have hend := Stage.rangeEnd_of_lt h
    refine ⟨_, ⟨.pastLastOffset len offset, rfl⟩, ?_⟩
    unfold checked
    rw [requireFd_eq hfd, hend]
  · rintro iov st ⟨v, hv, hpast⟩
    obtain ⟨e, -, -, hcheck⟩ :=
      checkExtents_of_not_fits ⟨v.extent, List.mem_map_of_mem hv, hpast⟩
    refine ⟨_, ⟨.pastLastOffset e.len e.start, rfl⟩, ?_⟩
    unfold readInto
    dsimp only
    rw [requireFd_eq hfd, hcheck]

/-- A file that is not open says so, and looks at no range. -/
theorem shut_refusesBeyond (hfd : f.fd = none) : RefusesBeyond σ f (· = .notOpen) := by
  have hshut : f.requireFd = .error .notOpen := by
    unfold requireFd
    rw [hfd]
  refine refusesBeyond_of_checked ?_ ?_
  · intro offset len _
    refine ⟨_, rfl, ?_⟩
    unfold checked
    rw [hshut]
  · intro iov st _
    refine ⟨_, rfl, ?_⟩
    unfold readInto
    dsimp only
    rw [hshut]

end RawFile

/-! ## No request is stopped -/

/-- Whatever came before, no request that can be allocated is stopped, neither on a stage nor
on a raw file. One that ends past the last offset is refused as an invalid argument before
anything happens, but for a raw file that is not open, which says so. -/
theorem no_request_is_stopped (M : Modest σ) :
    (∀ c : Client σ, Client.Arises M c → ∀ act : Act,
      (act.size ≤ maxAllocation → Guarded.step c act = .ok (c.step act)) ∧
        (act.Beyond → ∃ why, c.step act = (act.refused (.invalidArgument why), c))) ∧
    ∀ f : RawFile,
      (∀ (iov : List IoVec) (st : σ), M.Fits st → iov.length ≤ maxAllocation →
        Guarded.room iov ≤ maxAllocation →
        Guarded.readInto f iov st = .ok (f.readInto iov st)) ∧
      (∀ fd, f.fd = some fd →
        f.RefusesBeyond σ fun why => ∃ what, why = .invalidArgument what) ∧
      (f.fd = none → f.RefusesBeyond σ (· = .notOpen)) := by
  refine ⟨fun c hc act => ⟨hc.fit.step_eq, c.step_beyond⟩, fun f => ⟨?_, ?_, ?_⟩⟩
  · intro iov st hst hcount hroom
    exact Guarded.readInto_eq M f hst hcount hroom
  · intro fd hfd
    exact RawFile.open_refusesBeyond hfd
  · exact RawFile.shut_refusesBeyond

/-- A stage of four bytes over an object of ten. -/
def overTen : Client MemoryStore := { stage := .small, store := tenBytes }

/-- Three bytes are staged. -/
def threeStaged : Client MemoryStore := (overTen.step (.write 8 [7, 7, 7])).2

/-- A read of nine bytes flushes the three and fills the buffer three times, and a read of
buffers out of order reads the span of all of them. -/
theorem nine_bytes_and_five_buffers_are_not_stopped :
    (∃ c, threeStaged.step (.read 0 9) = (.bytes (.ok [0, 1, 2, 3, 4, 5, 6, 7, 7]), c)) ∧
    (∃ why, threeStaged.step (.writeAio Offset.last [1]) =
      (.started (.error (.invalidArgument why)), threeStaged)) ∧
    (∃ iov st, RawFile.scatterer.readInto RawFile.scattered tenBytes = (.ok 9, iov, st)) ∧
    (∃ why, RawFile.scatterer.read Offset.last 4 tenBytes =
      (.error (.invalidArgument why), tenBytes)) ∧
    RawFile.read { grouping := .default } Offset.last 4 tenBytes = (.error .notOpen, tenBytes) := by
  have hst : MemoryStore.modest.Fits tenBytes :=
    ⟨fun _ hx => absurd hx List.not_mem_nil, fun _ hx => absurd hx List.not_mem_nil⟩
  obtain ⟨hstages, hfiles⟩ := no_request_is_stopped MemoryStore.modest
  have hnew : Client.Arises MemoryStore.modest overTen := .built Stage.small_built (by decide) hst
  have hstaged : Client.Arises MemoryStore.modest threeStaged := .after (.write 8 [7, 7, 7]) hnew
  obtain ⟨c1, hwritten, c2, hnine⟩ : ∃ c1,
      Guarded.step overTen (.write 8 [7, 7, 7]) = .ok (.count (.ok 3), c1) ∧
        ∃ c2, Guarded.step c1 (.read 0 9) = .ok (.bytes (.ok [0, 1, 2, 3, 4, 5, 6, 7, 7]), c2) :=
    ⟨_, rfl, _, rfl⟩
  have hwrite := (hstages overTen hnew (.write 8 [7, 7, 7])).1 (by decide)
  obtain rfl : threeStaged = c1 :=
    congrArg Prod.snd (Except.ok.inj (hwrite.symm.trans hwritten))
  obtain ⟨hread, -⟩ := hstages threeStaged hstaged (.read 0 9)
  obtain ⟨-, hpast⟩ := hstages threeStaged hstaged (.writeAio Offset.last [1])
  obtain ⟨hbuffers, hopen, -⟩ := hfiles RawFile.scatterer
  obtain ⟨-, -, hshut⟩ := hfiles { grouping := .default }
  obtain ⟨iov, st, hfive⟩ : ∃ iov st,
      Guarded.readInto RawFile.scatterer RawFile.scattered tenBytes = .ok (.ok 9, iov, st) :=
    ⟨_, _, rfl⟩
  refine ⟨⟨c2, ?_⟩, hpast (Nat.lt_succ_self _), ⟨iov, st, ?_⟩, ?_, ?_⟩
  · exact Except.ok.inj ((hread (by decide)).symm.trans hnine)
  · exact Except.ok.inj ((hbuffers _ _ hst (by decide) (by decide)).symm.trans hfive)
  · obtain ⟨_, ⟨what, rfl⟩, hrefused⟩ :=
      (hopen .first rfl).read Offset.last 4 tenBytes (by decide)
    exact ⟨what, hrefused⟩
  · obtain ⟨_, rfl, hrefused⟩ := (hshut rfl).read Offset.last 4 tenBytes (by decide)
    exact hrefused

/-- A file that is not open refuses a read past the last offset, and not for its range. -/
theorem a_shut_file_does_not_name_the_range :
    let shut : RawFile := { grouping := .default }
    Offset.last < Offset.last + 4 ∧
      shut.read Offset.last 4 tenBytes = (.error .notOpen, tenBytes) ∧
      ∀ why, (shut.read Offset.last 4 tenBytes).1 ≠ .error (.invalidArgument why) := by
  refine ⟨by decide, rfl, fun why h => ?_⟩
  cases h

end StagedFiles
