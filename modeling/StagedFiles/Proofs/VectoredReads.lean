-- Vectored reads over an object in memory whose reads are not told to fail. One
-- read over the span of a group holds, for each extent of the group, what a read of
-- its own would have brought, wherever the object ends; so no policy can be told
-- from another, nor from a read for each buffer.
import Mathlib.Algebra.GroupWithZero.Nat
import StagedFiles.Proofs.MemoryKeeper
import StagedFiles.Proofs.MemoryShelf
import StagedFiles.Proofs.ReadsInPlace

namespace StagedFiles

/-! ## The span of a group -/

namespace Extent

/-- Its end is an offset. -/
def Fits (e : Extent) : Prop := e.start + e.len ≤ Offset.last

instance (e : Extent) : Decidable e.Fits := inferInstanceAs (Decidable (_ ≤ _))

theorem stop_of_fits {e : Extent} (h : e.Fits) : e.stop = e.start + e.len :=
  Offset.clampedEnd_of_le h

theorem lowest_le {es : List Extent} {e : Extent} (h : e ∈ es) : lowest es ≤ e.start := by
  induction es using List.reverseRecOn with
  | nil => cases h
  | append_singleton es x ih =>
    cases es with
    | nil =>
      obtain rfl := List.mem_singleton.mp h
      exact Nat.le_refl _
    | cons first es =>
      rw [lowest_append_singleton]
      rcases List.mem_append.mp h with h | h
      · exact (Nat.min_le_left ..).trans (ih h)
      · rw [List.mem_singleton.mp h]
        exact Nat.min_le_right ..

theorem stop_le_highest {es : List Extent} {e : Extent} (h : e ∈ es) : e.stop ≤ highest es := by
  induction es using List.reverseRecOn with
  | nil => cases h
  | append_singleton es x ih =>
    rw [highest_append_singleton]
    rcases List.mem_append.mp h with h | h
    · exact (ih h).trans (Nat.le_max_left ..)
    · rw [List.mem_singleton.mp h]
      exact Nat.le_max_right ..

/-- The span of a group covers each of its extents. -/
theorem within_span {es : List Extent} {e : Extent} (h : e ∈ es) (hfits : e.Fits) :
    e.start + e.len ≤ lowest es + span es := by
  have hlow := lowest_le h
  have hhigh := stop_le_highest h
  rw [stop_of_fits hfits] at hhigh
  unfold span
  omega

end Extent

/-- What a run holds somewhere, out of a longer slice of the run. -/
theorem Bytes.slice_slice (b : Bytes) {low span start len : Nat} (hlow : low ≤ start)
    (hspan : start + len ≤ low + span) :
    Bytes.slice (Bytes.slice b low span) (start - low) len = Bytes.slice b start len := by
  have hstart : low + (start - low) = start := by omega
  have hlen : min len (span - (start - low)) = len := by omega
  unfold Bytes.slice
  rw [List.drop_take, List.drop_drop, List.take_take, hstart, hlen]

/-! ## Reads through a descriptor -/

namespace MemoryStore

variable {st : MemoryStore} {fd : Fd} {b : Bytes}

/-- Reads are not told to fail, and the descriptor reads an object of these bytes. -/
structure ReadsFrom (st : MemoryStore) (fd : Fd) (b : Bytes) : Prop where
  spared : st.faults.reads.remaining = 0
  handle : ∃ h, st.handles.find? fd = some h ∧ h.access.read = true ∧
    (st.content h.object).toBytes = b

/-- Reads are not told to fail, but none may go through the descriptor. -/
structure Unreadable (st : MemoryStore) (fd : Fd) : Prop where
  spared : st.faults.reads.remaining = 0
  handle : ∀ h, st.handles.find? fd = some h → h.access.read = false

theorem ReadsFrom.readAt (h : ReadsFrom st fd b) (offset len : Nat) :
    ∃ st', ObjectStore.readAt fd offset len st = (.ok (Bytes.slice b offset len), st') ∧
      ReadsFrom st' fd b := by
  obtain ⟨g, hhandle, hread, rfl⟩ := h.handle
  refine ⟨st.count fun c => { c with preads := c.preads + 1 }, ?_, h.spared, h.handle⟩
  show MemoryStore.readAt fd offset len st = _
  unfold MemoryStore.readAt performRead
  dsimp only [MemoryStore.count]
  rw [Fault.take_of_spent h.spared, hhandle]
  dsimp only
  rw [if_pos hread, SparseBytes.slice_eq]
  rfl

theorem Unreadable.readAt (h : Unreadable st fd) (offset len : Nat) :
    ∃ st', ObjectStore.readAt fd offset len st = (.error ⟨[], .badDescriptor .reading⟩, st') ∧
      Unreadable st' fd := by
  refine ⟨st.count fun c => { c with preads := c.preads + 1 }, ?_, h.spared, h.handle⟩
  show MemoryStore.readAt fd offset len st = _
  unfold MemoryStore.readAt performRead
  dsimp only [MemoryStore.count]
  rw [Fault.take_of_spent h.spared]
  rcases hhandle : st.handles.find? fd with _ | g
  · rfl
  · dsimp only
    rw [h.handle g hhandle]
    rfl

end MemoryStore

namespace RawFile

open MemoryStore (ReadsFrom Unreadable)

variable {st : MemoryStore} {fd : Fd} {b : Bytes}

/-! ## What is read -/

/-- What a read of its own brings an extent. -/
def pieceOf (b : Bytes) (e : Extent) : Bytes := Bytes.slice b e.start e.len

theorem readEach_pieces (h : ReadsFrom st fd b) (es : List Extent) :
    ∃ st', readEach fd st es = (.ok (es.map (pieceOf b)), st') ∧ ReadsFrom st' fd b := by
  induction es generalizing st with
  | nil => exact ⟨st, rfl, h⟩
  | cons e es ih =>
    have hhere : ∃ st1, readExtent fd st e = (.ok (pieceOf b e), st1) ∧ ReadsFrom st1 fd b := by
      unfold readExtent
      by_cases hempty : e.len = 0
      · rw [if_pos hempty, pieceOf, hempty, Bytes.slice, List.take_zero]
        exact ⟨st, rfl, h⟩
      · obtain ⟨st1, hread, h1⟩ := h.readAt e.start e.len
        rw [if_neg hempty, hread]
        exact ⟨st1, rfl, h1⟩
    obtain ⟨st1, hfirst, h1⟩ := hhere
    obtain ⟨st2, hrest, h2⟩ := ih h1
    rw [readEach_cons, hfirst]
    dsimp only
    rw [hrest]
    exact ⟨st2, rfl, h2⟩

/-- Out of the bytes of its span each extent of a group gets its own. -/
theorem scatter_pieces (b : Bytes) {group : List Extent} (hfits : ∀ e ∈ group, e.Fits) :
    scatter (Extent.lowest group) (Bytes.slice b (Extent.lowest group) (Extent.span group)) group =
      group.map (pieceOf b) := by
  apply List.map_congr_left
  intro e he
  exact Bytes.slice_slice b (Extent.lowest_le he) (Extent.within_span he (hfits e he))

theorem readGroup_pieces (h : ReadsFrom st fd b) {group : List Extent}
    (hfits : ∀ e ∈ group, e.Fits) :
    ∃ st', readGroup fd group st = (.ok (group.map (pieceOf b)), st') ∧ ReadsFrom st' fd b := by
  have hpieces := scatter_pieces b hfits
  unfold readGroup
  dsimp only
  split
  · exact readEach_pieces h group
  · split
    · rename_i hspan
      rw [hspan, Bytes.slice, List.take_zero] at hpieces
      rw [hpieces]
      exact ⟨st, rfl, h⟩
    · obtain ⟨st', hread, h'⟩ := h.readAt (Extent.lowest group) (Extent.span group)
      rw [hread]
      dsimp only
      rw [hpieces]
      exact ⟨st', rfl, h'⟩

theorem readGroups_pieces (h : ReadsFrom st fd b) {groups : List (List Extent)}
    (hfits : ∀ e ∈ groups.flatten, e.Fits) :
    ∃ st', readGroups fd st groups = (.ok (groups.flatten.map (pieceOf b)), st') ∧
      ReadsFrom st' fd b := by
  induction groups generalizing st with
  | nil => exact ⟨st, rfl, h⟩
  | cons group groups ih =>
    rw [List.flatten_cons] at hfits
    obtain ⟨st1, hfirst, h1⟩ :=
      readGroup_pieces h fun e he => hfits e (List.mem_append_left _ he)
    obtain ⟨st2, hrest, h2⟩ := ih h1 fun e he => hfits e (List.mem_append_right _ he)
    unfold readGroups
    rw [hfirst]
    dsimp only
    rw [hrest, List.flatten_cons, List.map_append]
    exact ⟨st2, rfl, h2⟩

/-! ## Refused ranges -/

theorem checkExtents_of_fits {es : List Extent} (h : ∀ e ∈ es, e.Fits) :
    checkExtents es = .ok () := by
  induction es with
  | nil => rfl
  | cons e es ih =>
    have hend := Offset.rangeEnd_eq_ok_iff.mpr ⟨h e (List.mem_cons_self ..), rfl⟩
    unfold checkExtents
    rw [hend]
    exact ih fun x hx => h x (List.mem_cons_of_mem _ hx)

/-- The first range that ends nowhere is the one that the refusal names. -/
theorem checkExtents_of_not_fits {es : List Extent} (h : ∃ e ∈ es, ¬ e.Fits) :
    ∃ e ∈ es, ¬ e.Fits ∧
      checkExtents es = .error (.invalidArgument (.pastLastOffset e.len e.start)) := by
  induction es with
  | nil =>
    obtain ⟨e, he, -⟩ := h
    cases he
  | cons e es ih =>
    unfold checkExtents
    by_cases hfits : e.Fits
    · have hrest : ∃ x ∈ es, ¬ x.Fits := by
        obtain ⟨x, hx, hpast⟩ := h
        rcases List.mem_cons.mp hx with rfl | hx
        · exact absurd hfits hpast
        · exact ⟨x, hx, hpast⟩
      obtain ⟨x, hx, hpast, hcheck⟩ := ih hrest
      rw [Offset.rangeEnd_eq_ok_iff.mpr ⟨hfits, rfl⟩]
      exact ⟨x, List.mem_cons_of_mem _ hx, hpast, hcheck⟩
    · have hend := Offset.rangeEnd_eq_error_iff.mpr ⟨Nat.lt_of_not_le hfits, rfl⟩
      rw [hend]
      exact ⟨e, List.mem_cons_self .., hfits, rfl⟩

/-! ## Vectored reads -/

/-- Whatever the policy, each extent gets what a read of its own brings. -/
theorem readv_pieces {f : RawFile} (hfd : f.fd = some fd) (h : ReadsFrom st fd b)
    {es : List Extent} (hfits : ∀ e ∈ es, e.Fits) :
    ∃ st', f.readv es st = (.ok (es.map (pieceOf b)), st') ∧ ReadsFrom st' fd b := by
  have hflat := (Grouping.cuts_groups f.grouping es).flatten_eq
  have hparts : ∀ e ∈ (f.grouping.groups es).flatten, e.Fits := by rwa [hflat]
  have hgroups := readGroups_pieces h hparts
  unfold readv
  rw [requireFd_eq hfd, checkExtents_of_fits hfits]
  rwa [hflat] at hgroups

/-! ## A descriptor that may not read -/

/-- Nothing landed: the first read was refused, or there was nothing to read. -/
structure Refused (fd : Fd) (iov : List IoVec)
    (filled : Except Failure Nat × List IoVec × MemoryStore) : Prop where
  buffers : filled.2.1 = iov
  store : Unreadable filled.2.2 fd
  result : filled.1 = .error (.badDescriptor .reading) ∨
    filled.1 = .ok 0 ∧ ∀ v ∈ iov, v.buffer = []

theorem fillEach_refused (h : Unreadable st fd) (iov : List IoVec) :
    Refused fd iov (fillEach fd st iov) := by
  induction iov generalizing st with
  | nil => exact ⟨rfl, h, .inr ⟨rfl, by simp⟩⟩
  | cons v iov ih =>
    unfold fillEach
    by_cases hempty : v.buffer = []
    · have hrest := ih h
      rw [if_pos (List.isEmpty_iff.mpr hempty)]
      refine ⟨congrArg (v :: ·) hrest.buffers, hrest.store, hrest.result.imp_right ?_⟩
      rintro ⟨hnone, hall⟩
      refine ⟨hnone, ?_⟩
      intro w hw
      rcases List.mem_cons.mp hw with rfl | hw
      · exact hempty
      · exact hall w hw
    · obtain ⟨st', hread, h'⟩ := h.readAt v.offset v.buffer.length
      rw [if_neg (by simpa using hempty), hread]
      exact ⟨rfl, h', .inl rfl⟩

/-- Out of no bytes nothing lands. -/
theorem fillFrom_nil (low : Nat) (group : List Extent) (iov : List IoVec) :
    fillFrom low [] group iov = (0, iov) := by
  induction group generalizing iov with
  | nil => rfl
  | cons e group ih =>
    cases iov with
    | nil => rfl
    | cons v iov =>
      unfold fillFrom
      dsimp only
      rw [ih iov, if_neg (by simp)]

theorem fillGroup_refused (h : Unreadable st fd) {iov : List IoVec}
    (hfits : ∀ v ∈ iov, v.extent.Fits) :
    Refused fd iov (fillGroup fd (iov.map IoVec.extent) iov st) := by
  unfold fillGroup
  dsimp only
  split
  · exact fillEach_refused h iov
  · by_cases hspan : Extent.span (iov.map IoVec.extent) = 0
    · rw [if_pos hspan]
      dsimp only
      rw [fillFrom_nil]
      refine ⟨rfl, h, .inr ⟨rfl, ?_⟩⟩
      intro v hv
      have hmem := List.mem_map_of_mem (f := IoVec.extent) hv
      have hcover := Extent.within_span hmem (hfits v hv)
      have hlow := Extent.lowest_le hmem
      rw [hspan, IoVec.extent_len] at hcover
      exact List.length_eq_zero_iff.mp (by omega)
    · obtain ⟨st', hread, h'⟩ := h.readAt (Extent.lowest (iov.map IoVec.extent))
        (Extent.span (iov.map IoVec.extent))
      rw [if_neg hspan, hread]
      exact ⟨rfl, h', .inl rfl⟩

theorem fillGroups_refused (h : Unreadable st fd) {groups : List (List Extent)}
    {iov : List IoVec} (hflat : groups.flatten = iov.map IoVec.extent)
    (hfits : ∀ v ∈ iov, v.extent.Fits) : Refused fd iov (fillGroups fd st groups iov) := by
  induction groups generalizing iov st with
  | nil =>
    obtain rfl := List.map_eq_nil_iff.mp hflat.symm
    exact ⟨rfl, h, .inr ⟨rfl, by simp⟩⟩
  | cons group groups ih =>
    obtain ⟨hgroup, hrest⟩ := buffers_of_first_group hflat
    have hparts : ∀ v ∈ iov.take group.length, v.extent.Fits := fun v hv =>
      hfits v (List.mem_of_mem_take hv)
    have hfirst := fillGroup_refused h hparts
    rw [← hgroup] at hfirst
    unfold fillGroups
    rcases hfilled : fillGroup fd group (iov.take group.length) st with ⟨r, done, st1⟩
    rw [hfilled] at hfirst
    obtain ⟨rfl, h1, hresult⟩ := hfirst
    rcases hresult with rfl | ⟨rfl, hempty⟩
    · exact ⟨List.take_append_drop .., h1, .inl rfl⟩
    · have hlast := ih h1 hrest fun v hv => hfits v (List.mem_of_mem_drop hv)
      dsimp only
      refine ⟨?_, hlast.store, ?_⟩
      · rw [hlast.buffers, List.take_append_drop]
      · rcases hlast.result with he | ⟨hn, hall⟩
        · rw [he]
          exact .inl rfl
        · rw [hn]
          refine .inr ⟨rfl, ?_⟩
          intro v hv
          rw [← List.take_append_drop group.length iov] at hv
          exact (List.mem_append.mp hv).elim (hempty v) (hall v)

theorem readInto_refused {f : RawFile} (hfd : f.fd = some fd) (h : Unreadable st fd)
    {iov : List IoVec} (hfits : ∀ v ∈ iov, v.extent.Fits) :
    Refused fd iov (f.readInto iov st) := by
  have hcheck := checkExtents_of_fits (List.forall_mem_map.mpr hfits)
  have hflat := (Grouping.cuts_groups f.grouping (iov.map IoVec.extent)).flatten_eq
  unfold readInto
  dsimp only
  rw [requireFd_eq hfd, hcheck]
  exact fillGroups_refused h hflat hfits

/-! ## Vectored and separate reads -/

/-- A vectored read into buffers is the one of their extents. It fills each buffer with
what a read of its own would bring, leaves the rest of the buffer and counts all that landed,
whatever the policy and wherever the buffers lie. Through a descriptor that may not read it
is refused as each of those reads would be, if it reads at all. A range that ends past the
last offset refuses the call before anything moves. -/
theorem a_vectored_read_is_separate_reads (f : RawFile) (st : MemoryStore) (iov : List IoVec)
    (hfd : f.fd = some fd) (hspared : st.faults.reads.remaining = 0) :
    Fills iov (f.readv (iov.map IoVec.extent) st) (f.readInto iov st) ∧
      ((∀ v ∈ iov, v.extent.Fits) →
        ((∃ h, st.handles.find? fd = some h ∧ h.access.read = true) →
          ∃ (piece : IoVec → Bytes) (st' : MemoryStore),
            (∀ v ∈ iov,
              (ObjectStore.readAt fd v.offset v.buffer.length st).1 = .ok (piece v) ∧
                (piece v).length ≤ v.buffer.length) ∧
              f.readInto iov st =
                (.ok (iov.map fun v => (piece v).length).sum, iov.map fun v => v.fill (piece v),
                  st') ∧
              ReadsTo fd st st') ∧
          ((∀ h, st.handles.find? fd = some h → h.access.read = false) →
            (∀ v ∈ iov, (ObjectStore.readAt fd v.offset v.buffer.length st).1 =
              .error ⟨[], .badDescriptor .reading⟩) ∧
              Refused fd iov (f.readInto iov st))) ∧
      ((∃ v ∈ iov, ¬ v.extent.Fits) →
        ∃ v ∈ iov, ¬ v.extent.Fits ∧
          f.readInto iov st =
            (.error (.invalidArgument (.pastLastOffset v.buffer.length v.offset)), iov, st)) := by
  refine ⟨readInto_fills f st iov, fun hfits => ⟨?readable, ?unreadable⟩, ?past⟩
  case readable =>
    rintro ⟨h, hhandle, hread⟩
    have hfrom : ReadsFrom st fd (st.content h.object).toBytes := ⟨hspared, h, hhandle, hread, rfl⟩
    obtain ⟨st', hreadv, -⟩ := readv_pieces hfd hfrom (List.forall_mem_map.mpr hfits)
    refine ⟨fun v => pieceOf (st.content h.object).toBytes v.extent, st', ?_, ?_, ?_⟩
    · intro v _
      obtain ⟨st1, hone, -⟩ := hfrom.readAt v.offset v.buffer.length
      exact ⟨congrArg Prod.fst hone, (Bytes.length_slice ..).trans_le (Nat.min_le_left ..)⟩
    · have hfills := readInto_fills f st iov
      rw [hreadv] at hfills
      generalize f.readInto iov st = filled at hfills
      cases hfills with
      | ok _ =>
        rw [List.length_flatten, List.map_map, List.map_map, List.zipWith_map_right,
          List.zipWith_map_right, List.zipWith_self]
        rfl
    · cases readv_reads hreadv with
      | nothing hsame =>
        subst hsame
        exact .stay
      | through hopen hreads =>
        rw [hfd] at hopen
        cases hopen
        exact hreads
  case unreadable =>
    intro hhandle
    have hclosed : Unreadable st fd := ⟨hspared, hhandle⟩
    refine ⟨?_, readInto_refused hfd hclosed hfits⟩
    intro v _
    obtain ⟨st', hread, -⟩ := hclosed.readAt v.offset v.buffer.length
    exact congrArg Prod.fst hread
  case past =>
    rintro ⟨v, hv, hpast⟩
    obtain ⟨e, he, hpast, hcheck⟩ :=
      checkExtents_of_not_fits ⟨v.extent, List.mem_map_of_mem hv, hpast⟩
    obtain ⟨v, hv, rfl⟩ := List.mem_map.mp he
    refine ⟨v, hv, hpast, ?_⟩
    unfold readInto
    dsimp only
    rw [requireFd_eq hfd, hcheck]
    rfl

/-- Buffers out of order over an object of eight bytes: one that ends two bytes past the
end, an empty one, two that overlap and one far behind the end. -/
def scattered : List IoVec :=
  [⟨6, [0, 0, 9, 9]⟩, ⟨3, []⟩, ⟨0, [0, 0]⟩, ⟨1, [0, 0, 0]⟩, ⟨40, [9]⟩]

/-- No settings allow these thresholds. -/
def scatterer : RawFile := { grouping := .density 64 0 0.5, fd := some .first }

/-- Five buffers from an object of eight bytes, with a sixth that ends past the last offset,
and through a descriptor that only writes. -/
theorem five_scattered_buffers_are_read_at_once :
    let st := MemoryStore.single .deferred .readWrite [1, 2, 3, 4, 5, 6, 7, 8]
    let shut := MemoryStore.single .deferred { write := true } [1, 2, 3, 4, 5, 6, 7, 8]
    let past := scattered ++ [⟨Offset.last, [0]⟩]
    (scatterer.readInto scattered st).1 = .ok 7 ∧
      (scatterer.readInto scattered st).2.1 =
        [⟨6, [7, 8, 9, 9]⟩, ⟨3, []⟩, ⟨0, [1, 2]⟩, ⟨1, [2, 3, 4]⟩, ⟨40, [9]⟩] ∧
      (∃ why, scatterer.readInto past st = (.error (.invalidArgument why), past, st)) ∧
      Refused .first scattered (scatterer.readInto scattered shut) := by
  intro st shut past
  have hfits : ∀ v ∈ scattered, v.extent.Fits := by decide
  obtain ⟨-, hall, -⟩ := a_vectored_read_is_separate_reads scatterer st scattered rfl rfl
  obtain ⟨piece, st', hpieces, hread, -⟩ := (hall hfits).1 ⟨⟨0, .readWrite⟩, by decide, rfl⟩
  obtain ⟨v, -, -, hpast⟩ :=
    (a_vectored_read_is_separate_reads scatterer st past rfl rfl).2.2 (by decide)
  obtain ⟨-, hshut, -⟩ := a_vectored_read_is_separate_reads scatterer shut scattered rfl rfl
  have hone : ∀ (v : IoVec) (bytes : Bytes), v ∈ scattered →
      (ObjectStore.readAt .first v.offset v.buffer.length st).1 = .ok bytes → piece v = bytes := by
    intro v bytes hv hbytes
    exact Except.ok.inj ((hpieces v hv).1.symm.trans hbytes)
  have h1 := hone ⟨6, [0, 0, 9, 9]⟩ [7, 8] (by decide) (by decide +kernel)
  have h2 := hone ⟨3, []⟩ [] (by decide) (by decide +kernel)
  have h3 := hone ⟨0, [0, 0]⟩ [1, 2] (by decide) (by decide +kernel)
  have h4 := hone ⟨1, [0, 0, 0]⟩ [2, 3, 4] (by decide) (by decide +kernel)
  have h5 := hone ⟨40, [9]⟩ [] (by decide) (by decide +kernel)
  refine ⟨?_, ?_, ⟨_, hpast⟩, ((hshut hfits).2 ?_).2⟩
  · rw [hread]
    simp [scattered, h1, h2, h3, h4, h5]
  · rw [hread]
    simp [scattered, h1, h2, h3, h4, h5, IoVec.fill]
  · intro h hhandle
    have hshut : shut.handles.find? .first = some ⟨0, { write := true }⟩ := by decide
    rw [hshut] at hhandle
    cases hhandle
    rfl

end RawFile

end StagedFiles
