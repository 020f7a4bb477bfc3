-- Writes that follow each other, packed into the records that a store logs. A write that
-- fits behind the bytes that are staged joins them. One that does not sends them out, and
-- then goes out itself in records of the capacity, up to a last piece that stays staged.
import Mathlib.Algebra.GroupWithZero.Nat
import StagedFiles.Proofs.CalmObject
import StagedFiles.Proofs.StagedService

namespace StagedFiles

/-! ## The packing -/

/-- The record of so many bytes. There is none of no bytes. -/
def recordOf (n : Nat) : List Nat := if n = 0 then [] else [n]

/-- Lengths that were packed: the records that are closed, in order, and the bytes of the
one that is still open. -/
structure Packing where
  closed : List Nat := []
  opened : Nat := 0
  deriving DecidableEq, Repr

namespace Packing

/-- The records, the open one among them. -/
def records (p : Packing) : List Nat := p.closed ++ recordOf p.opened

/-- One more length. It joins the open record if it fits whole. Otherwise that record is
closed, and the length is cut into records of the capacity, the last piece of which stays
open. -/
def add (capacity : Nat) (p : Packing) (n : Nat) : Packing :=
  if p.opened + n ≤ capacity then { p with opened := p.opened + n }
  else
    { closed := p.records ++ List.replicate ((n - 1) / capacity) capacity
      opened := (n - 1) % capacity + 1 }

/-- Lengths in the order in which they come. -/
def pack (capacity : Nat) (lens : List Nat) : Packing := lens.foldl (add capacity) {}

/-- Records that have a byte and are no longer than the capacity. -/
structure Fits (capacity : Nat) (p : Packing) : Prop where
  closed : ∀ n ∈ p.closed, 0 < n ∧ n ≤ capacity
  opened : p.opened ≤ capacity

variable {capacity n : Nat} {p : Packing}

theorem records_of_closed (h : p.opened = 0) : p.records = p.closed := by
  unfold records recordOf
  rw [if_pos h, List.append_nil]

theorem records_of_open (h : p.opened ≠ 0) : p.records = p.closed ++ [p.opened] := by
  unfold records recordOf
  rw [if_neg h]

theorem Fits.records (h : p.Fits capacity) : ∀ n ∈ p.records, 0 < n ∧ n ≤ capacity := by
  intro n hn
  by_cases hnone : p.opened = 0
  · rw [records_of_closed hnone] at hn
    exact h.closed n hn
  · rw [records_of_open hnone] at hn
    rcases List.mem_append.mp hn with hclosed | hopened
    · exact h.closed n hclosed
    · rw [List.mem_singleton.mp hopened]
      exact ⟨Nat.pos_of_ne_zero hnone, h.opened⟩

theorem sum_records (p : Packing) : p.records.sum = p.closed.sum + p.opened := by
  by_cases hnone : p.opened = 0
  · rw [records_of_closed hnone, hnone, Nat.add_zero]
  · rw [records_of_open hnone, List.sum_append, List.sum_singleton]

theorem add_of_le (h : p.opened + n ≤ capacity) :
    p.add capacity n = { p with opened := p.opened + n } := if_pos h

theorem add_of_lt (h : capacity < p.opened + n) :
    p.add capacity n =
      { closed := p.records ++ List.replicate ((n - 1) / capacity) capacity
        opened := (n - 1) % capacity + 1 } := if_neg (Nat.not_le.mpr h)

/-- A length that does not join an open record starts one with as much as fits, and the
rest of it is added behind that. -/
theorem add_restart (hcap : 0 < capacity) (hn : 0 < n)
    (h : p.opened = 0 ∨ capacity < p.opened + n) :
    p.add capacity n =
      ({ closed := p.records, opened := min capacity n } : Packing).add capacity
        (n - min capacity n) := by
  by_cases hle : n ≤ capacity
  · rw [Nat.min_eq_right hle, Nat.sub_self, add_of_le (n := 0) hle]
    rcases h with hnone | hover
    · rw [add_of_le (by omega), records_of_closed hnone, hnone, Nat.zero_add]
      rfl
    · rw [add_of_lt hover, Nat.div_eq_of_lt (by omega), Nat.mod_eq_of_lt (by omega),
        Nat.sub_add_cancel hn, List.replicate_zero, List.append_nil]
      rfl
  · -- the first piece fills a record, and so does each of the others but the last
    have hlt : capacity < n := Nat.not_le.mp hle
    have hpiece : n - 1 = n - capacity - 1 + capacity := by omega
    let full : Packing := { closed := p.records, opened := capacity }
    have hfull : full.records = p.records ++ [capacity] := records_of_open (Nat.ne_of_gt hcap)
    have hover : capacity < full.opened + (n - capacity) := by
      show capacity < capacity + (n - capacity)
      omega
    rw [Nat.min_eq_left (Nat.le_of_lt hlt), add_of_lt hover, add_of_lt (by omega), hfull, hpiece,
      Nat.add_div_right _ hcap, Nat.add_mod_right, List.replicate_succ, List.append_assoc]
    rfl

end Packing

/-- The records of writes through a descriptor, each from where the one before it ended. -/
def recordsAt (fd : Fd) (aio : Bool) : Nat → List Nat → List WriteRecord
  | _, [] => []
  | offset, n :: ns => ⟨fd, offset, n, aio⟩ :: recordsAt fd aio (offset + n) ns

theorem recordsAt_append (fd : Fd) (aio : Bool) (offset : Nat) (ns ms : List Nat) :
    recordsAt fd aio offset (ns ++ ms) =
      recordsAt fd aio offset ns ++ recordsAt fd aio (offset + ns.sum) ms := by
  induction ns generalizing offset with
  | nil => rfl
  | cons n ns ih =>
    rw [List.cons_append, recordsAt, recordsAt, ih, List.sum_cons, Nat.add_assoc]
    rfl

namespace Stage

open MemoryStore (Calm)

variable {s s₀ s' : Stage} {st st₀ st' : MemoryStore} {start o : Nat} {w data d : Bytes}
  {id : ObjectId} {access : Access} {mine : WriteRecord → Bool} {object b : Bytes}
  {p : Packing}

/-! ## What a stage holds -/

/-- The bytes that are staged, from an offset on, if any are. -/
inductive Holding (s : Stage) (start : Nat) : Bytes → Prop where
  | nothing : s.dirty = false → Holding s start []
  | staged {w : Bytes} : w ≠ [] → s.Staged start w → Holding s start w

theorem Holding.staged_of_dirty (h : s.Holding start w) (hd : s.dirty = true) :
    s.Staged start w := by
  cases h with
  | nothing hclean =>
    rw [hd] at hclean
    cases hclean
  | staged _ hstaged => exact hstaged

theorem Holding.nil_of_clean (h : s.Holding start w) (hd : s.dirty = false) : w = [] := by
  cases h with
  | nothing _ => rfl
  | staged _ hstaged =>
    rw [hstaged.dirty] at hd
    cases hd

/-- A flush writes what is held, in a record of its own. -/
theorem Holding.flushNow (h : s.Holding start w) (hcalm : Calm s.fd id access mine st b)
    (hwrite : access.write = true)
    (hown : ∀ record : WriteRecord, record.fd = s.fd → mine record = true) :
    ∃ s' st', s.flushNow st = (.ok w.length, s', st') ∧ s'.dirty = false ∧
      Calm s.fd id access mine st' (Bytes.written b start w) ∧
      st'.log.filter mine = st.log.filter mine ++
        recordsAt s.fd (decide (s.adapter.kind = .async)) start (recordOf w.length) := by
  cases h with
  | nothing hclean =>
    refine ⟨s, st, flushNow_clean st hclean, hclean, ?_, (List.append_nil _).symm⟩
    rw [Bytes.written_nil]
    exact hcalm
  | staged hne hstaged =>
    obtain ⟨st', hw, hcalm', hlog⟩ :=
      hcalm.adapter_write s.buffer.start hwrite hown rfl s.buffer.len_le
    have himage : s.adapter.buffer.peek 0 s.buffer.len = w := hstaged.image
    have hflush := flushNow_whole hstaged.dirty hw
    rw [himage] at hcalm'
    rw [hstaged.start, hstaged.len] at hlog
    rw [hstaged.start] at hcalm'
    rw [hstaged.len] at hflush
    refine ⟨_, st', hflush, rfl, ?_, ?_⟩
    · rw [Bytes.written_of_ne_nil _ _ hne]
      exact hcalm'
    · unfold recordOf
      rw [if_neg (mt List.length_eq_zero_iff.mp hne)]
      exact hlog

/-! ## Writes in a row, packed -/

/-- Where a row of writes from an offset on has brought a stage and its store: the closed
records are logged and written to the object, and the bytes of the open one are staged. -/
structure Packed (s₀ : Stage) (st₀ : MemoryStore) (id : ObjectId) (access : Access)
    (mine : WriteRecord → Bool) (object : Bytes) (o : Nat) (p : Packing) (data : Bytes)
    (s : Stage) (st : MemoryStore) : Prop where
  same : s₀.Same s
  total : p.closed.sum + p.opened = data.length
  fits : p.Fits s₀.capacity
  holding : s.Holding (o + p.closed.sum) (data.drop p.closed.sum)
  calm : Calm s₀.fd id access mine st (Bytes.written object o (data.take p.closed.sum))
  log : st.log.filter mine = st₀.log.filter mine ++
    recordsAt s₀.fd (decide (s₀.adapter.kind = .async)) o p.closed

/-- Before the first of them. -/
theorem packed_nothing (hclean : s₀.dirty = false)
    (hcalm : Calm s₀.fd id access mine st₀ object) :
    Packed s₀ st₀ id access mine object o {} [] s₀ st₀ := by
  refine ⟨.refl _, rfl, ⟨?_, Nat.zero_le _⟩, .nothing hclean, ?_, (List.append_nil _).symm⟩
  · intro n hn
    cases hn
  · rw [List.take_nil, Bytes.written_nil]
    exact hcalm

/-- What is held are the bytes of the open record. -/
theorem Packed.length_held (h : Packed s₀ st₀ id access mine object o p data s st) :
    (data.drop p.closed.sum).length = p.opened := by
  have htotal := h.total
  rw [List.length_drop]
  omega

/-- With nothing staged, no record is open. -/
theorem Packed.none_open (h : Packed s₀ st₀ id access mine object o p data s st)
    (hd : s.dirty = false) : p.opened = 0 := by
  rw [← h.length_held, h.holding.nil_of_clean hd, List.length_nil]

/-- What is staged are the bytes of the open record. -/
theorem Packed.len (h : Packed s₀ st₀ id access mine object o p data s st)
    (hd : s.dirty = true) : s.buffer.len = p.opened :=
  (h.holding.staged_of_dirty hd).len.trans h.length_held

/-- It ends where the row does. -/
theorem Packed.stop (h : Packed s₀ st₀ id access mine object o p data s st)
    (hd : s.dirty = true) (hlast : o + data.length ≤ Offset.last) :
    s.buffer.stop = o + data.length := by
  have hend : o + p.closed.sum + (data.drop p.closed.sum).length = o + data.length := by
    rw [h.length_held, Nat.add_assoc, h.total]
  exact ((h.holding.staged_of_dirty hd).stop (hend ▸ hlast)).trans hend

/-- Data that go on where the row ended and do not join the open record have no room there. -/
theorem Packed.no_room (h : Packed s₀ st₀ id access mine object o p data s st)
    (hlast : o + data.length ≤ Offset.last)
    (hj : ¬ (s.dirty = true ∧ s.buffer.stop = o + data.length ∧ s.buffer.hasRoom d = true)) :
    p.opened = 0 ∨ s₀.capacity < p.opened + d.length := by
  rcases hd : s.dirty with _ | _
  · exact .inl (h.none_open hd)
  · right
    by_contra hfits
    rw [← h.len hd, ← h.same.capacity] at hfits
    exact hj ⟨hd, h.stop hd hlast, (s.buffer.hasRoom_iff d).mpr (Nat.not_lt.mp hfits)⟩

/-- Data that are put behind what is held belong to the open record. -/
theorem Packed.join (h : Packed s₀ st₀ id access mine object o p data s st)
    (hd : s.dirty = true) (hne : d ≠ [])
    (hroom : s.buffer.len + d.length ≤ s.buffer.capacity)
    (hfits : p.opened + d.length ≤ s₀.capacity) :
    Packed s₀ st₀ id access mine object o { p with opened := p.opened + d.length } (data ++ d)
      (s.withBuffer (s.buffer.append d hroom)) st := by
  have hclosed : p.closed.sum ≤ data.length := Nat.le.intro h.total
  refine ⟨h.same.trans ⟨⟨rfl, rfl, rfl⟩, rfl, rfl, rfl⟩, ?_, ⟨h.fits.closed, hfits⟩, ?_, ?_, h.log⟩
  · rw [List.length_append, ← h.total, Nat.add_assoc]
  · rw [List.drop_append_of_le_length hclosed]
    exact .staged (List.append_ne_nil_of_right_ne_nil _ hne)
      ((h.holding.staged_of_dirty hd).join hroom)
  · rw [List.take_append_of_le_length hclosed]
    exact h.calm

/-- With no record open, a piece of data opens one. -/
theorem Packed.restarted (h : Packed s₀ st₀ id access mine object o p data s st)
    (hnone : p.opened = 0) (hidle : s.outstanding = 0) (hne : d ≠ [])
    (hfits : d.length ≤ s.buffer.capacity) :
    Packed s₀ st₀ id access mine object o { p with opened := d.length } (data ++ d)
      (s.restarted (o + data.length) d hfits) st := by
  have hall : p.closed.sum = data.length := by
    have htotal := h.total
    rwa [hnone] at htotal
  have hcap : s.capacity = s₀.capacity := h.same.capacity
  refine ⟨h.same.trans ⟨⟨rfl, rfl, rfl⟩, rfl, rfl, rfl⟩, ?_, ⟨h.fits.closed, hcap ▸ hfits⟩, ?_, ?_,
    h.log⟩
  · rw [List.length_append, ← hall]
  · dsimp only
    rw [hall, List.drop_left]
    exact .staged hne (staged_restarted hidle hfits)
  · dsimp only
    rw [List.take_append_of_le_length (Nat.le_of_eq hall)]
    exact h.calm

/-- Data that still fit into the open record are taken without the store. -/
theorem Packed.write_fits (h : Packed s₀ st₀ id access mine object o p data s st)
    (hidle : s₀.outstanding = 0) (hne : d ≠ []) (hfits : p.opened + d.length ≤ s₀.capacity)
    (hlast : o + data.length + d.length ≤ Offset.last) :
    ∃ s', s.write (o + data.length) d st = (.ok d.length, s', st) := by
  have hidle' : s.outstanding = 0 := h.same.outstanding.trans hidle
  rw [← h.same.capacity] at hfits
  rcases hdirty : s.dirty with _ | _
  · obtain ⟨s', hw, -⟩ := write_starts st hdirty hidle' hne (by omega) hlast
    exact ⟨s', hw⟩
  · have hstaged := h.holding.staged_of_dirty hdirty
    rw [← h.length_held] at hfits
    rw [← h.total, ← h.length_held, ← Nat.add_assoc] at hlast ⊢
    obtain ⟨s', hw, -⟩ := hstaged.write st hne hfits (by omega)
    exact ⟨s', hw⟩

section Writable

variable (hwrite : access.write = true)
  (hown : ∀ record : WriteRecord, record.fd = s₀.fd → mine record = true)

include hwrite hown

/-- A flush closes the open record. -/
theorem Packed.flushNow (h : Packed s₀ st₀ id access mine object o p data s st) :
    ∃ s' st', s.flushNow st = (.ok p.opened, s', st') ∧ s'.dirty = false ∧
      Packed s₀ st₀ id access mine object o { closed := p.records } data s' st' := by
  obtain ⟨s', st', hf, hclean, hcalm, hlog⟩ :=
    h.holding.flushNow (h.same.fd ▸ h.calm) hwrite (h.same.fd ▸ hown)
  rw [h.length_held] at hf hlog
  have hall : p.records.sum = data.length := (Packing.sum_records p).trans h.total
  have hclosed : p.closed.sum ≤ data.length := Nat.le.intro h.total
  refine ⟨s', st', hf, hclean, h.same.trans (flushNow_same hf), hall,
    ⟨h.fits.records, Nat.zero_le _⟩, ?_, ?_, ?_⟩
  · rw [hall, List.drop_length]
    exact .nothing hclean
  · have hfront : (data.take p.closed.sum).length = p.closed.sum :=
      List.length_take_of_le hclosed
    have hwritten := Bytes.written_append object o (data.take p.closed.sum) (data.drop p.closed.sum)
    rw [List.take_append_drop, hfront] at hwritten
    rw [hall, List.take_length, hwritten, ← h.same.fd]
    exact hcalm
  · rw [hlog, h.log, h.same.fd, h.same.adapter.kind, List.append_assoc]
    exact congrArg (_ ++ ·) (recordsAt_append ..).symm

/-- Data that go on where the row ended are packed behind it. -/
theorem Packed.stageFrom {pos : Nat} (h : Packed s₀ st₀ id access mine object o p data s st)
    (hidle : s₀.outstanding = 0) (hpos : pos = o + data.length)
    (hlast : pos + d.length ≤ Offset.last) (done : Nat) :
    ∃ s' st', s.stageFrom st pos d done = (.ok (done + d.length), s', st') ∧
      Packed s₀ st₀ id access mine object o (p.add s₀.capacity d.length) (data ++ d) s' st' := by
  have hcap : 0 < s₀.capacity := s₀.buffer.capacity_pos
  fun_induction Stage.stageFrom s st pos d done generalizing p data with
  | case1 s st pos done =>
    refine ⟨s, st, rfl, ?_⟩
    rw [List.append_nil, List.length_nil, Packing.add_of_le h.fits.opened]
    exact h
  | case2 s st pos d done hd hj =>
    obtain ⟨hdirty, -, hroom⟩ := hj
    have hfits := (s.buffer.hasRoom_iff d).mp hroom
    have hopened : p.opened + d.length ≤ s₀.capacity := by
      rw [← h.len hdirty, ← h.same.capacity]
      exact hfits
    refine ⟨_, st, rfl, ?_⟩
    rw [Packing.add_of_le hopened]
    exact h.join hdirty hd hfits hopened
  | case3 s st pos d done hd hj f s1 st1 hf =>
    obtain ⟨s2, st2, hf2, -⟩ := h.flushNow hwrite hown
    rw [hf2] at hf
    cases hf
  | case4 s st pos d done hd hj n s1 st1 hf b piece fits taken =>
    rename_i started ih
    subst hpos
    have hpiece : piece.length = min s₀.capacity d.length := by
      have hcap1 : s1.capacity = s₀.capacity := (h.same.trans (flushNow_same hf)).capacity
      exact List.length_take.trans (congrArg (min · d.length) hcap1)
    have hsplit : piece ++ d.drop piece.length = d :=
      List.prefix_iff_eq_append.mp (List.take_prefix ..)
    have hlen : piece.length + (d.drop piece.length).length = d.length := by
      rw [← List.length_append, hsplit]
    obtain ⟨s2, st2, hf2, hclean, hflushed⟩ := h.flushNow hwrite hown
    rw [hf2] at hf
    cases hf
    have hstarted := hflushed.restarted rfl (hflushed.same.outstanding.trans hidle)
      (List.length_pos_iff.mp taken) fits
    obtain ⟨s', st', hrest, hpacked⟩ :=
      ih hstarted (by rw [List.length_append, Nat.add_assoc]) (by omega)
    refine ⟨s', st', ?_, ?_⟩
    · rw [hrest, Nat.add_assoc, hlen]
    · -- the packing goes on with the rest as the loop does
      have hrestart := Packing.add_restart hcap (List.length_pos_iff.mpr hd)
        (h.no_room (by omega) hj)
      rw [← hpiece, ← List.length_drop] at hrestart
      rw [hrestart]
      rw [List.append_assoc, hsplit] at hpacked
      exact hpacked

end Writable

end Stage

/-! ## Callers -/

/-- Writes of these chunks, each from where the one before it ended. -/
def writesInRow : Nat → List Bytes → List Act
  | _, [] => []
  | offset, chunk :: chunks => .write offset chunk :: writesInRow (offset + chunk.length) chunks

namespace Client

variable {s₀ : Stage} {st₀ : MemoryStore} {id : ObjectId} {access : Access}
  {mine : WriteRecord → Bool} {object : Bytes} {o : Nat}

/-- A row of writes is answered, and packed behind what was written before. -/
theorem packed_run {c : Client MemoryStore} {p : Packing} {data : Bytes} (chunks : List Bytes)
    (h : Stage.Packed s₀ st₀ id access mine object o p data c.stage c.store)
    (hwrite : access.write = true)
    (hown : ∀ record : WriteRecord, record.fd = s₀.fd → mine record = true)
    (hidle : s₀.outstanding = 0)
    (hlast : o + data.length + chunks.flatten.length ≤ Offset.last) :
    c.replies (writesInRow (o + data.length) chunks) =
        chunks.map (fun chunk => .count (.ok chunk.length)) ∧
      Stage.Packed s₀ st₀ id access mine object o
        ((chunks.map List.length).foldl (Packing.add s₀.capacity) p) (data ++ chunks.flatten)
        (c.run (writesInRow (o + data.length) chunks)).stage
        (c.run (writesInRow (o + data.length) chunks)).store := by
  induction chunks generalizing c p data with
  | nil =>
    rw [List.flatten_nil, List.append_nil]
    exact ⟨rfl, h⟩
  | cons chunk chunks ih =>
    rw [List.flatten_cons, List.length_append] at hlast
    obtain ⟨s', st', hw, hpacked⟩ :=
      h.stageFrom (d := chunk) hwrite hown hidle rfl (by omega) 0
    rw [Nat.zero_add] at hw
    have hstep : c.step (.write (o + data.length) chunk) =
        (.count (.ok chunk.length), { c with stage := s', store := st' }) := by
      simp only [Client.step,
        Stage.write_idle _ (show o + data.length + chunk.length ≤ Offset.last by omega)
          (h.same.outstanding.trans hidle), hw]
    obtain ⟨hreplies, hrun⟩ :=
      ih (c := { c with stage := s', store := st' }) hpacked (by rw [List.length_append]; omega)
    rw [List.length_append, ← Nat.add_assoc] at hreplies hrun
    unfold writesInRow
    constructor
    · unfold replies
      rw [hstep, hreplies]
      rfl
    · unfold run at hrun ⊢
      rw [List.foldl_cons, hstep, List.flatten_cons, ← List.append_assoc]
      exact hrun

/-- A row of writes on a client with nothing staged, and a flush behind it. -/
theorem packed_row {c : Client MemoryStore} (chunks : List Bytes)
    (hcalm : MemoryStore.Calm c.stage.fd id access mine c.store object)
    (hwrite : access.write = true)
    (hown : ∀ record : WriteRecord, record.fd = c.stage.fd → mine record = true)
    (hclean : c.stage.dirty = false) (hidle : c.stage.outstanding = 0)
    (hlast : o + chunks.flatten.length ≤ Offset.last) :
    let p := Packing.pack c.stage.capacity (chunks.map List.length)
    let after := c.run (writesInRow o chunks)
    c.replies (writesInRow o chunks) = chunks.map (fun chunk => .count (.ok chunk.length)) ∧
      Stage.Packed c.stage c.store id access mine object o p chunks.flatten after.stage
        after.store ∧
      ∃ flushed, after.step .flush = (.count (.ok p.opened), flushed) ∧
        Stage.Packed c.stage c.store id access mine object o { closed := p.records }
          chunks.flatten flushed.stage flushed.store := by
  intro p after
  obtain ⟨hreplies, hafter⟩ :=
    packed_run chunks (Stage.packed_nothing hclean hcalm) hwrite hown hidle hlast
  have hpacked : Stage.Packed c.stage c.store id access mine object o p chunks.flatten after.stage
    after.store := hafter
  obtain ⟨s', st', hf, -, hflushed⟩ := hpacked.flushNow hwrite hown
  refine ⟨hreplies, hpacked, { after with stage := s', store := st' }, ?_, hflushed⟩
  simp only [Client.step, Stage.flush_idle _ (hpacked.same.outstanding.trans hidle), hf]

/-- From any client with nothing staged and no request out, over a store in memory whose
calls are not told to fail, on an object that its descriptor may write. Writes that follow
each other are all taken, and those that a flush ends are logged as the records into which
their lengths are packed: each from where the one before it ended, none empty or longer
than the capacity, and all of what was written between them. The object has the bytes of
all the writes. What still fits into the open record is taken without the store. -/
theorem writes_in_a_row_are_packed_greedily {id : ObjectId} {access : Access} {object : Bytes}
    {c : Client MemoryStore} (o : Nat) (chunks : List Bytes)
    (hk : MemoryStore.Kept c.stage.fd id access c.store object none)
    (hquiet : c.store.faults.Quiet) (hwrite : access.write = true)
    (hclean : c.stage.dirty = false) (hidle : c.stage.outstanding = 0)
    (hlast : o + chunks.flatten.length ≤ Offset.last) :
    let capacity := c.stage.capacity
    let p := Packing.pack capacity (chunks.map List.length)
    let records := recordsAt c.stage.fd (decide (c.stage.adapter.kind = .async)) o
    let logged := fun st : MemoryStore => st.log.filter fun record => record.fd = c.stage.fd
    let after := c.run (writesInRow o chunks)
    c.replies (writesInRow o chunks) = chunks.map (fun chunk => .count (.ok chunk.length)) ∧
      logged after.store = logged c.store ++ records p.closed ∧
      (∃ flushed, after.step .flush = (.count (.ok p.opened), flushed) ∧
        logged flushed.store = logged c.store ++ records p.records ∧
        (c.store.parked = [] → after.store.log = c.store.log ++ records p.closed ∧
          flushed.store.log = c.store.log ++ records p.records) ∧
        (flushed.store.content id).toBytes = Bytes.written object o chunks.flatten) ∧
      (∀ n ∈ p.records, 0 < n ∧ n ≤ capacity) ∧ p.records.sum = chunks.flatten.length ∧
      ∀ chunk : Bytes, chunk ≠ [] → p.opened + chunk.length ≤ capacity →
        o + chunks.flatten.length + chunk.length ≤ Offset.last →
        ∃ s, after.step (.write (o + chunks.flatten.length) chunk) =
          (.count (.ok chunk.length), { after with stage := s }) := by
  intro capacity p records logged after
  have hcalm := hk.calm hquiet
  obtain ⟨hreplies, hpacked, flushed, hflush, hclosed⟩ :=
    packed_row chunks hcalm hwrite (fun _ => decide_eq_true) hclean hidle hlast
  have htotal : p.records.sum = chunks.flatten.length := hclosed.total
  refine ⟨hreplies, hpacked.log, ⟨flushed, hflush, hclosed.log, ?_, ?_⟩, hpacked.fits.records,
    htotal, ?_⟩
  · -- with nothing parked there are no other records than those of the descriptor
    intro hnone
    have hall : MemoryStore.Calm c.stage.fd id access (fun _ => true) c.store object := by
      refine ⟨hk, hquiet, ?_⟩
      rw [hnone]
      intro x hx
      cases hx
    obtain ⟨-, hpacked', flushed', hflush', hclosed'⟩ :=
      packed_row chunks hall hwrite (fun _ _ => rfl) hclean hidle hlast
    obtain rfl : flushed = flushed' := congrArg Prod.snd (hflush.symm.trans hflush')
    have hlog := hpacked'.log
    have hlog' := hclosed'.log
    simp only [List.filter_true] at hlog hlog'
    exact ⟨hlog, hlog'⟩
  · have hcontent := hclosed.calm.kept.content
    dsimp only at hcontent
    rw [htotal, List.take_length] at hcontent
    exact hcontent
  · intro chunk hne hfits hend
    obtain ⟨s', hw⟩ := hpacked.write_fits hidle hne hfits hend
    refine ⟨s', ?_⟩
    simp only [Client.step, after, hw]

/-- A stage with a buffer of four bytes over a deferred store with an object of five. -/
def unwritten : Client MemoryStore :=
  { stage := .small, store := .single .deferred .readWrite [1, 2, 3, 4, 5] }

/-- Two chunks fill the buffer, one stays alone, and one is larger than the buffer. -/
theorem eleven_bytes_are_packed_into_four_records :
    let row := writesInRow 1 [[9], [8, 7, 6], [5], [4, 3, 2, 1, 0, 9]]
    unwritten.replies row =
        [.count (.ok 1), .count (.ok 3), .count (.ok 1), .count (.ok 6)] ∧
      (unwritten.run row).store.log =
        [⟨.first, 1, 4, true⟩, ⟨.first, 5, 1, true⟩, ⟨.first, 6, 4, true⟩] ∧
      (∃ c, (unwritten.run row).step .flush = (.count (.ok 2), c) ∧
        c.store.log =
          [⟨.first, 1, 4, true⟩, ⟨.first, 5, 1, true⟩, ⟨.first, 6, 4, true⟩,
            ⟨.first, 10, 2, true⟩] ∧
        (c.store.content 0).toBytes = [1, 9, 8, 7, 6, 5, 4, 3, 2, 1, 0, 9]) ∧
      ∃ s, (unwritten.run row).step (.write 12 [8, 7]) =
        (.count (.ok 2), { unwritten.run row with stage := s }) := by
  intro row
  obtain ⟨_, hout, hk⟩ := MemoryStore.single_kept .deferred .readWrite [1, 2, 3, 4, 5] {}
  cases hout
  have hquiet : unwritten.store.faults.Quiet := ⟨rfl, rfl, rfl, rfl, rfl⟩
  obtain ⟨hreplies, -, ⟨c, hflush, -, hlogs, hobject⟩, -, -, hnext⟩ :=
    writes_in_a_row_are_packed_greedily (c := unwritten) 1
      [[9], [8, 7, 6], [5], [4, 3, 2, 1, 0, 9]] hk hquiet rfl rfl rfl (by decide)
  obtain ⟨hlog, hlog'⟩ := hlogs rfl
  exact ⟨hreplies, hlog, ⟨c, hflush, hlog', hobject⟩,
    hnext [8, 7] (by decide) (by decide) (by decide)⟩

end Client

end StagedFiles
