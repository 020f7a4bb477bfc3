-- Reads that go through a file in order, from a buffer that holds nothing. The buffer
-- is filled at every multiple of its capacity behind the first offset, and nowhere else,
-- until all is read or a fill comes back short. So how a range is split into reads
-- makes no difference to the store.
import Mathlib.Algebra.GroupWithZero.Nat
import StagedFiles.Proofs.CalmObject
import StagedFiles.Proofs.FlatStage
import StagedFiles.Proofs.RecordedCalls
import StagedFiles.Proofs.RefusedRequests

namespace StagedFiles

/-! ## How many fills -/

/-- The `n` fills of a scan from `o` on that come after the first `k`. -/
def fills (fd : Fd) (capacity o k n : Nat) : List Job :=
  (List.range' k n).map fun i => .read fd (o + i * capacity) capacity

theorem fills_zero (fd : Fd) (capacity o k : Nat) : fills fd capacity o k 0 = [] := rfl

theorem fills_succ (fd : Fd) (capacity o k n : Nat) :
    fills fd capacity o k (n + 1) =
      .read fd (o + k * capacity) capacity :: fills fd capacity o (k + 1) n := by
  unfold fills
  rw [List.range'_succ, List.map_cons]

theorem fills_append (fd : Fd) (capacity o k m n : Nat) :
    fills fd capacity o k m ++ fills fd capacity o (k + m) n = fills fd capacity o k (m + n) := by
  unfold fills
  rw [← List.map_append, List.range'_append_1]

/-- The fills that it takes to read `n` bytes where `left` are left: one for each piece of
the capacity, up to the first that falls short. -/
def fillsFor (capacity left n : Nat) : Nat :=
  min ((n + capacity - 1) / capacity) (left / capacity + 1)

section FillsFor

variable {capacity left n k : Nat}

/-- The pieces of the capacity that it takes to hold more than `k` of them. -/
theorem pieces_of_lt (hcap : 0 < capacity) (hlo : k * capacity < n)
    (hhi : n ≤ (k + 1) * capacity) : (n + capacity - 1) / capacity = k + 1 := by
  rw [Nat.succ_mul] at hhi
  apply Nat.div_eq_of_lt_le
  · rw [Nat.succ_mul]
    omega
  · rw [Nat.succ_mul, Nat.succ_mul]
    omega

theorem fillsFor_zero (hcap : 0 < capacity) : fillsFor capacity left 0 = 0 := by
  unfold fillsFor
  rw [Nat.zero_add, Nat.div_eq_of_lt (Nat.sub_lt hcap Nat.one_pos), Nat.zero_min]

/-- Of bytes that are there, the pieces count. -/
theorem fillsFor_of_le (hcap : 0 < capacity) (hlo : k * capacity < n)
    (hhi : n ≤ (k + 1) * capacity) (hleft : n ≤ left) : fillsFor capacity left n = k + 1 := by
  have hk : k ≤ left / capacity := (Nat.le_div_iff_mul_le hcap).mpr (by omega)
  unfold fillsFor
  rw [pieces_of_lt hcap hlo hhi]
  omega

/-- Where the bytes end in a piece, that piece is the last. -/
theorem fillsFor_of_end (hcap : 0 < capacity) (hlo : k * capacity < n)
    (hle : k * capacity ≤ left) (hend : left < (k + 1) * capacity) :
    fillsFor capacity left n = k + 1 := by
  have hlast : left / capacity = k := Nat.div_eq_of_lt_le hle hend
  have hpieces : k + 1 ≤ (n + capacity - 1) / capacity := by
    rw [Nat.le_div_iff_mul_le hcap, Nat.succ_mul]
    omega
  unfold fillsFor
  rw [hlast]
  omega

/-- A range that ends inside the object takes as many fills as pieces. -/
theorem fillsFor_inside (hcap : 0 < capacity) (hleft : n ≤ left) :
    fillsFor capacity left n = (n + capacity - 1) / capacity := by
  have hpieces : (n + capacity - 1) / capacity ≤ left / capacity + 1 := by
    rw [← Nat.add_div_right left hcap]
    exact Nat.div_le_div_right (by omega)
  exact Nat.min_eq_left hpieces

end FillsFor

/-- The bytes of a fill are there to be copied. -/
theorem Adapter.Shown.length_copyOut {a : Adapter} {object : Bytes} {pos len : Nat}
    (h : a.Shown pos (Bytes.slice object pos len)) (hpos : 0 < min len (object.length - pos))
    (hlast : pos < Offset.last) (want : Nat) :
    (a.buffer.copyOut pos want).length = min want (min len (object.length - pos)) := by
  have hne : Bytes.slice object pos len ≠ [] := by
    apply List.length_pos_iff.mp
    rw [Bytes.length_slice]
    exact hpos
  rw [h.copyOut hne hlast, List.length_take, Bytes.length_slice]

namespace Stage

/-! ## The buffer on its way -/

/-- Where a scan from `o` on has come to after `k` fills and `n` bytes: nowhere with a
buffer that holds nothing, or into the bytes of the last fill. -/
inductive Scanned (o : Nat) (object : Bytes) (s : Stage) : Nat → Nat → Prop where
  | fresh : s.buffer.valid = false → Scanned o object s 0 0
  | filled {k n : Nat} :
      s.adapter.Shown (o + k * s.capacity)
        (Bytes.slice object (o + k * s.capacity) s.capacity) →
      k * s.capacity < n → n ≤ (k + 1) * s.capacity → Scanned o object s (k + 1) n

variable {s s' : Stage} {o k n want : Nat} {object : Bytes}

/-- Bytes that are there were read with as many fills as it takes. -/
theorem Scanned.fillsFor_eq (h : s.Scanned o object k n) (hn : n ≤ object.length - o) :
    fillsFor s.capacity (object.length - o) n = k := by
  have hcap : 0 < s.capacity := s.buffer.capacity_pos
  cases h with
  | fresh _ => exact fillsFor_zero hcap
  | filled _ hlo hhi => exact fillsFor_of_le hcap hlo hhi hn

/-- What the buffer has to copy is behind the bytes that were read, of the last fill. -/
theorem Scanned.hit (h : s.Scanned o object k n)
    (hhit : (s.buffer.copyOut (o + n) want).length ≠ 0) :
    n < k * s.capacity ∧
      s.Scanned o object k (n + (s.buffer.copyOut (o + n) want).length) := by
  rw [StagingBuffer.length_copyOut] at hhit ⊢
  split at hhit
  · rename_i hcond
    rw [if_pos hcond]
    cases h with
    | fresh hnone =>
      rw [hnone] at hcond
      cases hcond.1
    | @filled k _ hshown hlo hhi =>
      have hlen : s.buffer.len = _ := hshown.len
      have hstart : s.buffer.start = _ := hshown.start
      rw [Bytes.length_slice] at hlen
      rw [hlen, hstart] at hhit ⊢
      rw [Nat.succ_mul] at hhi ⊢
      refine ⟨by omega, .filled hshown (by omega) ?_⟩
      rw [Nat.succ_mul]
      omega
  · exact absurd rfl hhit

/-- It has nothing only where a fill ends or the object does. -/
theorem Scanned.miss (h : s.Scanned o object k n) (hwant : 0 < want)
    (hlast : o + n + want ≤ Offset.last)
    (hmiss : (s.buffer.copyOut (o + n) want).length = 0) :
    n = k * s.capacity ∨ object.length ≤ o + n := by
  cases h with
  | fresh _ => exact .inl (Nat.zero_mul _).symm
  | @filled k _ hshown hlo hhi =>
    by_contra hmore
    obtain ⟨hne, hin⟩ := not_or.mp hmore
    have hlen : s.buffer.len = _ := hshown.len
    have hstart : s.buffer.start = _ := hshown.start
    rw [Bytes.length_slice] at hlen
    rw [Nat.succ_mul] at hhi hne
    have hstop : o + n < s.buffer.stop := by
      unfold StagingBuffer.stop Offset.clampedEnd
      rw [hlen, hstart]
      omega
    rw [StagingBuffer.length_copyOut, if_pos ⟨hshown.valid, by omega, hstop⟩, hlen, hstart] at hmiss
    omega

/-- Counting a hit leaves the buffer. -/
theorem Scanned.countHit (h : s.Scanned o object k n) : s.countHit.Scanned o object k n := by
  cases h with
  | fresh hnone => exact .fresh hnone
  | filled hshown hlo hhi => exact .filled hshown hlo hhi

/-- Where a read finds nothing to copy, a fill ends and the next is needed. -/
theorem Scanned.at_fill (h : s.Scanned o object k n) (hn : n ≤ object.length - o)
    (hmode : n + want ≤ object.length - o ∨ n = k * s.capacity) (hwant : want ≠ 0)
    (hlast : o + n + want ≤ Offset.last)
    (hmiss : ¬ (s.buffer.copyOut (o + n) want).length ≠ 0) :
    n = k * s.capacity ∧ k * s.capacity < n + want ∧ k * s.capacity ≤ object.length - o := by
  have hkn : n = k * s.capacity := by
    rcases hmode with hin | hkn
    · rcases h.miss (Nat.pos_of_ne_zero hwant) hlast (not_not.mp hmiss) with hkn | hend
      · exact hkn
      · omega
    · exact hkn
  exact ⟨hkn, by omega, by omega⟩

/-! ## One read -/

variable {σ : Type} [ObjectStore σ] {fd : Fd} {F : FlatFile σ fd} {t t' t1 : Recorded σ}

/-- A fill where the last one ended is the next in the account. -/
theorem On.refill {a : Adapter} {r : Except Failure Nat} {f : Nat} {s1 : Stage}
    (h : On F.recorded.toSink s t object) (hclean : s.dirty = false)
    (hn : n = k * s.capacity) (hf : s.flushNow t = (.ok f, s1, t1))
    (hr : s1.countMiss.adapter.read (o + n) s1.countMiss.capacity t1 = (r, a, t')) :
    r = .ok (min s.capacity (object.length - (o + n))) ∧
      a.Shown (o + n) (Bytes.slice object (o + n) s.capacity) ∧ a.buffer.capacity = s.capacity ∧
      On F.recorded.toSink { s1.countMiss with adapter := a } t' object ∧
      t'.transfers = t.transfers ++ fills fd s.capacity o k 1 := by
  obtain ⟨hok, hshown, hon, -, hcap⟩ := h.refilled hf hr
  rw [flushNow_clean t hclean] at hf
  cases hf
  rw [view_of_clean hclean] at hok hshown hon
  rw [Bytes.length_slice] at hok
  refine ⟨hok, hshown, hcap, hon, ?_⟩
  rw [Adapter.read_transfers (Nat.le_refl _) hr, fills_succ, fills_zero, ← hn, ← h.fd_eq]
  rfl

/-- A stage that shows a fill has come to any byte of it. -/
theorem scanned_of_shown {n' : Nat} (hcap : s'.capacity = s.capacity) (hkn : n = k * s.capacity)
    (hshown : s'.adapter.Shown (o + n) (Bytes.slice object (o + n) s.capacity)) (hlo : n < n')
    (hhi : n' ≤ n + s.capacity) : s'.Scanned o object (k + 1) n' := by
  subst hkn
  rw [← hcap] at hshown hlo hhi
  refine .filled hshown hlo ?_
  rw [Nat.succ_mul]
  exact hhi

/-- A read that goes on where the scan has come to makes the fills that are still to be
made for it, and brings the scan to its end if the object reaches so far. It goes on from
the end of a fill, or ends inside the object. -/
theorem Scanned.readFrom {pos : Nat} {pieces : List Bytes} {r : Except Failure (List Bytes)}
    (hscan : s.Scanned o object k n) (h : On F.recorded.toSink s t object)
    (hclean : s.dirty = false) (hn : n ≤ object.length - o)
    (hmode : n + want ≤ object.length - o ∨ n = k * s.capacity) (hpos : pos = o + n)
    (hlast : pos + want ≤ Offset.last) (hr : s.readFrom t pos want pieces = (r, s', t')) :
    ∃ m, t'.transfers = t.transfers ++ fills fd s.capacity o k m ∧
      k + m = fillsFor s.capacity (object.length - o) (n + want) ∧
      On F.recorded.toSink s' t' object ∧
      (n + want ≤ object.length - o → s'.Scanned o object (k + m) (n + want)) := by
  fun_induction Stage.readFrom s t pos want pieces generalizing k n with
  | case1 s t pos pieces =>
    cases hr
    exact ⟨0, (List.append_nil _).symm, (hscan.fillsFor_eq hn).symm, h, fun _ => hscan⟩
  | case2 s t pos want pieces hw hit hh =>
    rename_i ih
    subst hpos
    have hlen : hit.length ≤ want := StagingBuffer.length_copyOut_le ..
    obtain ⟨hlo, hscan'⟩ : _ ∧ s.Scanned o object k (n + hit.length) := hscan.hit hh
    have hin : n + want ≤ object.length - o := hmode.resolve_right (Nat.ne_of_lt hlo)
    have hcount : On F.recorded.toSink s.countHit t object :=
      ⟨h.fd_eq, h.holds, h.sound.congr rfl (.refl _), h.reaches⟩
    have hrest : n + hit.length + (want - hit.length) = n + want := by omega
    have hafter := ih hscan'.countHit hcount hclean (by omega) (.inl (by omega))
      (Nat.add_assoc ..) (by omega) hr
    rw [hrest] at hafter
    exact hafter
  | case3 s t pos want pieces hw hit hh f s1 t1 =>
    rename_i hf
    rw [flushNow_clean t hclean] at hf
    cases hf
  | case4 s t pos want pieces hw hit hh f s1 t1 hf missed e a =>
    rename_i t2 hread
    obtain ⟨hok, -⟩ := h.refilled hf hread
    cases hok
  | case5 s t pos want pieces hw hit hh f s1 t1 hf missed a t2 =>
    rename_i filled hread
    subst hpos
    obtain ⟨hkn, hlo, hleft⟩ := hscan.at_fill hn hmode hw hlast hh
    obtain ⟨hok, -, -, hon, hfill⟩ := h.refill hclean hkn hf hread
    obtain ⟨-, rfl, rfl⟩ := by simpa only [Prod.mk.injEq] using hr
    have hcap : 0 < s.capacity := s.buffer.capacity_pos
    have hnone : min s.capacity (object.length - (o + n)) = 0 := (Except.ok.inj hok).symm
    refine ⟨1, hfill, (fillsFor_of_end hcap hlo hleft ?_).symm, hon, ?_⟩
    · rw [Nat.succ_mul]
      omega
    · intro hin
      omega
  | case6 s t pos want pieces hw hit hh f s1 t1 hf missed count a t2 hread filled hne =>
    rename_i got hg
    subst hpos
    obtain ⟨hkn, hlo, hleft⟩ := hscan.at_fill hn hmode hw hlast hh
    obtain ⟨hok, hshown, hcapa, hon, hfill⟩ := h.refill hclean hkn hf hread
    obtain ⟨-, rfl, rfl⟩ := by simpa only [Prod.mk.injEq] using hr
    have hcap : 0 < s.capacity := s.buffer.capacity_pos
    have hcount : count = min s.capacity (object.length - (o + n)) := Except.ok.inj hok
    have hfilled : filled.capacity = s.capacity := hcapa
    have hgot : got.length = min want count :=
      hcount ▸ hshown.length_copyOut (by omega) (by omega) want
    have hshort : count < s.capacity := by
      rcases hg with hshort | hnone
      · exact hfilled ▸ hshort
      · omega
    refine ⟨1, hfill, (fillsFor_of_end hcap hlo hleft ?_).symm, hon, ?_⟩
    · rw [Nat.succ_mul]
      omega
    · intro hin
      exact scanned_of_shown hfilled hkn hshown (by omega) (by omega)
  | case7 s t pos want pieces hw hit hh f s1 t1 hf missed count a t2 hread filled hne got =>
    rename_i hg ih
    subst hpos
    obtain ⟨hkn, hlo, hleft⟩ := hscan.at_fill hn hmode hw hlast hh
    obtain ⟨hok, hshown, hcapa, hon, hfill⟩ := h.refill hclean hkn hf hread
    obtain ⟨hfull, hsome⟩ := not_or.mp hg
    have hcount : count = min s.capacity (object.length - (o + n)) := Except.ok.inj hok
    have hfilled : filled.capacity = s.capacity := hcapa
    have hgot : got.length = min want count :=
      hcount ▸ hshown.length_copyOut (by omega) (by omega) want
    have hscan' : filled.Scanned o object (k + 1) (n + got.length) :=
      scanned_of_shown hfilled hkn hshown (by omega) (by omega)
    have hmode' : n + got.length + (want - got.length) ≤ object.length - o ∨
        n + got.length = (k + 1) * filled.capacity := by
      rw [hfilled, Nat.succ_mul]
      omega
    have hclean' : filled.dirty = false := by
      rw [flushNow_clean t hclean] at hf
      cases hf
      exact hclean
    have hrest : n + got.length + (want - got.length) = n + want := by omega
    obtain ⟨m, hm, htotal, hon', hafter⟩ :=
      ih hscan' hon hclean' (by omega) hmode' (Nat.add_assoc ..) (by omega) hr
    rw [hrest] at htotal hafter
    rw [hfilled] at hm htotal
    refine ⟨1 + m, ?_, ?_, hon', ?_⟩
    · rw [hm, hfill, List.append_assoc, fills_append]
    · rw [← Nat.add_assoc]
      exact htotal
    · rw [← Nat.add_assoc]
      exact hafter

end Stage

/-! ## Reads in a row -/

/-- Reads of these lengths, each from where the one before it ended. -/
def readsInRow : Nat → List Nat → List Act
  | _, [] => []
  | o, len :: lens => .read o len :: readsInRow (o + len) lens

namespace Client

variable {σ : Type} [ObjectStore σ] {fd : Fd} {F : FlatFile σ fd} {o k n want : Nat}
  {object : Bytes} {c : Client (Recorded σ)}

/-- A client with nothing staged and no request out, whose scan from `o` on has come to
`n` bytes with `k` fills. -/
structure Scanning (F : FlatFile σ fd) (o : Nat) (object : Bytes) (k n : Nat)
    (c : Client (Recorded σ)) : Prop where
  on : Stage.On F.recorded.toSink c.stage c.store object
  clean : c.stage.dirty = false
  idle : c.stage.outstanding = 0
  scanned : c.stage.Scanned o object k n

/-- A read that goes on with the scan. -/
theorem Scanning.read (h : Scanning F o object k n c) (want : Nat) (hn : n ≤ object.length - o)
    (hmode : n + want ≤ object.length - o ∨ n = k * c.stage.capacity)
    (hlast : o + n + want ≤ Offset.last) :
    ∃ m c', c.step (.read (o + n) want) = (.bytes (.ok (Bytes.slice object (o + n) want)), c') ∧
      c'.store.transfers = c.store.transfers ++ fills fd c.stage.capacity o k m ∧
      k + m = fillsFor c.stage.capacity (object.length - o) (n + want) ∧
      c'.stage.capacity = c.stage.capacity ∧
      (n + want ≤ object.length - o → Scanning F o object (k + m) (n + want) c') := by
  obtain ⟨stage, store, _, hread, -, -⟩ := h.on.readBytes hlast
  rw [Stage.view_of_clean h.clean] at hread
  have hstep : c.step (.read (o + n) want) =
      (.bytes (.ok (Bytes.slice object (o + n) want)), { c with stage, store }) := by
    simp only [Client.step, Stage.read_idle _ hlast h.idle, hread]
  have hsame := Stage.readBytes_same hread
  have hclean := Stage.readBytes_clean h.clean hread
  unfold Stage.readBytes at hread
  rcases hr : c.stage.readFrom c.store (o + n) want [] with ⟨f | pieces, stage', store'⟩
  · rw [hr] at hread
    cases hread
  · rw [hr] at hread
    obtain ⟨-, rfl, rfl⟩ := by simpa only [Prod.mk.injEq] using hread
    obtain ⟨m, hm, htotal, hon, hafter⟩ :=
      h.scanned.readFrom h.on h.clean hn hmode rfl hlast hr
    exact ⟨m, _, hstep, hm, htotal, hsame.capacity,
      fun hin => ⟨hon, hclean, hsame.outstanding.trans h.idle, hafter hin⟩⟩

/-- Reads in a row inside the object make the fills that are still to be made for all of
their bytes together. -/
theorem Scanning.reads (h : Scanning F o object k n c) (lens : List Nat)
    (hin : n + lens.sum ≤ object.length - o) (hlast : o + n + lens.sum ≤ Offset.last) :
    ∃ (m : Nat) (pieces : List Bytes),
      c.replies (readsInRow (o + n) lens) = pieces.map (fun b => .bytes (.ok b)) ∧
      pieces.map List.length = lens ∧
      pieces.flatten = Bytes.slice object (o + n) lens.sum ∧
      (c.run (readsInRow (o + n) lens)).store.transfers =
        c.store.transfers ++ fills fd c.stage.capacity o k m ∧
      k + m = fillsFor c.stage.capacity (object.length - o) (n + lens.sum) := by
  induction lens generalizing c k n with
  | nil => exact ⟨0, [], rfl, rfl, rfl, (List.append_nil _).symm, (h.scanned.fillsFor_eq hin).symm⟩
  | cons len lens ih =>
    rw [List.sum_cons] at hin hlast ⊢
    obtain ⟨m, c', hstep, hm, htotal, hcap, hafter⟩ :=
      h.read len (by omega) (.inl (by omega)) (by omega)
    obtain ⟨m', pieces, hreplies, hlens, hall, hm', htotal'⟩ :=
      ih (hafter (by omega)) (by omega) (by omega)
    rw [← Nat.add_assoc] at hreplies hall hm'
    rw [hcap] at hm' htotal'
    have hlen : (Bytes.slice object (o + n) len).length = len := by
      rw [Bytes.length_slice]
      omega
    have hsplit := (Bytes.hasAt_slice object (o + n) len).slice_eq_append (n := len + lens.sum)
      (by omega)
    rw [hlen, Nat.add_sub_cancel_left] at hsplit
    refine ⟨m + m', Bytes.slice object (o + n) len :: pieces, ?_, ?_, ?_, ?_, ?_⟩
    · unfold readsInRow replies
      rw [hstep, hreplies]
      rfl
    · rw [List.map_cons, hlens, hlen]
    · rw [List.flatten_cons, hall, hsplit]
    · unfold readsInRow run
      rw [List.foldl_cons, hstep]
      refine hm'.trans ?_
      rw [hm, List.append_assoc, fills_append]
    · rw [← Nat.add_assoc, htotal', Nat.add_assoc]

/-- From any client with no valid image, nothing staged and no request out, over a store in
memory whose calls are not told to fail, on an object that its descriptor may read: a read
in range brings what the object has there, and asks for the capacity at each multiple of it
behind the offset, once for each piece of the capacity and no further than the first that
falls short. If the range ends inside the object, any reads in a row that split it bring
the same bytes and ask for the same. -/
theorem reads_in_a_row_cost_what_one_read_costs {id : ObjectId} {access : Access}
    {c : Client (Recorded MemoryStore)} (o len : Nat)
    (hk : MemoryStore.Kept fd id access c.store.inner object none)
    (hquiet : c.store.inner.faults.Quiet) (hread : access.read = true) (hfd : c.stage.fd = fd)
    (hclean : c.stage.dirty = false) (hinvalid : c.stage.buffer.valid = false)
    (hidle : c.stage.outstanding = 0) (hlast : o + len ≤ Offset.last) :
    let capacity := c.stage.capacity
    let fills := fun n => (List.range n).map fun k => Job.read fd (o + k * capacity) capacity
    (∃ c', c.step (.read o len) = (.bytes (.ok (Bytes.slice object o len)), c') ∧
      c'.store.transfers = c.store.transfers ++
        fills (min ((len + capacity - 1) / capacity) ((object.length - o) / capacity + 1))) ∧
    (o + len ≤ object.length → ∀ lens : List Nat, lens.sum = len →
      ∃ pieces : List Bytes,
        c.replies (readsInRow o lens) = pieces.map (fun b => .bytes (.ok b)) ∧
          pieces.map List.length = lens ∧ pieces.flatten = Bytes.slice object o len ∧
          (c.run (readsInRow o lens)).store.transfers =
            c.store.transfers ++ fills ((len + capacity - 1) / capacity)) := by
  intro capacity fills
  let F := MemoryStore.calmFile fd id access _ (fun _ => decide_eq_true) hread
  have hfills : ∀ n, StagedFiles.fills fd capacity o 0 n = fills n := by
    intro n
    unfold StagedFiles.fills
    rw [← List.range_eq_range']
  have hon : Stage.On F.recorded.toSink c.stage c.store object := by
    refine Stage.on_of_clean hfd hclean (hk.calm hquiet) ?_
    intro hvalid
    rw [hinvalid] at hvalid
    cases hvalid
  have hscan : Scanning F o object 0 0 c := ⟨hon, hclean, hidle, .fresh hinvalid⟩
  have hcap : 0 < capacity := c.stage.buffer.capacity_pos
  constructor
  · obtain ⟨m, c', hstep, hm, htotal, -⟩ :=
      hscan.read len (Nat.zero_le _) (.inr (Nat.zero_mul _).symm) hlast
    rw [Nat.zero_add, Nat.zero_add] at htotal
    refine ⟨c', hstep, ?_⟩
    rw [hm, htotal]
    exact congrArg (c.store.transfers ++ ·) (hfills _)
  · rintro hin lens rfl
    have hleft : lens.sum ≤ object.length - o := by omega
    obtain ⟨m, pieces, hreplies, hlens, hall, hm, htotal⟩ :=
      hscan.reads lens (by rw [Nat.zero_add]; exact hleft) hlast
    rw [Nat.zero_add, Nat.zero_add, fillsFor_inside hcap hleft] at htotal
    refine ⟨pieces, hreplies, hlens, hall, hm.trans ?_⟩
    rw [htotal]
    exact congrArg (c.store.transfers ++ ·) (hfills _)

/-- A stage with a buffer of four bytes over a deferred store with an object of ten. -/
def unread : Client (Recorded MemoryStore) :=
  { stage := .small
    store := { inner := .single .deferred .readOnly [0, 1, 2, 3, 4, 5, 6, 7, 8, 9] } }

/-- Nine bytes in one read and in three, and a read that goes on behind the end. -/
theorem nine_bytes_cost_three_reads :
    (∃ c, unread.step (.read 1 9) = (.bytes (.ok [1, 2, 3, 4, 5, 6, 7, 8, 9]), c) ∧
      c.store.transfers = [.read .first 1 4, .read .first 5 4, .read .first 9 4]) ∧
    (∃ pieces : List Bytes,
      unread.replies (readsInRow 1 [3, 1, 5]) = pieces.map (fun b => .bytes (.ok b)) ∧
        pieces.flatten = [1, 2, 3, 4, 5, 6, 7, 8, 9] ∧
        (unread.run (readsInRow 1 [3, 1, 5])).store.transfers =
          [.read .first 1 4, .read .first 5 4, .read .first 9 4]) ∧
    ∃ c, unread.step (.read 6 100) = (.bytes (.ok [6, 7, 8, 9]), c) ∧
      c.store.transfers = [.read .first 6 4, .read .first 10 4] := by
  obtain ⟨_, hout, hk⟩ :=
    MemoryStore.single_kept .deferred .readOnly [0, 1, 2, 3, 4, 5, 6, 7, 8, 9] {}
  cases hout
  have hquiet : unread.store.inner.faults.Quiet := ⟨rfl, rfl, rfl, rfl, rfl⟩
  have hreads := fun o len =>
    reads_in_a_row_cost_what_one_read_costs (c := unread) o len hk hquiet rfl rfl rfl rfl rfl
  obtain ⟨⟨c, hone, hfills⟩, hrow⟩ := hreads 1 9 (by decide)
  obtain ⟨pieces, hreplies, -, hall, hsame⟩ := hrow (by decide) [3, 1, 5] (by decide)
  obtain ⟨⟨c', hpast, hend⟩, -⟩ := hreads 6 100 (by decide)
  exact ⟨⟨c, hone, hfills⟩, ⟨pieces, hreplies, hall, hsame⟩, c', hpast, hend⟩

end Client

end StagedFiles
