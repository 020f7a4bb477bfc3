-- Reads that come back short. A store may cut a read anywhere in the object, and a stage
-- takes a fill that did not fill the buffer for the end of the object. So a short read
-- means the end of the file, or that the last fill was cut; over a store that never cuts
-- a read of that length it means the end.
import StagedFiles.Proofs.ReachedClient
import StagedFiles.Proofs.StoreCalls

namespace StagedFiles

variable {σ : Type} [ObjectStore σ] {fd : Fd} {K : Keeper σ fd} {content : σ → Bytes}

/-! ## What a read of the store brings -/

/-- Reads of `count` bytes bring a share of them at least, or all that is left of the
object. With a share of one byte that is what every store owes. -/
structure Keeper.Brings (K : Keeper σ fd) (count share : Nat) : Prop where
  read {st st' : σ} {b bytes : Bytes} {out : Option (Ticket × Errand)} {offset : Nat} :
    K.Keeps st b out → ObjectStore.readAt fd offset count st = (.ok bytes, st') →
      min share (b.length - offset) ≤ bytes.length
  submitRead {st st1 st' : σ} {b bytes : Bytes} {offset : Nat} {ticket : Ticket} :
    K.Keeps st b none → ObjectStore.submitRead fd offset count st = (.ok ticket, st1) →
      ObjectStore.await ticket st1 = (some (.bytes (.ok bytes)), st') →
        min share (b.length - offset) ≤ bytes.length

variable {st st' st1 : σ} {object : Bytes} {share : Nat}

/-- Bytes that become the image are counted, all of them. -/
theorem Adapter.length_of_install {a a' : Adapter} {offset n : Nat} {bytes : Bytes}
    (h : a.install offset bytes = (.ok n, a')) : n = bytes.length := by
  unfold Adapter.install at h
  dsimp only at h
  split at h
  · cases h
  · cases h
    rfl

/-- A fill of the buffer brings as much as a read of the store. -/
theorem Adapter.read_brings {a a' : Adapter} {offset count n : Nat} (hfd : a.fd = fd)
    (hcap : count ≤ a.buffer.capacity) (hk : K.Keeps st object none) (hb : K.Brings count share)
    (hshare : share ≤ count) (h : a.read offset count st = (.ok n, a', st')) :
    min share (object.length - offset) ≤ n := by
  unfold Adapter.read Adapter.submitRead at h
  rw [checkCount_ok hcap, hfd] at h
  rcases hkind : a.kind with _ | _
  · unfold Adapter.readNow at h
    rcases hr : ObjectStore.readAt fd offset count st with ⟨torn | bytes, st1⟩
    · simp only [hkind, hfd, hr, Adapter.settle] at h
      cases h
    · rcases hi : a.install offset bytes with ⟨q, a1⟩
      simp only [hkind, hfd, hr, hi, Adapter.settle, Prod.mk.injEq] at h
      obtain ⟨rfl, -, -⟩ := h
      rw [length_of_install hi]
      exact hb.read hk hr
  · rcases hs : ObjectStore.submitRead fd offset count st with ⟨f | ticket, st1⟩
    · simp only [hkind, hs] at h
      cases h
    · simp only [hkind, hs, Adapter.settle] at h
      rcases hw : ObjectStore.await ticket st1 with ⟨c, st2⟩
      obtain ⟨-, ⟨f, rfl⟩ | ⟨bytes, rfl, -⟩⟩ := K.await_read (K.submitRead_ok hk hs) hw
      · simp only [hw, Adapter.finish] at h
        cases h
      · rcases hi : a.install offset (bytes.take count) with ⟨q, a1⟩
        simp only [hw, Adapter.finish, hi, Prod.mk.injEq] at h
        obtain ⟨rfl, -, -⟩ := h
        have hbrought := hb.submitRead hk hs hw
        rw [length_of_install hi, List.length_take]
        omega

/-! ## Where a read stops -/

namespace Stage

variable {s s' : Stage}

/-- The last fill of the buffer stopped at a position, before the buffer was full and
before the file ended, with a share at least. -/
structure CutAt (s : Stage) (file : Bytes) (share stop : Nat) : Prop where
  clean : s.dirty = false
  valid : s.buffer.valid = true
  stop_eq : s.buffer.start + s.buffer.len = stop
  goes_on : stop < file.length
  share_le : share ≤ s.buffer.len
  len_lt : s.buffer.len < s.capacity

/-- Flush, then a fill of the buffer. The fill shows what was seen, a share of it at least. -/
theorem refilled_brings {s1 : Stage} {a : Adapter} {pos n filled : Nat} (hfd : s.fd = fd)
    (hk : K.Keeps st object none) (hb : K.Brings s.capacity share) (hshare : share ≤ s.capacity)
    (hf : s.flushNow st = (.ok n, s1, st1))
    (hr : s1.countMiss.adapter.read pos s1.countMiss.capacity st1 = (.ok filled, a, st')) :
    K.Keeps st' (s.view object) none ∧ a.buffer.Shows (s.view object) pos filled ∧
      min share ((s.view object).length - pos) ≤ filled ∧ s1.dirty = false := by
  obtain ⟨object1, hq, hclean, hfd1, rfl⟩ := flushed_kept hfd hk hf
  have hcap : s1.capacity = s.capacity := (flushNow_same hf).capacity
  obtain ⟨hk', hfill⟩ := Adapter.read_kept hfd1 (Nat.le_refl _) hq.keeps hr
  have hbrings : K.Brings s1.countMiss.capacity share := by
    show K.Brings s1.capacity share
    rw [hcap]
    exact hb
  have hle : share ≤ s1.countMiss.capacity := hcap ▸ hshare
  have hcount := Adapter.read_brings hfd1 (Nat.le_refl _) hq.keeps hbrings hle hr
  cases hfill with
  | ok _ hshows => exact ⟨hk', hshows, hcount, hclean⟩

/-- A fill is there to copy, unless it stands at the last offset. -/
theorem length_copyOut_of_shows {b : StagingBuffer} {pos n : Nat} (h : b.Shows object pos n)
    (hn : n ≠ 0) (hlast : pos < Offset.last) (want : Nat) :
    (b.copyOut pos want).length = min want n := by
  have hstop : pos < b.stop := by
    unfold StagingBuffer.stop Offset.clampedEnd
    rw [h.start, h.len]
    omega
  rw [StagingBuffer.length_copyOut, if_pos ⟨h.valid, Nat.le_of_eq h.start, hstop⟩, h.start, h.len,
    Nat.sub_self, Nat.sub_zero]

/-- A read that stops short of what is wanted stops where the file ends, or where the last
fill was cut. -/
theorem readFrom_short {pos want : Nat} {pieces got : List Bytes} (hfd : s.fd = fd)
    (hk : K.Keeps st object none) (hb : K.Brings s.capacity share) (hpos : 0 < share)
    (hshare : share ≤ s.capacity) (hlast : pos + want ≤ Offset.last)
    (h : s.readFrom st pos want pieces = (.ok got, s', st')) :
    ∃ more : Bytes, got.reverse.flatten = pieces.reverse.flatten ++ more ∧
      (more.length < want → (s.view object).length ≤ pos + more.length ∨
        s'.CutAt (s.view object) share (pos + more.length)) := by
  fun_induction readFrom s st pos want pieces generalizing object with
  | case1 s st pos pieces =>
    cases h
    exact ⟨[], (List.append_nil _).symm, fun hlt => absurd hlt (Nat.not_lt_zero _)⟩
  | case2 s st pos want pieces hw hit hh =>
    rename_i ih
    have hle : hit.length ≤ want := StagingBuffer.length_copyOut_le ..
    obtain ⟨more, hgot, hshort⟩ := ih hfd hk hb hshare (by omega) h
    refine ⟨hit ++ more, by rw [hgot]; simp, ?_⟩
    intro hlt
    rw [List.length_append] at hlt ⊢
    rw [← Nat.add_assoc]
    exact hshort (by omega)
  | case3 s st pos want pieces hw hit hh f s1 st1 => cases h
  | case4 s st pos want pieces hw hit hh n s1 st1 hf missed f a st2 => cases h
  | case5 s st pos want pieces hw hit hh n s1 st1 hf missed a st2 filled =>
    rename_i hr
    simp only [Prod.mk.injEq, Except.ok.injEq] at h
    obtain ⟨rfl, rfl, rfl⟩ := h
    -- a fill of nothing, though a share was to be had before the end
    obtain ⟨-, -, hcount, -⟩ := refilled_brings hfd hk hb hshare hf hr
    refine ⟨[], (List.append_nil _).symm, fun _ => .inl ?_⟩
    rw [List.length_nil]
    omega
  | case6 s st pos want pieces hw hit hh n s1 st1 hf missed count a st2 hr filled hn got =>
    rename_i hg
    obtain ⟨-, hshows, hcount, hclean⟩ := refilled_brings hfd hk hb hshare hf hr
    have hlen : got.length = min want count := length_copyOut_of_shows hshows hn (by omega) want
    simp only [Prod.mk.injEq, Except.ok.injEq] at h
    obtain ⟨rfl, rfl, rfl⟩ := h
    refine ⟨got, by simp, ?_⟩
    intro hlt
    have hall : got.length = count := by omega
    rcases hg with hcut | hnone
    · by_cases hend : (s.view object).length ≤ pos + got.length
      · exact .inl hend
      · have hstop : filled.buffer.start + filled.buffer.len = pos + got.length := by
          show a.buffer.start + a.buffer.len = _
          rw [hshows.start, hshows.len, hall]
        have hfilled : filled.buffer.len = count := hshows.len
        refine .inr ⟨hclean, hshows.valid, hstop, by omega, ?_, ?_⟩
        · rw [hfilled]
          omega
        · rw [hfilled]
          exact hcut
    · omega
  | case7 s st pos want pieces hw hit hh n s1 st1 hf missed count a st2 hr filled hn got hg =>
    rename_i ih
    obtain ⟨hk', hshows, -, hclean⟩ := refilled_brings hfd hk hb hshare hf hr
    have hcap : filled.capacity = s.capacity :=
      ((flushNow_same hf).trans (missed_same hr)).capacity
    have hfd' : filled.fd = fd := ((flushNow_same hf).trans (missed_same hr)).fd.trans hfd
    have hle : got.length ≤ want := StagingBuffer.length_copyOut_le ..
    have hview : filled.view (s.view object) = s.view object := view_of_clean hclean
    obtain ⟨more, hgot, hshort⟩ := ih hfd' hk' (hcap ▸ hb) (hcap ▸ hshare) (by omega) h
    refine ⟨got ++ more, by rw [hgot]; simp, ?_⟩
    intro hlt
    rw [List.length_append] at hlt ⊢
    rw [hview] at hshort
    rw [← Nat.add_assoc]
    exact hshort (by omega)

end Stage

/-! ## Behind limits that stand -/

/-- The keeper of the stores of a kind that every use of a descriptor stays in. -/
def Keeper.within (K : Keeper σ fd) (P : σ → Prop)
    (hP : ∀ call st, StoreCall.Uses call → P st → P (call.on st)) : Keeper σ fd where
  Keeps st b out := K.Keeps st b out ∧ P st
  read_ok {st st' b out offset len bytes} h hc := by
    have hP' := (Leads.one (.readAt fd offset len) trivial (congrArg Prod.snd hc)).keeps hP h.2
    obtain ⟨hk, hle, hat⟩ := K.read_ok h.1 hc
    exact ⟨⟨hk, hP'⟩, hle, hat⟩
  read_error {st st' b out offset len torn} h hc := by
    have hP' := (Leads.one (.readAt fd offset len) trivial (congrArg Prod.snd hc)).keeps hP h.2
    exact ⟨K.read_error h.1 hc, hP'⟩
  write_ok {st st' b out offset n data} h hc := by
    have hP' := (Leads.one (.writeAt fd offset data) trivial (congrArg Prod.snd hc)).keeps hP h.2
    obtain ⟨hn, hk⟩ := K.write_ok h.1 hc
    exact ⟨hn, hk, hP'⟩
  write_error {st st' b out offset data f} h hc := by
    have hP' := (Leads.one (.writeAt fd offset data) trivial (congrArg Prod.snd hc)).keeps hP h.2
    obtain ⟨b', hfront, hk⟩ := K.write_error h.1 hc
    exact ⟨b', hfront, hk, hP'⟩
  submitRead_ok {st st' b offset len ticket} h hc := by
    have hsubmit := congrArg Prod.snd hc
    have hP' := (Leads.one (.submitRead fd offset len) trivial hsubmit).keeps hP h.2
    exact ⟨K.submitRead_ok h.1 hc, hP'⟩
  submitRead_error {st st' b offset len f} h hc := by
    have hsubmit := congrArg Prod.snd hc
    have hP' := (Leads.one (.submitRead fd offset len) trivial hsubmit).keeps hP h.2
    exact ⟨K.submitRead_error h.1 hc, hP'⟩
  submitWrite_ok {st st' b offset data ticket} h hc := by
    have hsubmit := congrArg Prod.snd hc
    have hP' := (Leads.one (.submitWrite fd offset data) trivial hsubmit).keeps hP h.2
    exact ⟨K.submitWrite_ok h.1 hc, hP'⟩
  submitWrite_error {st st' b offset data f} h hc := by
    have hsubmit := congrArg Prod.snd hc
    have hP' := (Leads.one (.submitWrite fd offset data) trivial hsubmit).keeps hP h.2
    exact ⟨K.submitWrite_error h.1 hc, hP'⟩
  await_read {st st' b ticket offset len c} h hc := by
    have hP' := (Leads.one (.await ticket) trivial (congrArg Prod.snd hc)).keeps hP h.2
    obtain ⟨hk, hcase⟩ := K.await_read h.1 hc
    exact ⟨⟨hk, hP'⟩, hcase⟩
  await_write {st st' b ticket offset data c} h hc := by
    have hP' := (Leads.one (.await ticket) trivial (congrArg Prod.snd hc)).keeps hP h.2
    rcases K.await_write h.1 hc with ⟨f, b', hf, hfront, hk⟩ | ⟨n, hn, hle, hk⟩
    · exact .inl ⟨f, b', hf, hfront, hk, hP'⟩
    · exact .inr ⟨n, hn, hle, hk, hP'⟩
  stat {st st' b out r} h hc := by
    have hP' := (Leads.one (.stat fd) trivial (congrArg Prod.snd hc)).keeps hP h.2
    exact ⟨K.stat h.1 hc, hP'⟩
  sync {st st' b out r} h hc := by
    have hP' := (Leads.one (.sync fd) trivial (congrArg Prod.snd hc)).keeps hP h.2
    exact ⟨K.sync h.1 hc, hP'⟩
  truncate_ok {st st' b out len} h hc := by
    have hP' := (Leads.one (.truncate fd len) trivial (congrArg Prod.snd hc)).keeps hP h.2
    exact ⟨K.truncate_ok h.1 hc, hP'⟩
  truncate_error {st st' b out len f} h hc := by
    have hP' := (Leads.one (.truncate fd len) trivial (congrArg Prod.snd hc)).keeps hP h.2
    exact ⟨K.truncate_error h.1 hc, hP'⟩

namespace MemoryStore

/-- No call sets the limits. -/
theorem limits_on {limits : Limits} (call : StoreCall) (t : Throttled MemoryStore)
    (h : t.limits = limits) : (call.on t).limits = limits := by
  cases call <;> exact h

/-- The store in memory behind limits that stand. -/
def limited (fd : Fd) (o : ObjectId) (access : Access) (limits : Limits) :
    Keeper (Throttled MemoryStore) fd :=
  (keeper fd o access).within (fun t => t.limits = limits) fun call t _ => limits_on call t

variable {o : ObjectId} {access : Access} {limits : Limits} {count : Nat}

/-- A read that comes out well brought what the object holds. -/
theorem Kept.slice_of_perform {st : MemoryStore} {out : Option (Ticket × Job)} {b bytes : Bytes}
    {offset len : Nat} (h : Kept fd o access st b out)
    (hc : (st.perform (.read fd offset len)).1 = .bytes (.ok bytes)) :
    bytes = Bytes.slice b offset len := by
  rcases hr : st.performRead fd offset len with ⟨f | brought, after⟩
  · simp only [perform, hr] at hc
    cases hc
  · simp only [perform, hr, Completion.bytes.injEq, Except.ok.injEq] at hc
    subst hc
    exact (h.performRead_ok hr).2

/-- It tells what it keeps, as behind limits that change. -/
theorem limited_tells (fd : Fd) (o : ObjectId) (access : Access) (limits : Limits) :
    (limited fd o access limits).Tells fun t => (t.inner.content o).toBytes := by
  rintro t b out ⟨⟨job, -, hk⟩, -⟩
  exact hk.content

/-- It brings all that it is asked for, up to its cap. -/
theorem limited_brings (h : share ≤ Limits.capped limits.maxRead count) :
    (limited fd o access limits).Brings count share where
  read hkeeps hc := by
    obtain ⟨⟨job, -, hk⟩, rfl⟩ := hkeeps
    obtain ⟨-, rfl⟩ := hk.readAt_ok (Throttled.pass_eq hc)
    rw [Bytes.length_slice]
    omega
  submitRead hkeeps hs hc := by
    obtain ⟨⟨job, hjob, hk⟩, rfl⟩ := hkeeps
    cases hjob
    obtain ⟨ready, hready, hran, -⟩ :=
      (hk.submitRead_ok (Throttled.pass_eq hs)).await (Throttled.pass_eq hc)
    rw [hready.slice_of_perform (Option.some.inj hran).symm, Bytes.length_slice]
    omega

/-- A store with one object behind limits, which is open under the first descriptor. -/
theorem single_limited (delivery : Delivery) (access : Access) (data : Bytes) (limits : Limits) :
    (limited .first 0 access limits).Keeps { inner := single delivery access data, limits } data
      none :=
  ⟨single_kept delivery access data limits, rfl⟩

end MemoryStore

/-! ## What a short read means -/

namespace Client

variable {capacity : Nat} {c c' : Client σ}

/-- A read that brings fewer bytes than it was asked for has come to the end of the file that
is seen, or the last fill of the buffer was cut. Where the store cuts no read of the length of
the buffer, it has come to the end. -/
theorem a_short_read_is_the_end_or_a_cut (hK : K.Tells content) (hc : Reached K capacity c)
    (hidle : c.stage.outstanding = 0) (hpos : 0 < share) (hshare : share ≤ capacity)
    (hb : K.Brings capacity share) {offset len : Nat} (hlast : offset + len ≤ Offset.last)
    {bytes : Bytes} (hstep : c.step (.read offset len) = (.bytes (.ok bytes), c'))
    (hshort : bytes.length < len) :
    ((c.seen content).length ≤ offset + bytes.length ∨
        c'.stage.CutAt (c.seen content) share (offset + bytes.length)) ∧
      (share = capacity → (c.seen content).length ≤ offset + bytes.length) := by
  have hrests : Rests K content capacity c := hc.rests hK hidle
  have hcap := hrests.capacity_eq
  rcases hr : c.stage.readBytes c.store offset len with ⟨r, stage, store⟩
  simp only [Client.step, Stage.read_idle _ hlast hidle, hr, Prod.mk.injEq, Reply.bytes.injEq]
    at hstep
  obtain ⟨rfl, rfl⟩ := hstep
  have hcap' : stage.capacity = capacity := (Stage.readBytes_same hr).capacity.trans hcap
  unfold Stage.readBytes at hr
  rcases hf : c.stage.readFrom c.store offset len [] with ⟨f | got, s1, st1⟩
  · rw [hf] at hr
    cases hr
  · rw [hf] at hr
    simp only [Prod.mk.injEq, Except.ok.injEq] at hr
    obtain ⟨rfl, rfl, rfl⟩ := hr
    obtain ⟨more, hgot, hend⟩ := Stage.readFrom_short hrests.held.fd_eq hrests.keeps
      (hcap.symm ▸ hb) hpos (hcap.symm ▸ hshare) hlast hf
    have hmore : got.reverse.flatten = more := hgot
    rw [hmore] at hshort ⊢
    refine ⟨hend hshort, ?_⟩
    intro hall
    rcases hend hshort with hend | hcut
    · exact hend
    · have hlt := hcut.len_lt
      have hle := hcut.share_le
      omega

/-- A client of a store with an object of eight bytes, behind limits that stand. -/
def behind (limits : Limits) : Client (Throttled MemoryStore) :=
  { stage := .small
    store := { inner := MemoryStore.single .deferred .readWrite [1, 2, 3, 4, 5, 6, 7, 8], limits } }

/-- The object behind the limits. -/
abbrev objectBehind (t : Throttled MemoryStore) : Bytes := (t.inner.content 0).toBytes

theorem behind_reached (limits : Limits) :
    Reached (MemoryStore.limited .first 0 .readWrite limits) 4 (behind limits) :=
  .built Stage.small_built rfl (MemoryStore.single_limited ..)

/-- A cap of two bytes cuts a read of four. -/
theorem read_behind_a_cap : (behind { maxRead := some 2 }).step (.read 0 4) =
    (.bytes (.ok [1, 2]), ((behind { maxRead := some 2 }).step (.read 0 4)).2) :=
  Prod.ext (by decide +kernel) rfl

theorem a_short_read_is_a_cut_behind_a_cap_and_the_end_without :
    ((behind { maxRead := some 2 }).step (.read 0 4)).2.stage.CutAt
        ((behind { maxRead := some 2 }).seen objectBehind) 2 2 ∧
      ((behind {}).step (.read 5 9)).1 = .bytes (.ok [6, 7, 8]) ∧
      ((behind {}).seen objectBehind).length ≤ 8 := by
  have hend : (behind {}).step (.read 5 9) =
      (.bytes (.ok [6, 7, 8]), ((behind {}).step (.read 5 9)).2) := Prod.ext (by decide +kernel) rfl
  obtain ⟨hcase, -⟩ := a_short_read_is_the_end_or_a_cut
    (MemoryStore.limited_tells .first 0 .readWrite { maxRead := some 2 }) (behind_reached _) rfl
    (by decide : 0 < 2) (by decide) (MemoryStore.limited_brings (by decide)) (by decide)
    read_behind_a_cap (by decide)
  obtain ⟨-, hwhole⟩ := a_short_read_is_the_end_or_a_cut
    (MemoryStore.limited_tells .first 0 .readWrite {}) (behind_reached _) rfl
    (by decide : 0 < 4) (by decide) (MemoryStore.limited_brings (by decide)) (by decide) hend
    (by decide)
  refine ⟨?_, congrArg Prod.fst hend, hwhole rfl⟩
  rcases hcase with hlast | hstop
  · exact absurd hlast (by decide +kernel)
  · exact hstop

/-- A store that owes one byte of each read may bring two, with six still to come. -/
theorem a_short_read_is_not_always_the_end :
    (MemoryStore.limited .first 0 .readWrite { maxRead := some 2 }).Brings 4 1 ∧
      ¬ ∀ (c c' : Client (Throttled MemoryStore)) (offset len : Nat) (bytes : Bytes),
        Reached (MemoryStore.limited .first 0 .readWrite { maxRead := some 2 }) 4 c →
        c.stage.outstanding = 0 → offset + len ≤ Offset.last →
        c.step (.read offset len) = (.bytes (.ok bytes), c') → bytes.length < len →
          (c.seen objectBehind).length ≤ offset + bytes.length := by
  refine ⟨MemoryStore.limited_brings (by decide), ?_⟩
  intro hall
  have hend := hall _ _ 0 4 [1, 2] (behind_reached _) rfl (by decide) read_behind_a_cap (by decide)
  exact absurd hend (by decide +kernel)

end Client

end StagedFiles
