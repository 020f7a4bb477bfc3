-- Requests of a stage over a store that keeps its object. A read that was
-- handed in leaves the file as it is seen, however it starts and ends. A write
-- lays a front of its data over the file, as much as its completion counts.
import StagedFiles.Proofs.StageRequests
import StagedFiles.Proofs.StageView

namespace StagedFiles

/-- A write came out: a front of the data at most lies over the file, and no
more and no less than it counts when it came out well. -/
structure Laid (file : Bytes) (offset : Nat) (data : Bytes) (r : Except Failure Nat)
    (file' : Bytes) : Prop where
  front : Bytes.FrontLaid file offset data file'
  counted : ∀ n, r = .ok n →
    n ≤ data.length ∧ file' = Bytes.overlay file offset (data.take n)

/-- The bytes are what the file holds from the offset on, no more than asked. -/
structure Delivered (file : Bytes) (offset len : Nat) (bytes : Bytes) : Prop where
  length_le : bytes.length ≤ len
  held : Bytes.HasAt file offset bytes

namespace Stage

/-! ## While a request is out -/

/-- The buffer holds the data of a write, which do not count as an image. -/
structure Holds (s : Stage) (offset : Nat) (data : Bytes) : Prop where
  clean : s.dirty = false
  invalid : s.buffer.valid = false
  start : s.buffer.start = offset
  image : s.buffer.image = data

theorem Holds.congr {s s' : Stage} {offset : Nat} {data : Bytes} (h : s.Holds offset data)
    (hd : s'.dirty = s.dirty) (hb : s'.buffer = s.buffer) : s'.Holds offset data := by
  refine ⟨hd.trans h.clean, ?_, ?_, ?_⟩
  · rw [hb]
    exact h.invalid
  · rw [hb]
    exact h.start
  · rw [hb]
    exact h.image

theorem Holds.sound {s : Stage} {offset : Nat} {data : Bytes} (h : s.Holds offset data)
    (object : Bytes) : s.Sound object := sound_of_invalid h.clean h.invalid

/-- The stage waits for a transfer of its store, for a request of its caller.
Nothing is staged meanwhile. A read asks for all that the buffer takes, and the
buffer holds the data of a write. -/
inductive Waits (s : Stage) : Errand → Errand → Prop where
  | read {offset len : Nat} : s.dirty = false → s.inflight.requests = [.read offset len] →
      Waits s (.read offset len) (.read offset s.capacity)
  | write {offset : Nat} {data : Bytes} : s.Holds offset data →
      s.inflight.requests = [.write offset data.length] →
      Waits s (.write offset data) (.write offset data)

theorem Waits.clean {s : Stage} {asked made : Errand} (h : s.Waits asked made) :
    s.dirty = false := by
  cases h with
  | read hd _ => exact hd
  | write hholds _ => exact hholds.clean

theorem Waits.requests {s : Stage} {asked made : Errand} (h : s.Waits asked made) :
    ∃ request, s.inflight.requests = [request] := by
  cases h with
  | read _ hreq => exact ⟨_, hreq⟩
  | write _ hreq => exact ⟨_, hreq⟩

theorem Waits.outstanding {s : Stage} {asked made : Errand} (h : s.Waits asked made) :
    s.outstanding = 1 := by
  obtain ⟨request, hreq⟩ := h.requests
  unfold Stage.outstanding InFlight.count
  rw [hreq]
  rfl

/-! ## Answers -/

variable {σ : Type} [ObjectStore σ] {fd : Fd} {K : Keeper σ fd} {s s' : Stage} {st st' : σ}
  {object : Bytes}

/-- A read that filled the buffer, or failed to, leaves the file as it is
seen. Its answer is what the file holds. -/
theorem answerRead_kept {offset len count : Nat} {q : Except Failure Nat} {a : Adapter}
    {c : Completion} (hd : s.dirty = false) (hk : K.Keeps st object none)
    (hfill : s.adapter.Filled K object offset count q a)
    (h : (s.released a).answerRead offset len q = (c, s')) :
    ∃ r, c = .bytes r ∧ Quiet K (s.adapter.Unhurt K r) s object s' st object ∧
      s'.outstanding = 0 ∧ ∀ bytes, r = .ok bytes → Delivered object offset len bytes := by
  unfold answerRead at h
  cases hfill with
  | ok _ hshows =>
    cases h
    have hsound : (s.released a).Sound object := sound_of_shows hd hshows
    refine ⟨_, rfl, ⟨hk, ?_, fun _ => placed_of_clean hd, fun _ _ => hsound.congr rfl (.refl _)⟩,
      rfl, ?_⟩
    · rw [view_of_clean hd]
      exact view_of_clean (s := s.released a) hd
    · intro bytes hbytes
      cases hbytes
      have hat := hsound.hasAt_copyOut offset len
      rw [view_of_clean (s := s.released a) hd] at hat
      exact ⟨StagingBuffer.length_copyOut_le .., hat⟩
  | error _ hsame =>
    cases h
    refine ⟨_, rfl, ⟨hk, ?_, fun _ => placed_of_clean hd, fun hu hs => ?_⟩, rfl, ?_⟩
    · rw [view_of_clean hd]
      exact view_of_clean (s := s.released a) hd
    · exact hs.congr rfl (hsame (Adapter.unhurt_error.mp hu))
    · intro bytes hbytes
      cases hbytes

/-- A write of what the buffer holds lays over the object what it counts. -/
theorem answerWrite_kept {offset : Nat} {data : Bytes} {q : Except Failure Nat} {a : Adapter}
    {c : Completion} (hholds : s.Holds offset data) (hbuf : a.buffer = s.buffer)
    (hput : K.Put object offset data st q)
    (h : (s.released a).answerWrite data.length q = (c, s')) :
    ∃ object', K.Keeps st object' none ∧ s'.Sound object' ∧ s'.dirty = false ∧
      s'.outstanding = 0 ∧ c = .count q ∧ Laid object offset data q object' := by
  unfold answerWrite at h
  have hinvalid : (s.released a).buffer.valid = false := by
    show a.buffer.valid = false
    rw [hbuf]
    exact hholds.invalid
  cases hput with
  | ok hn hk =>
    rename_i n
    dsimp only at h
    have hlaid : Laid object offset data (.ok n) (Bytes.overlay object offset (data.take n)) := by
      refine ⟨Or.inr ⟨n, rfl⟩, ?_⟩
      intro m hm
      cases hm
      exact ⟨hn, rfl⟩
    split at h
    · rename_i hall
      cases h
      refine ⟨_, hk, ?_, hholds.clean, rfl, rfl, hlaid⟩
      refine sound_of_clean hholds.clean ?_
      intro _
      show Bytes.HasAt _ a.buffer.start a.buffer.image
      rw [hbuf, hall, List.take_length]
      have hstart : s.buffer.start = offset := hholds.start
      have himage : s.buffer.image = data := hholds.image
      rw [hstart, himage]
      exact Bytes.hasAt_overlay ..
    · cases h
      exact ⟨_, hk, sound_of_invalid hholds.clean hinvalid, hholds.clean, rfl, rfl, hlaid⟩
  | error hfront hk =>
    cases h
    refine ⟨_, hk, sound_of_invalid hholds.clean hinvalid, hholds.clean, rfl, rfl, hfront, ?_⟩
    intro n hn
    cases hn

/-! ## Starts -/

/-- After the step a request is out, and the file is seen as before. -/
structure Pending (K : Keeper σ fd) (s : Stage) (object : Bytes) (s' : Stage) (st : σ)
    (object' : Bytes) (ticket : Ticket) (asked made : Errand) : Prop where
  keeps : K.Keeps st object' (some (ticket, made))
  waits : s'.Waits asked made
  view : s'.view object' = s.view object
  sound : s.Sound object → s'.Sound object'

theorem Pending.placed {s s' : Stage} {object' : Bytes} {ticket : Ticket} {asked made : Errand}
    (h : Pending K s object s' st object' ticket asked made) : s'.Placed :=
  placed_of_clean h.waits.clean

/-- The ways in which a read comes out that was handed in: refused, over, or out. -/
inductive ReadOutcome (K : Keeper σ fd) (s : Stage) (object : Bytes) (offset len : Nat) :
    Except Failure (Started Completion) → Stage → σ → Prop where
  | refused {f : Failure} {s' : Stage} {st' : σ} {object' : Bytes} :
      Quiet K True s object s' st' object' → s'.outstanding = 0 →
      ReadOutcome K s object offset len (.error f) s' st'
  | ended {q : Except Failure Bytes} {s' : Stage} {st' : σ} {object' : Bytes} :
      Quiet K (s.adapter.Unhurt K q) s object s' st' object' → s'.outstanding = 0 →
      (s.Sound object → ∀ bytes, q = .ok bytes → Delivered (s.view object) offset len bytes) →
      ReadOutcome K s object offset len (.ok (.finished (.bytes q))) s' st'
  | out {ticket : Ticket} {s' : Stage} {st' : σ} {object' : Bytes} {made : Errand} :
      Pending K s object s' st' object' ticket (.read offset len) made →
      ReadOutcome K s object offset len (.ok (.submitted ticket)) s' st'

theorem readAio_kept {offset len : Nat} {r : Except Failure (Started Completion)}
    (hfd : s.fd = fd) (hk : K.Keeps st object none) (hidle : s.outstanding = 0)
    (h : s.readAio offset len st = (r, s', st')) :
    ReadOutcome K s object offset len r s' st' := by
  cases readAio_cases h with
  | beyond _ => exact .refused (.refl hk) hidle
  | busy _ hbusy => exact absurd hidle hbusy
  | hit _ hcovers =>
    refine .ended ((Quiet.refl hk).congr rfl (.refl _)) hidle ?_
    intro hs bytes hbytes
    cases hbytes
    exact ⟨StagingBuffer.length_copyOut_le .., hs.hasAt_copyOut offset len⟩
  | @large q s1 _ _ _ _ hr hs' =>
    obtain ⟨object', hq, hbytes⟩ := readBytes_kept hfd hk hr
    have hidle1 : s1.outstanding = 0 := (readBytes_same hr).outstanding.trans hidle
    subst hs'
    cases q with
    | error f =>
      refine .ended hq hidle1 ?_
      intro _ bytes hbytes
      cases hbytes
    | ok got =>
      refine .ended (hq.congr rfl (.refl _)) hidle1 ?_
      intro hs bytes hgot
      obtain ⟨hlen, hat⟩ := hbytes hs bytes hgot
      exact ⟨hlen, hat⟩
  | unflushed _ hf =>
    obtain ⟨object', hq, _⟩ := flushNow_kept hfd hk hf
    exact .refused hq ((flushNow_same hf).outstanding.trans hidle)
  | @refused n f s1 a st1 _ _ hf hs =>
    obtain ⟨object1, hq, _, hfd1, _⟩ := flushed_kept hfd hk hf
    rcases Adapter.submitRead_kept hfd1 (Nat.le_refl _) hq.keeps hs with
      ⟨_, _, rfl, hk'⟩ | ⟨_, hr, _⟩ | ⟨_, hr, _⟩
    · have hq' : Quiet K True s object s1 st' object1 := ⟨hk', hq.view, hq.placed, hq.sound⟩
      exact .refused (hq'.congr rfl (.refl _)) rfl
    · cases hr
    · cases hr
  | @submitted n ticket s1 a st1 _ _ hf hs =>
    obtain ⟨object1, hq, hclean, hfd1, _⟩ := flushed_kept hfd hk hf
    rcases Adapter.submitRead_kept hfd1 (Nat.le_refl _) hq.keeps hs with
      ⟨_, hr, _⟩ | ⟨_, hr, rfl, hk'⟩ | ⟨_, hr, _⟩
    · cases hr
    · cases hr
      have hpending : Pending K s object (s1.asked offset len) st' object1 ticket
          (.read offset len) (.read offset s1.capacity) := by
        refine ⟨hk', .read hclean rfl, hq.view, ?_⟩
        intro hsound
        exact (hq.sound trivial hsound).congr rfl (.refl _)
      exact .out hpending
    · cases hr
  | @inline n q s1 a st1 _ _ hf hs =>
    obtain ⟨object1, hq, hclean, hfd1, hobject⟩ := flushed_kept hfd hk hf
    rcases Adapter.submitRead_kept hfd1 (Nat.le_refl _) hq.keeps hs with
      ⟨_, hr, _⟩ | ⟨_, hr, _⟩ | ⟨_, hr, hk', hfill⟩
    · cases hr
    · cases hr
    · cases hr
      rcases ha : ((s1.asked offset len).released a).answerRead offset len q with ⟨c, s2⟩
      have hasked : Quiet K True s object (s1.asked offset len) st1 object1 := hq.congr rfl (.refl _)
      obtain ⟨r, rfl, hq', hidle', hdelivered⟩ :=
        answerRead_kept (s := s1.asked offset len) hclean hk' hfill ha
      refine .ended (hasked.trans (hq'.mono (flushNow_same hf).adapter.unhurt)) hidle' ?_
      intro _ bytes hbytes
      rw [← hobject]
      exact hdelivered bytes hbytes

/-- The ways in which a write comes out that was handed in: refused, over, or out. -/
inductive WriteOutcome (K : Keeper σ fd) (s : Stage) (object : Bytes) (offset : Nat)
    (data : Bytes) : Except Failure (Started Completion) → Stage → σ → Prop where
  | refused {f : Failure} {s' : Stage} {st' : σ} {object' : Bytes} :
      Quiet K True s object s' st' object' → s'.outstanding = 0 →
      WriteOutcome K s object offset data (.error f) s' st'
  | ended {q : Except Failure Nat} {s' : Stage} {st' : σ} {object' : Bytes} :
      K.Keeps st' object' none → s'.outstanding = 0 → Mends s object s' object' (∃ n, q = .ok n) →
      Laid (s.view object) offset data q (s'.view object') →
      WriteOutcome K s object offset data (.ok (.finished (.count q))) s' st'
  | out {ticket : Ticket} {s' : Stage} {st' : σ} {object' : Bytes} {made : Errand} :
      Pending K s object s' st' object' ticket (.write offset data) made →
      WriteOutcome K s object offset data (.ok (.submitted ticket)) s' st'

/-- The loaded stage holds the data, and would write nothing else. -/
theorem loaded_holds {offset : Nat} {data : Bytes} (h : data.length ≤ s.buffer.capacity)
    (hd : s.dirty = false) : (s.loaded offset data h).Holds offset data :=
  ⟨hd, rfl, rfl, StagingBuffer.peek_poke _ 0 data (by rw [Nat.zero_add]; exact h)⟩

/-- The data that a stage was loaded with are handed in. -/
theorem loaded_submitWrite_kept {offset : Nat} {data : Bytes} {a : Adapter}
    {r : Except Failure (Started (Except Failure Nat))} (hcap : data.length ≤ s.buffer.capacity)
    (hfd : s.fd = fd) (hd : s.dirty = false) (hk : K.Keeps st object none)
    (h : (s.loaded offset data hcap).adapter.submitWrite offset data.length st = (r, a, st')) :
    (s.loaded offset data hcap).Holds offset data ∧
      a.buffer = (s.loaded offset data hcap).buffer ∧
      ((∃ f, r = .error f ∧ K.Keeps st' object none) ∨
        (∃ ticket, r = .ok (.submitted ticket) ∧
          K.Keeps st' object (some (ticket, .write offset data))) ∨
        ∃ q, r = .ok (.finished q) ∧ K.Put object offset data st' q) := by
  have hloaded : (s.loaded offset data hcap).adapter.fd = fd := hfd
  obtain ⟨hbuf, hcase⟩ := Adapter.submitWrite_kept hloaded hcap hk h
  have hholds : (s.loaded offset data hcap).Holds offset data := loaded_holds hcap hd
  have hpeek : (s.loaded offset data hcap).adapter.buffer.peek 0 data.length = data :=
    hholds.image
  rw [hpeek] at hcase
  exact ⟨hholds, hbuf, hcase⟩

/-- A write that the store refused gives the image back that counted before, with all of the
region; without one there is none. -/
theorem restored_loaded {offset : Nat} {data : Bytes} {a : Adapter}
    {hcap : data.length ≤ s.buffer.capacity}
    (hbuf : a.buffer = (s.loaded offset data hcap).buffer) :
    (a.restored (SavedImage.of s.buffer data.length)).buffer.valid = s.buffer.valid ∧
      (s.buffer.valid = true →
        s.buffer.Alike (a.restored (SavedImage.of s.buffer data.length)).buffer) := by
  rcases hv : s.buffer.valid with _ | _
  · rw [SavedImage.of_invalid hv]
    refine ⟨?_, fun h => by cases h⟩
    show a.buffer.valid = false
    rw [hbuf]
    rfl
  · rw [SavedImage.of_valid hv]
    have hback : s.buffer.Alike (SavedImage.restore
        ⟨s.buffer.start, s.buffer.len, s.buffer.peek 0 data.length⟩ a.buffer) := by
      apply SavedImage.restore_alike hv hcap
      · rw [hbuf]
        rfl
      · rw [hbuf]
        rfl
    exact ⟨hback.valid.trans hv, fun _ => hback⟩

/-- So it leaves the file as it is seen. -/
theorem restored_kept {offset : Nat} {data : Bytes} {a : Adapter}
    {hcap : data.length ≤ s.buffer.capacity} (hd : s.dirty = false)
    (hbuf : a.buffer = (s.loaded offset data hcap).buffer) (hk : K.Keeps st object none) :
    Quiet K True s object
      ((s.loaded offset data hcap).released (a.restored (SavedImage.of s.buffer data.length)))
      st object := by
  obtain ⟨hvalid, himage⟩ := restored_loaded hbuf
  have hd' : ((s.loaded offset data hcap).released
      (a.restored (SavedImage.of s.buffer data.length))).dirty = false := hd
  rcases hv : s.buffer.valid with _ | _
  · refine ⟨hk, ?_, fun _ => placed_of_clean hd', fun _ _ => sound_of_invalid hd' (hvalid.trans hv)⟩
    rw [view_of_clean hd', view_of_clean hd]
  · exact (Quiet.refl hk).congr rfl (himage hv).sameImage

theorem writeAio_kept {offset : Nat} {data : Bytes} {r : Except Failure (Started Completion)}
    (hfd : s.fd = fd) (hk : K.Keeps st object none) (hidle : s.outstanding = 0)
    (h : s.writeAio offset data st = (r, s', st')) :
    WriteOutcome K s object offset data r s' st' := by
  cases writeAio_cases h with
  | beyond _ => exact .refused (.refl hk) hidle
  | busy _ hbusy => exact absurd hidle hbusy
  | unstaged _ hlast _ hw =>
    obtain ⟨object', hk', hmends, _, hfront⟩ := stageFrom_kept hfd hk hlast hw
    refine .ended hk' ((stageFrom_same hw).outstanding.trans hidle)
      ⟨hmends.placed, hmends.sound, ?_⟩ ⟨hfront, ?_⟩
    · rintro ⟨n, hn⟩
      cases hn
    · intro n hn
      cases hn
  | @unwritten n f s1 _ st1 _ _ hlast _ hw hf =>
    obtain ⟨object1, hk1, hmends, _, hfront⟩ := stageFrom_kept hfd hk hlast hw
    have hfd1 : s1.fd = fd := (stageFrom_same hw).fd.trans hfd
    obtain ⟨object', hq, _⟩ := flushNow_kept hfd1 hk1 hf
    have hsame := (stageFrom_same hw).trans (flushNow_same hf)
    refine .ended hq.keeps (hsame.outstanding.trans hidle) ⟨fun hp => hq.placed (hmends.placed hp),
      fun hs => hq.sound trivial (hmends.sound hs), ?_⟩ ⟨?_, ?_⟩
    · rintro ⟨n, hn⟩
      cases hn
    · rw [hq.view]
      exact hfront
    · intro n hn
      cases hn
  | @large n m s1 s2 st1 _ hlarge hlast _ hw hf =>
    obtain ⟨object1, hk1, hmends, hok, hfront⟩ := stageFrom_kept hfd hk hlast hw
    have hfd1 : s1.fd = fd := (stageFrom_same hw).fd.trans hfd
    obtain ⟨object', hq, _⟩ := flushNow_kept hfd1 hk1 hf
    have hsame := (stageFrom_same hw).trans (flushNow_same hf)
    have hdata : data ≠ [] := by
      intro hnil
      rw [hnil] at hlarge
      exact Nat.not_lt_zero _ hlarge
    have hq' : Quiet K True s1 object1 (s2.countAioWrite n) st' object' := hq.congr rfl (.refl _)
    have hsound : (s2.countAioWrite n).Sound object' :=
      hq'.sound trivial (hmends.renewed ⟨hdata, n, rfl⟩)
    refine .ended hq'.keeps (hsame.outstanding.trans hidle) (.of_sound hsound) ⟨?_, ?_⟩
    · rw [hq'.view]
      exact hfront
    · intro k hn
      cases hn
      obtain ⟨hall, hwritten⟩ := hok n rfl
      rw [hq'.view, hwritten, Bytes.written_of_ne_nil _ _ hdata, hall, Nat.zero_add,
        List.take_length]
      exact ⟨Nat.le_refl _, rfl⟩
  | unflushed _ hf =>
    obtain ⟨object', hq, _⟩ := flushNow_kept hfd hk hf
    exact .refused hq ((flushNow_same hf).outstanding.trans hidle)
  | @refused n f s1 a st1 _ hcap _ hf hs =>
    obtain ⟨object1, hq, hclean, hfd1, _⟩ := flushed_kept hfd hk hf
    obtain ⟨_, hbuf, hcase⟩ := loaded_submitWrite_kept hcap hfd1 hclean hq.keeps hs
    rcases hcase with ⟨_, _, hk'⟩ | ⟨_, hr, _⟩ | ⟨_, hr, _⟩
    · exact .refused (hq.trans (restored_kept hclean hbuf hk')) rfl
    · cases hr
    · cases hr
  | @submitted n ticket s1 a st1 _ hcap _ hf hs =>
    obtain ⟨object1, hq, hclean, hfd1, hobject⟩ := flushed_kept hfd hk hf
    obtain ⟨hholds, hbuf, hcase⟩ := loaded_submitWrite_kept hcap hfd1 hclean hq.keeps hs
    rcases hcase with ⟨_, hr, _⟩ | ⟨_, hr, hk'⟩ | ⟨_, hr, _⟩
    · cases hr
    · cases hr
      have hholds' : Stage.Holds { s1.loaded offset data hcap with adapter := a } offset data :=
        hholds.congr rfl hbuf
      refine .out ⟨hk', .write hholds' rfl, ?_, fun _ => hholds'.sound _⟩
      rw [view_of_clean hholds'.clean, hobject]
    · cases hr
  | @inline n q s1 a st1 _ hcap _ hf hs =>
    obtain ⟨object1, hq, hclean, hfd1, hobject⟩ := flushed_kept hfd hk hf
    obtain ⟨hholds, hbuf, hcase⟩ := loaded_submitWrite_kept hcap hfd1 hclean hq.keeps hs
    rcases hcase with ⟨_, hr, _⟩ | ⟨_, hr, _⟩ | ⟨_, hr, hput⟩
    · cases hr
    · cases hr
    · cases hr
      rcases ha : ((s1.loaded offset data hcap).released a).answerWrite data.length q with ⟨c, s2⟩
      obtain ⟨object', hk', hsound, hclean', hidle', rfl, hlaid⟩ :=
        answerWrite_kept hholds hbuf hput ha
      refine .ended hk' hidle' (.of_sound hsound) ?_
      rw [view_of_clean hclean', ← hobject]
      exact hlaid

/-! ## Ends -/

/-- The completion of a read that is out leaves the file as it is seen. -/
theorem complete_read_kept {offset len : Nat} {made : Errand} {ticket : Ticket}
    {c : Option Completion} (hw : s.Waits (.read offset len) made)
    (hk : K.Keeps st object (some (ticket, made))) (ha : ObjectStore.await ticket st = (c, st')) :
    ∃ done, c = some done ∧ ∀ answer s', s.complete done = (answer, s') →
      ∃ r, answer = .bytes r ∧ Quiet K (s.adapter.Unhurt K r) s object s' st' object ∧
        s'.outstanding = 0 ∧
          ∀ bytes, r = .ok bytes → Delivered (s.view object) offset len bytes := by
  cases hw with
  | read hd hreq =>
    obtain ⟨done, rfl, hk', hfill⟩ :=
      Adapter.await_read_kept (a := s.adapter) (Nat.le_refl _) hk ha
    refine ⟨done, rfl, ?_⟩
    intro answer s' hc
    rcases hf : s.adapter.finish offset s.capacity done with ⟨q, a⟩
    rw [complete_read hreq hf] at hc
    rw [view_of_clean hd]
    exact answerRead_kept hd hk' (hfill _ _ hf) hc

/-- The completion of a write that is out lays over the file what it counts. -/
theorem complete_write_kept {offset : Nat} {data : Bytes} {made : Errand} {ticket : Ticket}
    {c : Option Completion} (hw : s.Waits (.write offset data) made)
    (hk : K.Keeps st object (some (ticket, made))) (ha : ObjectStore.await ticket st = (c, st')) :
    ∃ done, c = some done ∧ ∀ answer s', s.complete done = (answer, s') →
      ∃ object' q, K.Keeps st' object' none ∧ s'.Sound object' ∧ s'.outstanding = 0 ∧
        answer = .count q ∧ Laid (s.view object) offset data q (s'.view object') := by
  cases hw with
  | write hholds hreq =>
    obtain ⟨done, rfl, hput⟩ := Adapter.await_write_kept (a := s.adapter) hk ha
    refine ⟨done, rfl, ?_⟩
    intro answer s' hc
    rcases hf : s.adapter.finish offset data.length done with ⟨q, a⟩
    obtain ⟨hbuf, hput'⟩ := hput _ _ _ hf
    rw [complete_write hreq hf] at hc
    obtain ⟨object', hk', hsound, hclean, hidle, rfl, hlaid⟩ :=
      answerWrite_kept hholds hbuf hput' hc
    refine ⟨object', q, hk', hsound, hidle, rfl, ?_⟩
    rw [view_of_clean hclean, view_of_clean hholds.clean]
    exact hlaid

end Stage

end StagedFiles
