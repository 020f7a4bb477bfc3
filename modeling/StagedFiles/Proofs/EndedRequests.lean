-- What a caller finds where it is told how its request came out. Nothing is out any more,
-- the counters have the request, and the image is the one that stays. So it is on every
-- way a request can take, and the callback is the last thing on each.
import StagedFiles.Proofs.Ledger
import StagedFiles.Proofs.RefusedRequests

namespace StagedFiles

/-- The bytes that a request is for. -/
def Errand.size : Errand → Nat
  | .read _ len => len
  | .write _ data => data.length

/-! ## The image that stays -/

namespace Stage

variable {σ : Type} [ObjectStore σ] {fd : Fd} {K : Keeper σ fd} {s s' s1 : Stage} {st st' : σ}
  {object : Bytes} {a : Adapter} {c : Completion} {q : Except Failure Nat}

/-- A request went through the buffer. A read that came out well took its bytes from the
image, and one that failed left the image as it was described, and untorn unless the store
has torn it. A write left its data in the region, and they count as the image when all of
them went. -/
inductive Settles (K : Keeper σ fd) (s s' : Stage) : Errand → Completion → Prop where
  | read {offset len : Nat} {bytes : Bytes} : bytes = s'.buffer.copyOut offset len →
      s.Settles K s' (.read offset len) (.bytes (.ok bytes))
  | unread {offset len : Nat} {f : Failure} : s.buffer.Described s'.buffer →
      (s.adapter.Untorn K → s.buffer.SameImage s'.buffer) →
      s.Settles K s' (.read offset len) (.bytes (.error f))
  | write {offset : Nat} {data : Bytes} {r : Except Failure Nat} :
      s'.buffer.start = offset → s'.buffer.image = data →
      (s'.buffer.valid = true ↔ r = .ok data.length) →
      s.Settles K s' (.write offset data) (.count r)

/-- What came before and left the image is of no account. -/
theorem Settles.after {errand : Errand} (h : s1.Settles K s' errand c)
    (hsame : s.adapter.Same s1.adapter) (himage : s.buffer.SameImage s1.buffer) :
    s.Settles K s' errand c := by
  cases h with
  | read hbytes => exact .read hbytes
  | unread hdescribed hleft =>
    exact .unread (himage.described.trans hdescribed) fun huntorn =>
      himage.trans (hleft (hsame.untorn huntorn))
  | write hstart hdata hvalid => exact .write hstart hdata hvalid

theorem answerRead_settles {offset len count : Nat}
    (hfill : s.adapter.Filled K object offset count q a)
    (h : (s.released a).answerRead offset len q = (c, s')) :
    s.Settles K s' (.read offset len) c := by
  unfold answerRead at h
  cases hfill with
  | ok _ _ =>
    cases h
    exact .read rfl
  | error hdescribed hsame =>
    cases h
    exact .unread hdescribed hsame

theorem answerWrite_settles {offset : Nat} {data : Bytes} (hholds : s.Holds offset data)
    (hbuf : a.buffer = s.buffer) (h : (s.released a).answerWrite data.length q = (c, s')) :
    s.Settles K s' (.write offset data) c := by
  have hreleased : (s.released a).Holds offset data := hholds.congr rfl hbuf
  unfold answerWrite at h
  rcases q with f | n
  · cases h
    refine .write hreleased.start hreleased.image ?_
    rw [hreleased.invalid]
    simp
  · dsimp only at h
    split at h
    · rename_i hall
      cases h
      exact .write hreleased.start hreleased.image ⟨fun _ => congrArg Except.ok hall, fun _ => rfl⟩
    · rename_i hshort
      cases h
      refine .write hreleased.start hreleased.image ?_
      have hinvalid : ((s.released a).countAioWrite n).buffer.valid = false := hreleased.invalid
      rw [hinvalid]
      simp [hshort]

theorem readAio_settles {offset len : Nat} (hfd : s.fd = fd) (hk : K.Keeps st object none)
    (hlen : len ≤ s.capacity) (h : s.readAio offset len st = (.ok (.finished c), s', st')) :
    s.Settles K s' (.read offset len) c := by
  cases readAio_cases h with
  | hit _ _ => exact .read rfl
  | large hlarge _ _ _ => exact absurd hlen (Nat.not_le.mpr hlarge)
  | @inline n q s1 a st1 _ _ hf hs =>
    obtain ⟨object1, hq, _, hfd1, _⟩ := flushed_kept hfd hk hf
    rcases Adapter.submitRead_kept hfd1 (Nat.le_refl _) hq.keeps hs with
      ⟨_, hr, _⟩ | ⟨_, hr, _⟩ | ⟨_, hr, _, hfill⟩
    · cases hr
    · cases hr
    · cases hr
      have hflushed := flushNow_image hfd hk hf
      have himage : s.buffer.SameImage (s1.asked offset len).buffer := hflushed
      exact (answerRead_settles (s := s1.asked offset len) hfill rfl).after
        (flushNow_same hf).adapter himage

theorem writeAio_settles {offset : Nat} {data : Bytes} (hfd : s.fd = fd)
    (hk : K.Keeps st object none) (hlen : data.length ≤ s.capacity)
    (h : s.writeAio offset data st = (.ok (.finished c), s', st')) :
    s.Settles K s' (.write offset data) c := by
  cases writeAio_cases h with
  | unstaged hlarge _ _ _ => exact absurd hlen (Nat.not_le.mpr hlarge)
  | unwritten hlarge _ _ _ _ => exact absurd hlen (Nat.not_le.mpr hlarge)
  | large hlarge _ _ _ _ => exact absurd hlen (Nat.not_le.mpr hlarge)
  | @inline n q s1 a st1 _ hcap _ hf hs =>
    obtain ⟨object1, hq, hclean, hfd1, _⟩ := flushed_kept hfd hk hf
    obtain ⟨hholds, hbuf, _⟩ := loaded_submitWrite_kept hcap hfd1 hclean hq.keeps hs
    rcases ha : ((s1.loaded offset data hcap).released a).answerWrite data.length q with ⟨c, s2⟩
    cases answerWrite_settles (K := K) hholds hbuf ha with
    | write hstart hdata hvalid => exact .write hstart hdata hvalid

/-- The completion of the request that is out settles it. -/
theorem complete_settles {asked made : Errand} {ticket : Ticket} {done : Completion}
    (hw : s.Waits asked made) (hk : K.Keeps st object (some (ticket, made)))
    (ha : ObjectStore.await ticket st = (some done, st')) (h : s.complete done = (c, s')) :
    s.Settles K s' asked c := by
  cases hw with
  | @read offset len _ hreq =>
    obtain ⟨_, hdone, _, hfill⟩ := Adapter.await_read_kept (a := s.adapter) (Nat.le_refl _) hk ha
    cases hdone
    rcases hf : s.adapter.finish offset s.capacity done with ⟨q, a⟩
    rw [complete_read hreq hf] at h
    exact answerRead_settles (hfill _ _ hf) h
  | @write offset data hholds hreq =>
    obtain ⟨_, hdone, hput⟩ := Adapter.await_write_kept (a := s.adapter) hk ha
    cases hdone
    rcases hf : s.adapter.finish offset data.length done with ⟨q, a⟩
    obtain ⟨hbuf, _⟩ := hput _ _ _ hf
    rw [complete_write hreq hf] at h
    exact answerWrite_settles hholds hbuf h

/-- When all of a write went, the image has all of every range inside what was written. -/
theorem Settles.hit {offset offset' len : Nat} {data : Bytes}
    (h : s.Settles K s' (.write offset data) (.count (.ok data.length))) (hle : offset ≤ offset')
    (hend : offset' + len ≤ offset + data.length) (hlast : offset' + len ≤ Offset.last) :
    (Act.read offset' len).hit s'.buffer =
        some (.bytes (.ok (Bytes.slice data (offset' - offset) len))) ∧
      (Act.readAio offset' len).hit s'.buffer =
        some (.started (.ok (.finished (.bytes (.ok
          (Bytes.slice data (offset' - offset) len)))))) := by
  cases h with
  | write hstart hdata hvalid =>
    have hv : s'.buffer.valid = true := hvalid.mpr rfl
    have hlen : s'.buffer.len = data.length := by
      rw [← hdata, StagingBuffer.length_image]
    have hstop : offset' + len ≤ s'.buffer.stop := by
      unfold StagingBuffer.stop Offset.clampedEnd
      omega
    have hle' : s'.buffer.start ≤ offset' := hstart ▸ hle
    have hcopy := copyOut_inside hv hle' hstop
    have hcovers := covers_inside hv hle' hstop hlast
    rw [hstart, hdata] at hcopy
    have hall : (Bytes.slice data (offset' - offset) len).length = len := by
      rw [Bytes.length_slice]
      omega
    simp only [Act.hit, hcopy, hcovers]
    exact ⟨if_pos ⟨hlast, hall⟩, if_pos trivial⟩

/-- Nothing is out, and the step counted the bytes of the completion. -/
structure Ends (s s' : Stage) (c : Completion) : Prop where
  idle : s'.outstanding = 0
  counted : s.Counts s' c

end Stage

/-! ## The moment a caller is told -/

namespace Client

variable {σ ω : Type} [ObjectStore σ] {fd : Fd} {K : Keeper σ fd} {object : Bytes}
  {c c' : Client σ} {errand : Errand}

/-- What a request comes to, whatever its callback does. When it is refused or out, the
callback does not run and nothing was counted. Otherwise the callback runs last, and where it
runs the request has ended. -/
inductive Begins (K : Keeper σ fd) (ω : Type) (c : Client σ) (errand : Errand) : Prop where
  | refused (f : Failure) (c' : Client σ) : c'.due = c.due → c.stage.CountsNothing c'.stage →
      (∀ (callers : ω) (done : Done σ ω),
        (c.world callers).request errand done = (.error f, c'.world callers)) →
      Begins K ω c errand
  | out (ticket : Ticket) (c' : Client σ) : c'.due = some (ticket, errand) →
      c.stage.CountsNothing c'.stage →
      (∀ (callers : ω) (done : Done σ ω),
        (c.world callers).request errand done = (.ok (some ticket), c'.world callers)) →
      Begins K ω c errand
  | told (answer : Completion) (c' : Client σ) : c'.due = none → c.stage.Ends c'.stage answer →
      (errand.size ≤ c.stage.capacity → c.stage.Settles K c'.stage errand answer) →
      (∀ (callers : ω) (done : Done σ ω),
        (c.world callers).request errand done = (.ok none, done answer (c'.world callers))) →
      Begins K ω c errand

/-- A request on a stage with none out. -/
theorem begun (hidle : c.stage.outstanding = 0) {r : Except Failure (Started Completion)}
    (h : c.step errand.act = (.started r, c')) : c.stage.Begun r c'.stage := by
  have hnone : c.stage.inflight.requests = [] := List.length_eq_zero_iff.mp hidle
  cases errand with
  | read offset len => exact Stage.readAio_begun hnone (readAio_of_step h).1
  | write offset data => exact Stage.writeAio_begun hnone (writeAio_of_step h).1

/-- A request that was over at once, and that the buffer takes. -/
theorem settled {answer : Completion} (hfd : c.stage.fd = fd) (hk : K.Keeps c.store object none)
    (hsize : errand.size ≤ c.stage.capacity)
    (h : c.step errand.act = (.started (.ok (.finished answer)), c')) :
    c.stage.Settles K c'.stage errand answer := by
  cases errand with
  | read offset len => exact Stage.readAio_settles hfd hk hsize (readAio_of_step h).1
  | write offset data => exact Stage.writeAio_settles hfd hk hsize (writeAio_of_step h).1

theorem Held.begins (h : Held K c object) (errand : Errand) : Begins K ω c errand := by
  rcases h.agree.idle_or_busy with ⟨hdue, hidle, hk⟩ | hbusy
  · obtain ⟨r, hstep⟩ := step_started c errand
    generalize (c.step errand.act).2 = c' at hstep
    have hbegun := begun hidle hstep
    rcases r with f | ⟨answer | ticket⟩
    · cases hbegun with
      | refused _ hnothing =>
        obtain ⟨hdue', hrequest⟩ := request_refused (ω := ω) hstep
        exact .refused f c' hdue' hnothing hrequest
    · cases hbegun with
      | ended hnone hcounts =>
        obtain ⟨hdue', hrequest⟩ := request_finished (ω := ω) hstep
        have hends : c.stage.Ends c'.stage answer := ⟨List.length_eq_zero_iff.mpr hnone, hcounts⟩
        exact .told answer c' (hdue'.trans hdue) hends
          (fun hsize => settled h.fd_eq hk hsize hstep) hrequest
    · cases hbegun with
      | out _ hnothing =>
        obtain ⟨hdue', hrequest⟩ := request_submitted (ω := ω) hstep
        exact .out ticket c' hdue' hnothing hrequest
  · obtain ⟨f, hstep⟩ := busy_refused errand hbusy
    exact .refused f c rfl ⟨rfl, rfl⟩ (request_refused hstep).2

/-- When the completion of the request that is out is delivered, the callback runs last, and
where it runs the request has ended. -/
theorem Held.ends {ticket : Ticket} (h : Held K c object) (hdue : c.due = some (ticket, errand)) :
    ∃ answer c', c.step .deliver = (.completed answer, c') ∧ c'.due = none ∧
      c.stage.Ends c'.stage answer ∧ c.stage.Settles K c'.stage errand answer ∧
      ∀ (callers : ω) (done : Done σ ω),
        (c.world callers).deliver ticket done = done answer (c'.world callers) := by
  obtain ⟨made, hw, hk⟩ := h.agree.waits hdue
  obtain ⟨request, hreq⟩ := hw.requests
  rcases ha : ObjectStore.await ticket c.store with ⟨answer, store⟩
  obtain ⟨done, rfl⟩ : ∃ done, answer = some done := by
    cases errand with
    | read offset len =>
      obtain ⟨done, rfl, _⟩ := Stage.complete_read_kept hw hk ha
      exact ⟨done, rfl⟩
    | write offset data =>
      obtain ⟨done, rfl, _⟩ := Stage.complete_write_kept hw hk ha
      exact ⟨done, rfl⟩
  rcases hc : c.stage.complete done with ⟨answer, stage⟩
  have hstep : c.step .deliver = (.completed answer, { stage, store }) := by
    simp only [Client.step, hdue, ha, hc]
  obtain ⟨hnone, hcounts⟩ := Stage.complete_ends hreq hc
  obtain ⟨hdue', hdeliver⟩ := deliver_completed (ω := ω) hdue hstep
  exact ⟨answer, _, hstep, hdue', ⟨List.length_eq_zero_iff.mpr hnone, hcounts⟩,
    Stage.complete_settles hw hk ha hc, hdeliver⟩

end Client

end StagedFiles
