-- Requests that are refused, for whatever reason. The caller is told by the call alone, as
-- much is out as before, and the file is seen as before. An image that counted counts as it
-- did, so what it answered it still answers, and the store is not asked.
import StagedFiles.Proofs.Callbacks
import StagedFiles.Proofs.ReachedClient
import StagedFiles.Proofs.StagedFlushes

namespace StagedFiles

variable {σ : Type} [ObjectStore σ] {fd : Fd} {K : Keeper σ fd}

/-! ## What a refusal leaves -/

namespace Stage

variable {s s' s1 : Stage} {st st' : σ} {object : Bytes}

/-- The same requests are out, and an image that counted is as it was. -/
structure Undisturbed (s s' : Stage) : Prop where
  inflight : s'.inflight = s.inflight
  valid : s'.buffer.valid = s.buffer.valid
  image : s.buffer.valid = true → s.buffer.SameImage s'.buffer

theorem Undisturbed.refl (s : Stage) : s.Undisturbed s := ⟨rfl, rfl, fun _ => .refl _⟩

/-- Nothing was out, and nothing is. -/
theorem released_inflight (a : Adapter) (hidle : s.outstanding = 0) :
    (s1.released a).inflight = s.inflight := by
  have hnone : s.inflight.requests = [] := List.length_eq_zero_iff.mp hidle
  rcases hi : s.inflight with ⟨requests⟩
  rw [hi] at hnone
  cases hnone
  rfl

/-- A flush keeps the image, also when it is short or fails. -/
theorem flushNow_image {r : Except Failure Nat} (hfd : s.fd = fd) (hk : K.Keeps st object none)
    (h : s.flushNow st = (r, s', st')) : s.buffer.SameImage s'.buffer := by
  cases flushNow_cases h with
  | clean _ => exact .refl _
  | failed _ hw => exact (write_image_kept hfd hk hw).1
  | short _ hw _ => exact (write_image_kept hfd hk hw).1
  | whole _ hw _ => exact (write_image_kept hfd hk hw).1

theorem flushNow_undisturbed {r : Except Failure Nat} (hfd : s.fd = fd)
    (hk : K.Keeps st object none) (h : s.flushNow st = (r, s', st')) : s.Undisturbed s' := by
  have himage := flushNow_image hfd hk h
  exact ⟨(flushNow_same h).inflight, himage.valid, fun _ => himage⟩

theorem readAio_undisturbed {offset len : Nat} {f : Failure} (hfd : s.fd = fd)
    (hk : K.Keeps st object none) (hidle : s.outstanding = 0)
    (h : s.readAio offset len st = (.error f, s', st')) : s.Undisturbed s' := by
  cases readAio_cases h with
  | beyond _ => exact .refl s
  | busy _ _ => exact .refl s
  | unflushed _ hf => exact flushNow_undisturbed hfd hk hf
  | @refused n f s1 a st1 _ _ hf hs =>
    have hflushed := flushNow_undisturbed hfd hk hf
    obtain ⟨object1, hq, _, hfd1, _⟩ := flushed_kept hfd hk hf
    rcases Adapter.submitRead_kept hfd1 (Nat.le_refl _) hq.keeps hs with
      ⟨_, _, rfl, _⟩ | ⟨_, hr, _⟩ | ⟨_, hr, _⟩
    · exact ⟨released_inflight _ hidle, hflushed.valid, hflushed.image⟩
    · cases hr
    · cases hr

/-- A write has gone over the front of the region by the time it is refused. What it saved
makes the image what it was after the flush. -/
theorem writeAio_undisturbed {offset : Nat} {data : Bytes} {f : Failure} (hfd : s.fd = fd)
    (hk : K.Keeps st object none) (hidle : s.outstanding = 0)
    (h : s.writeAio offset data st = (.error f, s', st')) : s.Undisturbed s' := by
  cases writeAio_cases h with
  | beyond _ => exact .refl s
  | busy _ _ => exact .refl s
  | unflushed _ hf => exact flushNow_undisturbed hfd hk hf
  | @refused n f s1 a st1 _ hcap _ hf hs =>
    have hflushed := flushNow_undisturbed hfd hk hf
    obtain ⟨object1, hq, hclean, hfd1, _⟩ := flushed_kept hfd hk hf
    obtain ⟨_, hbuf, _⟩ := loaded_submitWrite_kept hcap hfd1 hclean hq.keeps hs
    obtain ⟨hvalid, hback⟩ := restored_loaded hbuf
    refine ⟨released_inflight _ hidle, hvalid.trans hflushed.valid, fun hv => ?_⟩
    have hv1 : s1.buffer.valid = true := hflushed.valid.trans hv
    exact (hflushed.image hv).trans (hback hv1).sameImage

end Stage

/-! ## Reads that the image answers -/

/-- What the image alone answers, where it has all that is asked for. -/
def Act.hit (b : StagingBuffer) : Act → Option Reply
  | .read offset len =>
    let bytes := b.copyOut offset len
    if offset + len ≤ Offset.last ∧ bytes.length = len then some (.bytes (.ok bytes)) else none
  | .readAio offset len =>
    if b.covers offset len then
      some (.started (.ok (.finished (.bytes (.ok (b.copyOut offset len))))))
    else none
  | _ => none

/-- No more than two questions are asked of the image. -/
theorem Act.hit_congr {b b' : StagingBuffer}
    (hcovers : ∀ offset n, b'.covers offset n = b.covers offset n)
    (hcopy : ∀ offset n, b'.copyOut offset n = b.copyOut offset n) (act : Act) :
    act.hit b' = act.hit b := by
  cases act with
  | read offset len => simp only [Act.hit, hcopy]
  | readAio offset len => simp only [Act.hit, hcovers, hcopy]
  | write _ _ => rfl
  | flush => rfl
  | writeAio _ _ => rfl
  | deliver => rfl

/-- An image that counted answers as before, and one that did not has nothing to answer. -/
theorem Stage.Undisturbed.hit {s s' : Stage} (h : s.Undisturbed s') (act : Act) :
    act.hit s'.buffer = act.hit s.buffer := by
  rcases hv : s.buffer.valid with _ | _
  · have hv' : s'.buffer.valid = false := h.valid.trans hv
    apply Act.hit_congr
    · intro offset n
      unfold StagingBuffer.covers
      rw [hv, hv']
      rfl
    · intro offset n
      rw [StagingBuffer.copyOut_eq, StagingBuffer.copyOut_eq, hv, hv', if_neg (by simp),
        if_neg (by simp)]
  · exact Act.hit_congr (h.image hv).covers (h.image hv).copyOut act

namespace Client

variable {content : σ → Bytes} {capacity : Nat} {c c' : Client σ}

/-- What callers hear, act after act. -/
def replies (c : Client σ) : List Act → List Reply
  | [] => []
  | act :: acts => (c.step act).1 :: (c.step act).2.replies acts

/-- A read that the image answers leaves the store and the image. -/
theorem step_hit {act : Act} {reply : Reply} (hidle : c.stage.outstanding = 0)
    (hhit : act.hit c.stage.buffer = some reply) :
    ∃ s', c.step act = (reply, { c with stage := s' }) ∧ c.stage.SameStaged s' := by
  cases act with
  | read offset len =>
    simp only [Act.hit, Option.ite_none_right_eq_some, Option.some.injEq] at hhit
    obtain ⟨⟨hlast, hall⟩, rfl⟩ := hhit
    obtain ⟨s', hr, hsame⟩ := Stage.readBytes_hit c.store hall
    refine ⟨s', ?_, hsame⟩
    simp only [Client.step, Stage.read_idle _ hlast hidle, hr]
  | readAio offset len =>
    simp only [Act.hit, Option.ite_none_right_eq_some, Option.some.injEq] at hhit
    obtain ⟨hcovers, rfl⟩ := hhit
    obtain ⟨s', hr, hsame⟩ := Stage.readAio_hit c.store hidle hcovers
    refine ⟨s', ?_, hsame⟩
    simp only [Client.step, hr, dueAfter]
  | write _ _ => cases hhit
  | flush => cases hhit
  | writeAio _ _ => cases hhit
  | deliver => cases hhit

/-- Any number of reads that the image answers. -/
theorem hits {acts : List Act} {answers : List Reply} (hidle : c.stage.outstanding = 0)
    (hhits : acts.map (·.hit c.stage.buffer) = answers.map some) :
    c.replies acts = answers ∧ (c.run acts).store = c.store := by
  induction acts generalizing c answers with
  | nil =>
    rw [List.map_nil] at hhits
    rw [List.map_eq_nil_iff.mp hhits.symm]
    exact ⟨rfl, rfl⟩
  | cons act acts ih =>
    rcases answers with _ | ⟨reply, answers⟩
    · cases hhits
    · obtain ⟨hhit, hrest⟩ := List.cons_eq_cons.mp hhits
      obtain ⟨s', hstep, hsame⟩ := step_hit hidle hhit
      have hrest' : acts.map (·.hit s'.buffer) = answers.map some := by
        rw [← hrest]
        exact List.map_congr_left fun act _ =>
          Act.hit_congr hsame.image.covers hsame.image.copyOut act
      have hafter := ih (c := { c with stage := s' }) (hsame.outstanding.trans hidle) hrest'
      unfold replies run
      rw [List.foldl_cons, hstep]
      exact ⟨List.cons_eq_cons.mpr ⟨rfl, hafter.1⟩, hafter.2⟩

/-! ## A refused request -/

/-- A request on a stage with one out is refused, and nothing else. -/
theorem busy_refused (errand : Errand) (hbusy : c.stage.outstanding ≠ 0) :
    ∃ f, c.step errand.act = (.started (.error f), c) := by
  cases errand with
  | read offset len =>
    rcases hr : c.stage.readAio offset len c.store with ⟨r, stage, store⟩
    obtain ⟨⟨f, rfl⟩, rfl, rfl⟩ := Stage.readAio_while_busy hbusy hr
    exact ⟨f, by simp only [Errand.act, Client.step, hr, dueAfter]⟩
  | write offset data =>
    rcases hw : c.stage.writeAio offset data c.store with ⟨r, stage, store⟩
    obtain ⟨⟨f, rfl⟩, rfl, rfl⟩ := Stage.writeAio_while_busy hbusy hw
    exact ⟨f, by simp only [Errand.act, Client.step, hw, dueAfter]⟩

/-- A client that was refused a request is the same, or had none out. -/
theorem Held.refused {object : Bytes} {errand : Errand} {f : Failure} (h : Held K c object)
    (hstep : c.step errand.act = (.started (.error f), c')) :
    c' = c ∨ c.stage.outstanding = 0 ∧ c.stage.Undisturbed c'.stage := by
  rcases h.agree.idle_or_busy with ⟨_, hidle, hk⟩ | hbusy
  · refine Or.inr ⟨hidle, ?_⟩
    cases errand with
    | read offset len =>
      exact Stage.readAio_undisturbed h.fd_eq hk hidle (readAio_of_step hstep).1
    | write offset data =>
      exact Stage.writeAio_undisturbed h.fd_eq hk hidle (writeAio_of_step hstep).1
  · obtain ⟨f', hbusy'⟩ := busy_refused errand hbusy
    rw [hstep] at hbusy'
    exact Or.inl (Prod.mk.inj hbusy').2

/-- A request that is refused does nothing to the file. -/
theorem seen_refused {sound : Prop} {file file' : Bytes} {due : Option (Ticket × Errand)}
    {errand : Errand} {f : Failure}
    (h : SeenIf sound file due errand.act (.started (.error f)) file') : file' = file := by
  cases errand with
  | read _ _ =>
    cases h with
    | readRefused => rfl
  | write _ _ =>
    cases h with
    | writeRefused => rfl

theorem Held.refused_seen {object : Bytes} {errand : Errand} {f : Failure} (hK : K.Tells content)
    (h : Held K c object) (hstep : c.step errand.act = (.started (.error f), c')) :
    c'.seen content = c.seen content := by
  obtain ⟨object', hheld, hkeeping⟩ := h.step hstep
  unfold seen
  rw [hheld.content_eq hK, h.content_eq hK]
  exact seen_refused hkeeping.seen

/-- Whatever a request asks for and whyever it is refused, its callback does not run and its
caller's state is left alone, the same requests are out, and the file is seen as before. The
image counts if it did, at the same place with the same bytes. While a request is out nothing
changes at all. Otherwise any reads that the image answered before, it answers as before,
whatever the store is by then, and the store is left alone. -/
theorem a_refused_request_is_invisible {ω : Type} {errand : Errand} {f : Failure}
    (hK : K.Tells content) (hc : Reached K capacity c)
    (h : c.step errand.act = (.started (.error f), c')) :
    (∀ (callers : ω) (done : Done σ ω),
        (c.world callers).request errand done = (.error f, c'.world callers)) ∧
      c'.stage.inflight = c.stage.inflight ∧ c'.due = c.due ∧
      c'.seen content = c.seen content ∧
      c'.stage.buffer.valid = c.stage.buffer.valid ∧
      (c.stage.buffer.valid = true → c.stage.buffer.SameImage c'.stage.buffer) ∧
      (c.stage.outstanding ≠ 0 → c' = c) ∧
      (c.stage.outstanding = 0 → ∀ acts answers (store : σ),
        acts.map (·.hit c.stage.buffer) = answers.map some →
          c.replies acts = answers ∧ replies { c' with store } acts = answers ∧
            (run { c' with store } acts).store = store) := by
  obtain ⟨object, hheld, -⟩ := hc.held
  obtain ⟨hdue, hrequest⟩ := request_refused (ω := ω) h
  have hleft : c.stage.Undisturbed c'.stage := by
    rcases hheld.refused h with rfl | ⟨_, hleft⟩
    · exact .refl _
    · exact hleft
  refine ⟨hrequest, hleft.inflight, hdue, hheld.refused_seen hK h, hleft.valid, hleft.image,
    fun hout => (hheld.refused h).resolve_right fun hnone => hout hnone.1, ?_⟩
  intro hidle acts answers store hhits
  have hidle' : c'.stage.outstanding = 0 := by
    unfold Stage.outstanding
    rw [hleft.inflight]
    exact hidle
  have hhits' : acts.map (·.hit c'.stage.buffer) = answers.map some := by
    rw [← hhits]
    exact List.map_congr_left fun act _ => hleft.hit act
  obtain ⟨hreplies', hstore'⟩ := hits (c := { c' with store }) hidle' hhits'
  exact ⟨(hits hidle hhits).1, hreplies', hstore'⟩

/-- A store that takes its first write in and refuses its second. -/
def balking : Shared (Throttled MemoryStore) :=
  { inner := { inner := MemoryStore.single .deferred .readWrite [1, 2, 3, 4, 5] }
    others := fun n t =>
      { inner := { t.inner with faults := if n = 2 then { submits := ⟨1, 5⟩ } else {} }
        limits := {} } }

/-- Three bytes are staged over it. -/
def brimming : Client (Shared (Throttled MemoryStore)) :=
  (step { stage := .small, store := balking } (.write 2 [9, 8, 7])).2

theorem brimming_reached : Reached (MemoryStore.keeper .first 0 .readWrite).shared 4 brimming :=
  .after (.write 2 [9, 8, 7]) (.built Stage.small_built rfl
    ⟨MemoryStore.single_kept .deferred .readWrite [1, 2, 3, 4, 5] {},
      MemoryStore.spared_by_faults .first 0 .readWrite _ _⟩)

/-- The flush comes out well, and the submission that follows is refused. -/
theorem a_refused_write_is_invisible_on_a_balking_store :
    Reached (MemoryStore.keeper .first 0 .readWrite).shared 4 brimming ∧
      ∃ c, brimming.step (.writeAio 0 [6, 6]) = (.started (.error (.refused .submitting 5)), c) ∧
        c.stage.dirty = false ∧ c.seen (Shared.object 0) = brimming.seen (Shared.object 0) ∧
        c.replies [.read 3 2, .readAio 2 3] =
          [.bytes (.ok [8, 7]), .started (.ok (.finished (.bytes (.ok [9, 8, 7]))))] := by
  have hrefused : brimming.step (Errand.write 0 [6, 6]).act =
      (.started (.error (.refused .submitting 5)), (brimming.step (.writeAio 0 [6, 6])).2) :=
    Prod.ext (by decide +kernel) rfl
  obtain ⟨-, -, -, hseen, -, -, -, hhits⟩ := a_refused_request_is_invisible (ω := Unit)
    (Shared.keeper_tells .first 0 .readWrite) brimming_reached hrefused
  refine ⟨brimming_reached, _, hrefused, by decide +kernel, hseen, ?_⟩
  exact (hhits (by decide +kernel) _ _ _ (by decide +kernel)).2.1

end Client

end StagedFiles
