-- Callers that hand a request in only where their last one is over: inside its callback,
-- or later. None of them is ever refused because a request is out, whatever the store does
-- and whenever it delivers. What a write has put down in full every later read brings, as
-- far as nothing was written over it, until a read fails that tears the image.
import StagedFiles.Proofs.EndedRequests
import StagedFiles.Proofs.ScratchedStore

namespace StagedFiles

/-! ## What callers hear -/

deriving instance DecidableEq for Errand

/-- A call that came back, a request that was refused, or a callback that ran. -/
inductive Told where
  | read (offset len : Nat) (r : Except Failure Bytes)
  | wrote (offset : Nat) (data : Bytes) (r : Except Failure Nat)
  | flushed (r : Except Failure Nat)
  | refused (errand : Errand) (f : Failure)
  | done (errand : Errand) (c : Completion)
  deriving DecidableEq

namespace Told

/-- Bytes came from an offset on. -/
inductive Brings : Told → Nat → Bytes → Prop where
  | read {offset len : Nat} {bytes : Bytes} : Brings (.read offset len (.ok bytes)) offset bytes
  | done {offset len : Nat} {bytes : Bytes} :
      Brings (.done (.read offset len) (.bytes (.ok bytes))) offset bytes

/-- The position is one that was to be written. -/
def Touches (p : Nat) : Told → Prop
  | .wrote offset data _ => offset ≤ p ∧ p < offset + data.length
  | .done (.write offset data) _ => offset ≤ p ∧ p < offset + data.length
  | _ => False

/-- Bytes were not read. -/
inductive Unread : Told → Prop where
  | read {offset len : Nat} {f : Failure} : Unread (.read offset len (.error f))
  | done {errand : Errand} {f : Failure} : Unread (.done errand (.bytes (.error f)))

/-- A write that was handed in is over, and some of it went. -/
inductive Wrote : Told → Prop where
  | done {errand : Errand} {n : Nat} : Wrote (.done errand (.count (.ok n)))

/-- What this did to the file, as it was heard. Reads bring what the file holds where the
image is whole. -/
inductive Does (whole : Prop) (file : Bytes) : Told → Bytes → Prop where
  | read {offset len : Nat} {r : Except Failure Bytes} :
      (whole → ∀ bytes, r = .ok bytes → Received file offset len bytes) →
      Does whole file (.read offset len r) file
  | wrote {offset : Nat} {data : Bytes} {r : Except Failure Nat} {file' : Bytes} :
      Bytes.FrontLaid file offset data file' → Does whole file (.wrote offset data r) file'
  | flushed {r : Except Failure Nat} : Does whole file (.flushed r) file
  | refused {errand : Errand} {f : Failure} : Does whole file (.refused errand f) file
  | readDone {offset len : Nat} {r : Except Failure Bytes} :
      (whole → ∀ bytes, r = .ok bytes → Received file offset len bytes) →
      Does whole file (.done (.read offset len) (.bytes r)) file
  | writeDone {offset : Nat} {data : Bytes} {r : Except Failure Nat} {file' : Bytes} :
      Laid file offset data r file' → Does whole file (.done (.write offset data) (.count r)) file'

/-- The image is whole behind this: a write has made it so, or it was whole and no read that
failed has torn it. -/
def LeavesWhole (untorn whole : Prop) (told : Told) : Prop :=
  told.Wrote ∨ whole ∧ (told.Unread → untorn)

/-- The image is whole behind all that was heard. -/
def Whole (untorn whole : Prop) (heard : List Told) : Prop := heard.foldl (LeavesWhole untorn) whole

/-- All that was heard, in order, leads from one file to another. -/
def Account (untorn : Prop) : Prop → Bytes → List Told → Bytes → Prop
  | _, file, [], file' => file' = file
  | whole, file, told :: rest, file' =>
    ∃ next, told.Does whole file next ∧ Account untorn (told.LeavesWhole untorn whole) next rest file'

variable {untorn whole : Prop}

/-- A whole image stays whole where no read that fails can tear it. -/
theorem whole_of_untorn {heard : List Told} (hwhole : whole)
    (h : ∀ told ∈ heard, told.Unread → untorn) : Whole untorn whole heard := by
  induction heard generalizing whole with
  | nil => exact hwhole
  | cons told rest ih =>
    obtain ⟨htold, hothers⟩ := List.forall_mem_cons.mp h
    exact ih (.inr ⟨hwhole, htold⟩) hothers

theorem account_append {file file' : Bytes} {heard more : List Told} :
    Account untorn whole file (heard ++ more) file' ↔
      ∃ next, Account untorn whole file heard next ∧
        Account untorn (Whole untorn whole heard) next more file' := by
  induction heard generalizing file whole with
  | nil => simp [Account, Whole]
  | cons told rest ih =>
    simp only [List.cons_append, Account, ih, Whole, List.foldl_cons]
    constructor
    · rintro ⟨next, hdoes, last, hrest, hmore⟩
      exact ⟨last, ⟨next, hdoes, hrest⟩, hmore⟩
    · rintro ⟨last, ⟨next, hdoes, hrest⟩, hmore⟩
      exact ⟨next, hdoes, last, hrest, hmore⟩

theorem Does.account {file file' : Bytes} {told : Told} (h : told.Does whole file file') :
    Account untorn whole file [told] file' := ⟨file', h, rfl⟩

/-- What is heard of a request that was over at once. -/
theorem does_of_started {file file' : Bytes} {due : Option (Ticket × Errand)} {errand : Errand}
    {c : Completion} (h : SeenIf whole file due errand.act (.started (.ok (.finished c))) file') :
    (Told.done errand c).Does whole file file' := by
  cases errand with
  | read _ _ =>
    cases h with
    | readOver hread => exact .readDone hread
  | write _ _ =>
    cases h with
    | writeOver hlaid => exact .writeDone hlaid

/-- What is heard of a request when its completion is delivered. -/
theorem does_of_completed {file file' : Bytes} {ticket : Ticket} {errand : Errand}
    {c : Completion} (h : SeenIf whole file (some (ticket, errand)) .deliver (.completed c) file') :
    (Told.done errand c).Does whole file file' := by
  cases h with
  | readDone hdue hread =>
    cases hdue
    exact .readDone hread
  | writeDone hdue hlaid =>
    cases hdue
    exact .writeDone hlaid

/-- What is heard of a step and its reply. A refusal is for another reason than that a request
is out. -/
inductive Tells (due : Option (Ticket × Errand)) : Act → Reply → Told → Prop where
  | read {offset len : Nat} {r : Except Failure Bytes} :
      Tells due (.read offset len) (.bytes r) (.read offset len r)
  | wrote {offset : Nat} {data : Bytes} {r : Except Failure Nat} :
      Tells due (.write offset data) (.count r) (.wrote offset data r)
  | flushed {r : Except Failure Nat} : Tells due .flush (.count r) (.flushed r)
  | refused {errand : Errand} {f : Failure} : f.isInFlight = false →
      Tells due errand.act (.started (.error f)) (.refused errand f)
  | ended {errand : Errand} {c : Completion} :
      Tells due errand.act (.started (.ok (.finished c))) (.done errand c)
  | done {ticket : Ticket} {errand : Errand} {c : Completion} : due = some (ticket, errand) →
      Tells due .deliver (.completed c) (.done errand c)

section Tells

variable {due : Option (Ticket × Errand)} {act : Act} {reply : Reply} {told : Told}

theorem Tells.does {file file' : Bytes} (h : Tells due act reply told)
    (hseen : SeenIf whole file due act reply file') : told.Does whole file file' := by
  cases h with
  | read =>
    cases hseen with
    | read hread => exact .read hread
  | wrote =>
    cases hseen with
    | write _ hfront => exact .wrote hfront
  | flushed =>
    cases hseen with
    | flush => exact .flushed
  | refused _ =>
    rw [Client.seen_refused hseen]
    exact .refused
  | ended => exact does_of_started hseen
  | done hdue =>
    rw [hdue] at hseen
    exact does_of_completed hseen

theorem Tells.told_unread (h : Tells due act reply told) (hreply : reply.Unread) : told.Unread := by
  cases hreply with
  | waited =>
    cases h with
    | read => exact .read
  | ended =>
    cases h with
    | ended => exact .done
  | done =>
    cases h with
    | done _ => exact .done

theorem Tells.reply_wrote (h : Tells due act reply told) (htold : told.Wrote) : reply.Wrote := by
  cases htold with
  | done =>
    cases h with
    | ended => exact .ended
    | done _ => exact .done

theorem Tells.unblocked {errand : Errand} {f : Failure}
    (h : Tells due act reply (.refused errand f)) : f.isInFlight = false := by
  cases h with
  | refused hother => exact hother

end Tells

/-! ## Bytes that stay -/

theorem byteAt_frontLaid {file file' data : Bytes} {offset p : Nat}
    (h : Bytes.FrontLaid file offset data file')
    (hp : ¬ (offset ≤ p ∧ p < offset + data.length)) :
    Bytes.byteAt file' p = Bytes.byteAt file p := by
  rcases h with rfl | ⟨n, rfl⟩
  · rfl
  · rw [Bytes.byteAt_overlay, if_neg]
    rw [List.length_take]
    omega

/-- A byte that is not to be written stays. -/
theorem Does.byteAt {file file' : Bytes} {told : Told} {p : Nat} (h : told.Does whole file file')
    (hp : ¬ told.Touches p) : Bytes.byteAt file' p = Bytes.byteAt file p := by
  cases h with
  | read _ => rfl
  | wrote hfront => exact byteAt_frontLaid hfront hp
  | flushed => rfl
  | refused => rfl
  | readDone _ => rfl
  | writeDone hlaid => exact byteAt_frontLaid hlaid.front hp

theorem Account.byteAt {file file' : Bytes} {heard : List Told} {p : Nat}
    (h : Account untorn whole file heard file') (hp : ∀ told ∈ heard, ¬ told.Touches p) :
    Bytes.byteAt file' p = Bytes.byteAt file p := by
  induction heard generalizing file whole with
  | nil => rw [h]
  | cons told rest ih =>
    obtain ⟨next, hdoes, hrest⟩ := h
    obtain ⟨htold, hothers⟩ := List.forall_mem_cons.mp hp
    exact (ih hrest hothers).trans (hdoes.byteAt htold)

/-- A read brings the bytes that the file has, where the image is whole. -/
theorem Does.brings {file file' bytes : Bytes} {told : Told} {offset i : Nat}
    (h : told.Does whole file file') (hwhole : whole) (hbrings : told.Brings offset bytes)
    (hi : i < bytes.length) :
    Bytes.byteAt bytes i = Bytes.byteAt file (offset + i) := by
  have hreceived : ∃ len, Received file offset len bytes := by
    cases hbrings with
    | read =>
      cases h with
      | read hread => exact ⟨_, hread hwhole _ rfl⟩
    | done =>
      cases h with
      | readDone hread => exact ⟨_, hread hwhole _ rfl⟩
  obtain ⟨len, hreceived⟩ := hreceived
  rw [hreceived.eq_slice, Bytes.byteAt_slice, if_pos hi]

/-- A write that went in full has put all of its data into the file. -/
theorem Does.wrote_byteAt {file file' data : Bytes} {offset j : Nat}
    (h : Does whole file (.done (.write offset data) (.count (.ok data.length))) file')
    (hj : j < data.length) : Bytes.byteAt file' (offset + j) = Bytes.byteAt data j := by
  cases h with
  | writeDone hlaid =>
    rw [(hlaid.counted _ rfl).2, List.take_length, Bytes.byteAt_overlay, if_pos (by omega),
      Nat.add_sub_cancel_left]

/-- What a write has put down in full, a later read brings, where nothing was to be written
in between and the image was not torn. -/
theorem Account.read_after_write {file file' data bytes : Bytes}
    {earlier between later : List Told} {told : Told} {offset offset' i j : Nat}
    (h : Account untorn whole file (earlier ++
      .done (.write offset data) (.count (.ok data.length)) :: between ++ told :: later) file')
    (hbrings : told.Brings offset' bytes) (hi : i < bytes.length) (hj : j < data.length)
    (hsame : offset' + i = offset + j) (hbetween : ∀ t ∈ between, ¬ t.Touches (offset + j))
    (huntorn : ∀ t ∈ between, t.Unread → untorn) :
    Bytes.byteAt bytes i = Bytes.byteAt data j := by
  rw [List.append_assoc, List.cons_append] at h
  obtain ⟨file1, -, hfrom⟩ := account_append.mp h
  obtain ⟨file2, hwrite, hbehind⟩ := hfrom
  obtain ⟨file3, hkept, file4, hread, -⟩ := account_append.mp hbehind
  -- the write that went in full has made the image whole, whatever it was before
  have hmended : LeavesWhole untorn (Whole untorn whole earlier)
      (.done (.write offset data) (.count (.ok data.length))) := .inl .done
  have hwhole := whole_of_untorn hmended huntorn
  calc Bytes.byteAt bytes i
      = Bytes.byteAt file3 (offset + j) := by rw [hread.brings hwhole hbrings hi, hsame]
    _ = Bytes.byteAt file2 (offset + j) := hkept.byteAt hbetween
    _ = Bytes.byteAt data j := hwrite.wrote_byteAt hj

end Told

/-! ## Callers and their plans -/

/-- What a caller does, each thing after the answer to the one before. What comes after a
request is done inside its callback, or when the caller is told by the call that it is refused. -/
inductive Plan where
  | stop
  | read (offset len : Nat) (next : Except Failure Bytes → Plan)
  | write (offset : Nat) (data : Bytes) (next : Except Failure Nat → Plan)
  | flush (next : Except Failure Nat → Plan)
  | request (errand : Errand) (next : Except Failure Completion → Plan)

/-- A callback that has still to run. -/
structure Waiting where
  ticket : Ticket
  errand : Errand
  next : Except Failure Completion → Plan

/-- All callers of one stage: what they heard, oldest first, and the callback they wait for. -/
structure Callers where
  heard : List Told := []
  waiting : Option Waiting := none

namespace World

variable {σ : Type}

def hear (w : World σ Callers) (told : Told) : World σ Callers :=
  { w with callers := { w.callers with heard := w.callers.heard ++ [told] } }

def wait (w : World σ Callers) (waiting : Waiting) : World σ Callers :=
  { w with callers := { w.callers with waiting := some waiting } }

/-- The client that the callers are. -/
def client (w : World σ Callers) : Client σ :=
  { stage := w.stage
    store := w.store
    due := w.callers.waiting.map fun waiting => (waiting.ticket, waiting.errand) }

end World

section Runs

variable {σ : Type} [ObjectStore σ]

/-- Follows a plan up to its end, or to a request whose callback has still to run. -/
def Plan.follow : Plan → World σ Callers → World σ Callers
  | .stop, w => w
  | .read offset len next, w =>
    let (r, stage, store) := w.stage.read offset len w.store
    (next r).follow ({ w with stage, store }.hear (.read offset len r))
  | .write offset data next, w =>
    let (r, stage, store) := w.stage.write offset data w.store
    (next r).follow ({ w with stage, store }.hear (.wrote offset data r))
  | .flush next, w =>
    let (r, stage, store) := w.stage.flush w.store
    (next r).follow ({ w with stage, store }.hear (.flushed r))
  | .request errand next, w =>
    match w.request errand fun c w => (next (.ok c)).follow (w.hear (.done errand c)) with
    | (.error f, w) => (next (.error f)).follow (w.hear (.refused errand f))
    | (.ok none, w) => w
    | (.ok (some ticket), w) => w.wait ⟨ticket, errand, next⟩

/-- The store delivers the completion that is waited for, and the plan goes on in the callback. -/
def World.resume (w : World σ Callers) (waiting : Waiting) : World σ Callers :=
  World.deliver { w with callers := { w.callers with waiting := none } } waiting.ticket
    fun c w => (waiting.next (.ok c)).follow (w.hear (.done waiting.errand c))

/-- The store delivers what is waited for, if anything is. -/
def World.delivered (w : World σ Callers) : World σ Callers :=
  match w.callers.waiting with
  | some waiting => w.resume waiting
  | none => w

/-- What comes about where callers start a plan only when they wait for no callback. -/
inductive Patient {fd : Fd} (K : Keeper σ fd) (capacity : Nat) : World σ Callers → Prop where
  | built {settings : Settings} {stage : Stage} {store : σ} {object : Bytes} :
      Stage.build settings fd = .ok stage → settings.bufferSize = capacity →
      K.Keeps store object none → Patient K capacity ⟨stage, store, {}⟩
  | starts {w : World σ Callers} (plan : Plan) : Patient K capacity w →
      w.callers.waiting = none → Patient K capacity (plan.follow w)
  | resumes {w : World σ Callers} {waiting : Waiting} : Patient K capacity w →
      w.callers.waiting = some waiting → Patient K capacity (w.resume waiting)

variable {fd : Fd} {K : Keeper σ fd} {capacity : Nat} {w w' : World σ Callers} {file : Bytes}

/-! ## What every plan keeps -/

omit [ObjectStore σ] in
/-- A client that is due what the callers wait for is the client that the callers are. -/
theorem World.client_world {c : Client σ} {callers : Callers}
    (hdue : c.due = callers.waiting.map fun waiting => (waiting.ticket, waiting.errand)) :
    (c.world callers).client = c := by
  unfold client Client.world
  rw [← hdue]

/-- What was heard accounts for the file as it is seen, and tells where the image is whole. -/
structure Accounted (K : Keeper σ fd) (file : Bytes) (w : World σ Callers) (object : Bytes) :
    Prop where
  held : Client.Held K w.client object
  account : Told.Account (w.stage.adapter.Untorn K) True file w.callers.heard (w.stage.view object)
  whole : Told.Whole (w.stage.adapter.Untorn K) True w.callers.heard → w.stage.Sound object

/-- Nobody was refused because a request is out, either. -/
structure Calm (K : Keeper σ fd) (capacity : Nat) (file : Bytes) (w : World σ Callers) :
    Prop where
  reached : Client.Reached K capacity w.client
  accounted : ∃ object, Accounted K file w object
  unblocked : ∀ errand f, Told.refused errand f ∈ w.callers.heard → f.isInFlight = false

/-- A step that the callers make, and what they hear of it. -/
theorem Calm.step {act : Act} {reply : Reply} {c' : Client σ} {told : List Told}
    (h : Calm K capacity file w) (hstep : w.client.step act = (reply, c'))
    (hclient : w'.client = c') (hheard : w'.callers.heard = w.callers.heard ++ told)
    (hseen : ∀ (untorn whole : Prop) (file file' : Bytes),
      SeenIf whole file w.client.due act reply file' → Told.Account untorn whole file told file')
    (hwhole : ∀ untorn whole : Prop, Told.Whole untorn whole told →
      reply.Wrote ∨ whole ∧ (reply.Unread → untorn))
    (hrefused : ∀ errand f, Told.refused errand f ∈ told → f.isInFlight = false) :
    Calm K capacity file w' := by
  obtain ⟨object, hheld, haccount, hsound⟩ := h.accounted
  obtain ⟨object', hheld', hkeeping⟩ := hheld.step hstep
  have hstage : w'.stage = c'.stage := congrArg Client.stage hclient
  have huntorn : c'.stage.adapter.Untorn K = w.stage.adapter.Untorn K :=
    (Client.step_adapter hheld.agree hstep).untorn_eq
  refine ⟨?_, ⟨object', hclient ▸ hheld', ?_, ?_⟩, ?_⟩
  · have hreached := Client.Reached.after act h.reached
    rw [hstep] at hreached
    rw [hclient]
    exact hreached
  · rw [hheard, hstage, huntorn]
    exact Told.account_append.mpr ⟨_, haccount, hseen _ _ _ _ (hkeeping.seen.mono hsound)⟩
  · rw [hheard, hstage, huntorn]
    intro hafter
    unfold Told.Whole at hafter
    rw [List.foldl_append] at hafter
    rcases hwhole _ _ hafter with hwrote | ⟨hbefore, hunread⟩
    · exact hkeeping.renewed hwrote
    · by_cases hfailed : reply.Unread
      · exact hkeeping.sound (.inl (hunread hfailed)) (hsound hbefore)
      · exact hkeeping.sound (.inr hfailed) (hsound hbefore)
  · intro errand f hmem
    rw [hheard] at hmem
    rcases List.mem_append.mp hmem with hmem | hmem
    · exact h.unblocked errand f hmem
    · exact hrefused errand f hmem

/-- A step of which they hear one thing. -/
theorem Calm.hears {act : Act} {reply : Reply} {c' : Client σ} {told : Told}
    (h : Calm K capacity file w) (hstep : w.client.step act = (reply, c'))
    (hclient : w'.client = c') (hheard : w'.callers.heard = w.callers.heard ++ [told])
    (htells : Told.Tells w.client.due act reply told) : Calm K capacity file w' := by
  apply h.step hstep hclient hheard
  · intro untorn whole file file' hseen
    exact (htells.does hseen).account
  · rintro untorn whole (hmended | ⟨hwhole, htold⟩)
    · exact .inl (htells.reply_wrote hmended)
    · exact .inr ⟨hwhole, fun hreply => htold (htells.told_unread hreply)⟩
  · intro errand f hmem
    obtain rfl := List.mem_singleton.mp hmem
    exact htells.unblocked

/-- With no callback to wait for, no request is out. -/
theorem Calm.idle (h : Calm K capacity file w) (hnone : w.callers.waiting = none) :
    w.client.due = none ∧ w.stage.outstanding = 0 ∧ ∃ object, K.Keeps w.store object none := by
  obtain ⟨object, hheld, -, -⟩ := h.accounted
  have hdue : w.client.due = none := by
    unfold World.client
    rw [hnone]
    rfl
  rcases hheld.agree.idle_or_waits with ⟨_, hidle, hk⟩ | ⟨_, _, _, hsome, _⟩
  · exact ⟨hdue, hidle, object, hk⟩
  · rw [hdue] at hsome
    cases hsome

/-- A request that is refused is refused for another reason. -/
theorem Calm.refused {errand : Errand} {f : Failure} {c' : Client σ} (hK : K.Unaware)
    (h : Calm K capacity file w) (hnone : w.callers.waiting = none)
    (hstep : w.client.step errand.act = (.started (.error f), c')) : f.isInFlight = false := by
  obtain ⟨_, hidle, object, hk⟩ := h.idle hnone
  obtain ⟨_, hheld, -, -⟩ := h.accounted
  cases errand with
  | read offset len =>
    exact Stage.readAio_unaware hK hheld.fd_eq hk hidle (Client.readAio_of_step hstep).1
  | write offset data =>
    exact Stage.writeAio_unaware hK hheld.fd_eq hk hidle (Client.writeAio_of_step hstep).1

/-- A plan is followed from one calm world to another. The plan is taken up again inside the
callback, so the induction goes through what the callback is told. -/
theorem Plan.follow_calm (hK : K.Unaware) (plan : Plan) (h : Calm K capacity file w)
    (hnone : w.callers.waiting = none) : Calm K capacity file (plan.follow w) := by
  induction plan generalizing w with
  | stop => exact h
  | read offset len next ih =>
    rcases hr : w.stage.read offset len w.store with ⟨r, stage, store⟩
    have hstep : w.client.step (.read offset len) = (.bytes r, { w.client with stage, store }) := by
      simp only [Client.step, World.client, hr]
    simp only [follow, hr]
    exact ih r (h.hears hstep rfl rfl .read) hnone
  | write offset data next ih =>
    rcases hw : w.stage.write offset data w.store with ⟨r, stage, store⟩
    have hstep : w.client.step (.write offset data) =
        (.count r, { w.client with stage, store }) := by
      simp only [Client.step, World.client, hw]
    simp only [follow, hw]
    exact ih r (h.hears hstep rfl rfl .wrote) hnone
  | flush next ih =>
    rcases hf : w.stage.flush w.store with ⟨r, stage, store⟩
    have hstep : w.client.step .flush = (.count r, { w.client with stage, store }) := by
      simp only [Client.step, World.client, hf]
    simp only [follow, hf]
    exact ih r (h.hears hstep rfl rfl .flushed) hnone
  | request errand next ih =>
    obtain ⟨hdue, -, -⟩ := h.idle hnone
    obtain ⟨r, hstep⟩ := Client.step_started w.client errand
    generalize (w.client.step errand.act).2 = c' at hstep
    have hworld : w = w.client.world w.callers := rfl
    unfold follow
    rw [hworld]
    rcases r with f | ⟨answer | ticket⟩
    · obtain ⟨hdue', hrequest⟩ := Client.request_refused (ω := Callers) hstep
      rw [hrequest]
      have hclient : (c'.world w.callers).client = c' := World.client_world hdue'
      have hother : f.isInFlight = false := h.refused hK hnone hstep
      exact ih (.error f) (h.hears hstep hclient rfl (.refused hother)) hnone
    · obtain ⟨hdue', hrequest⟩ := Client.request_finished (ω := Callers) hstep
      rw [hrequest]
      have hclient : (c'.world w.callers).client = c' := World.client_world hdue'
      exact ih (.ok answer) (h.hears hstep hclient rfl .ended) hnone
    · obtain ⟨hdue', hrequest⟩ := Client.request_submitted (ω := Callers) hstep
      rw [hrequest]
      have hclient : ((c'.world w.callers).wait ⟨ticket, errand, next⟩).client = c' := by
        unfold World.client World.wait Client.world
        rw [Option.map_some, ← hdue']
      apply h.step hstep hclient (List.append_nil _).symm
      · intro untorn whole file file' hseen
        cases errand with
        | read _ _ =>
          cases hseen with
          | readOut => rfl
        | write _ _ =>
          cases hseen with
          | writeOut => rfl
      · intro untorn whole hwhole
        refine .inr ⟨hwhole, ?_⟩
        intro hunread
        cases hunread
      · simp

/-- So is the plan that goes on when a completion is delivered. -/
theorem World.resume_calm {waiting : Waiting} (hK : K.Unaware) (h : Calm K capacity file w)
    (hsome : w.callers.waiting = some waiting) : Calm K capacity file (w.resume waiting) := by
  obtain ⟨object, hheld, -, -⟩ := h.accounted
  have hdue : w.client.due = some (waiting.ticket, waiting.errand) := by
    unfold World.client
    rw [hsome]
    rfl
  obtain ⟨answer, c', hstep, hdue', -, -, hdeliver⟩ := hheld.ends (ω := Callers) hdue
  have hworld : { w with callers := { w.callers with waiting := none } } =
      w.client.world { w.callers with waiting := none } := rfl
  unfold resume
  rw [hworld, hdeliver]
  have hclient : (c'.world { w.callers with waiting := none }).client = c' := client_world hdue'
  exact Plan.follow_calm hK _ (h.hears hstep hclient rfl (.done hdue)) rfl

/-- Patience keeps calm. -/
theorem Patient.calm (hK : K.Unaware) (h : Patient K capacity w) :
    ∃ file, Calm K capacity file w := by
  induction h with
  | @built settings stage store object hbuild hsize hk =>
    obtain ⟨hheld, hsound, -⟩ := Client.held_of_build hbuild hk
    exact ⟨_, .built hbuild hsize hk, ⟨object, hheld, rfl, fun _ => hsound⟩, by simp⟩
  | starts plan _ hnone ih =>
    obtain ⟨file, hcalm⟩ := ih
    exact ⟨file, plan.follow_calm hK hcalm hnone⟩
  | resumes _ hsome ih =>
    obtain ⟨file, hcalm⟩ := ih
    exact ⟨file, World.resume_calm hK hcalm hsome⟩

theorem Patient.delivered (h : Patient K capacity w) : Patient K capacity w.delivered := by
  unfold World.delivered
  split
  · rename_i waiting hsome
    exact h.resumes hsome
  · exact h

/-! ## Where a callback runs, its request is over -/

/-- Whatever a callback does, it runs last, and where it runs nothing is out, the counters
have the request and the image is the one that stays; so it is when the call itself ends the
request, and when its completion is delivered. A write through the buffer that has come out
in full leaves an image with all of every range inside it. Callers that hand a request in only
inside or after the callback of the last one are never refused because a request is out, and
every read that they make after a write in full brings its bytes, as far as it gets and as far
as nothing else was to be written there; but a read that fails in between can tear the image,
when the store lays bytes straight into it before it fails. -/
theorem a_callback_runs_where_its_request_is_over {ω : Type} (hK : K.Unaware) :
    (∀ c : Client σ, Client.Reached K capacity c →
      (∀ errand, Client.Begins K ω c errand) ∧
        ∀ ticket errand, c.due = some (ticket, errand) →
          ∃ (answer : Completion) (c' : Client σ),
            c'.due = none ∧ c.stage.Ends c'.stage answer ∧
            c.stage.Settles K c'.stage errand answer ∧
            ∀ (callers : ω) (done : Done σ ω),
              (c.world callers).deliver ticket done = done answer (c'.world callers)) ∧
      (∀ (s : Stage) (c : Client σ) offset data,
        s.Settles K c.stage (.write offset data) (.count (.ok data.length)) →
          c.stage.outstanding = 0 → ∀ offset' len, offset ≤ offset' →
            offset' + len ≤ offset + data.length → offset' + len ≤ Offset.last →
              (c.step (.read offset' len)).1 =
                  .bytes (.ok (Bytes.slice data (offset' - offset) len)) ∧
                (c.step (.readAio offset' len)).1 = .started (.ok (.finished (.bytes (.ok
                  (Bytes.slice data (offset' - offset) len)))))) ∧
      ∀ w, Patient K capacity w →
        Client.Reached K capacity w.client ∧
          (∀ errand f, Told.refused errand f ∈ w.callers.heard → f.isInFlight = false) ∧
          ∀ earlier between later told offset data offset' bytes i j,
            w.callers.heard =
                earlier ++ .done (.write offset data) (.count (.ok data.length)) :: between ++
                  told :: later →
              told.Brings offset' bytes → i < bytes.length → j < data.length →
              offset' + i = offset + j → (∀ t ∈ between, ¬ t.Touches (offset + j)) →
              (w.stage.adapter.Untorn K ∨ ∀ t ∈ between, ¬ t.Unread) →
              Bytes.byteAt bytes i = Bytes.byteAt data j := by
  refine ⟨fun c hc => ?_, fun s c offset data hsettles hidle => ?_, fun w hw => ?_⟩
  · obtain ⟨object, hheld, -⟩ := hc.held
    refine ⟨hheld.begins, fun ticket errand hdue => ?_⟩
    obtain ⟨answer, c', -, hdue', hends, hsettles, hdeliver⟩ := hheld.ends hdue
    exact ⟨answer, c', hdue', hends, hsettles, hdeliver⟩
  · intro offset' len hle hend hlast
    obtain ⟨hread, hreadAio⟩ := hsettles.hit hle hend hlast
    obtain ⟨_, hstep, _⟩ := Client.step_hit hidle hread
    obtain ⟨_, hstep', _⟩ := Client.step_hit hidle hreadAio
    exact ⟨congrArg Prod.fst hstep, congrArg Prod.fst hstep'⟩
  · obtain ⟨file, hcalm⟩ := hw.calm hK
    obtain ⟨object, -, haccount, -⟩ := hcalm.accounted
    refine ⟨hcalm.reached, hcalm.unblocked, ?_⟩
    intro earlier between later told offset data offset' bytes i j hheard hbrings hi hj hsame
      hbetween hunhurt
    rw [hheard] at haccount
    refine haccount.read_after_write hbrings hi hj hsame hbetween ?_
    exact fun t ht hunread => hunhurt.resolve_right fun hall => hall t ht hunread

end Runs

/-- Three bytes are written, and read in the callback. When the read is refused it is asked
for again. -/
def readingBack : Plan :=
  .request (.write 1 [7, 8, 9]) fun _ => .request (.read 0 4) fun
    | .ok _ => .stop
    | .error _ => .request (.read 0 4) fun _ => .stop

/-- A stage of four bytes whose transfers block their callers. -/
def abrupt : Stage := { Stage.small with adapter := { Stage.small.adapter with kind := .sync } }

theorem abrupt_built : Stage.build { bufferSize := 4, adapter := .sync } .first = .ok abrupt :=
  Stage.build_eq_ok_iff.mpr ⟨by decide, rfl⟩

/-- Four bytes are written, and read in the callback behind a read of others. Then three
bytes are written, and read. -/
def readingAmiss : Plan :=
  .request (.write 0 [11, 12, 13, 14]) fun _ => .read 4 4 fun _ => .read 0 4 fun _ =>
    .request (.write 1 [21, 22, 23]) fun _ => .read 0 4 fun _ => .stop

/-- What callers on a disk with a bad spot come to. -/
def amiss : World (Scratched (Throttled MemoryStore)) Callers :=
  readingAmiss.follow ⟨abrupt, Scratched.disk, {}⟩

theorem amiss_patient : Patient (MemoryStore.keeper .first 0 .readWrite).scratched 4 amiss :=
  .starts readingAmiss (.built abrupt_built rfl Scratched.disk_kept) rfl

/-- The read that failed has laid two bytes over what was written. -/
theorem amiss_heard : amiss.callers.heard =
    [.done (.write 0 [11, 12, 13, 14]) (.count (.ok 4)),
      .read 4 4 (.error (.system Scratched.unreadable)), .read 0 4 (.ok [5, 6, 13, 14]),
      .done (.write 1 [21, 22, 23]) (.count (.ok 3)), .read 0 4 (.ok [11, 21, 22, 23])] := by
  decide +kernel

/-- The store owes the completion of a write. When it has delivered that, the image has what
was written, and the store refuses the read once. On the disk with a bad spot the second
write mends what the read that failed has torn. -/
theorem a_written_byte_is_read_back_from_a_balking_store :
    (MemoryStore.keeper .first 0 .readWrite).shared.Unaware ∧
      (∃ (c c' : Client (Shared (Throttled MemoryStore))) (answer : Completion),
        Client.Reached (MemoryStore.keeper .first 0 .readWrite).shared 4 c ∧
        c.due = some (⟨0⟩, .write 1 [7, 8, 9]) ∧ c.stage.Ends c'.stage answer ∧
        c.stage.Settles (MemoryStore.keeper .first 0 .readWrite).shared c'.stage
          (.write 1 [7, 8, 9]) answer) ∧
      (∃ c : Client (Shared (Throttled MemoryStore)),
        Stage.small.Settles (MemoryStore.keeper .first 0 .readWrite).shared c.stage
          (.write 1 [7, 8, 9]) (.count (.ok 3)) ∧
        (c.step (.read 2 2)).1 = .bytes (.ok [8, 9])) ∧
      (∃ w, Patient (MemoryStore.keeper .first 0 .readWrite).shared 4 w ∧
        w.callers.heard =
          [.done (.write 1 [7, 8, 9]) (.count (.ok 3)),
            .refused (.read 0 4) (.refused .submitting 5),
            .done (.read 0 4) (.bytes (.ok [1, 7, 8, 9]))] ∧
        Bytes.byteAt [1, 7, 8, 9] 2 = Bytes.byteAt [7, 8, 9] 1) ∧
      (MemoryStore.keeper .first 0 .readWrite).scratched.Unaware ∧
      ¬ (MemoryStore.keeper .first 0 .readWrite).scratched.LandsNothing ∧
      Bytes.byteAt [11, 21, 22, 23] 2 = Bytes.byteAt [21, 22, 23] 1 := by
  have hK := (MemoryStore.keeper_unaware .first 0 .readWrite).shared
  have hscratched := (MemoryStore.keeper_unaware .first 0 .readWrite).scratched
  have hstarted : Patient (MemoryStore.keeper .first 0 .readWrite).shared 4
      (readingBack.follow ⟨.small, Client.balking, {}⟩) :=
    .starts readingBack (.built Stage.small_built rfl
      ⟨MemoryStore.single_kept .deferred .readWrite [1, 2, 3, 4, 5] {},
        MemoryStore.spared_by_faults .first 0 .readWrite _ _⟩) rfl
  have hall := @a_callback_runs_where_its_request_is_over (Shared (Throttled MemoryStore)) _ _
    (MemoryStore.keeper .first 0 .readWrite).shared 4 Unit hK
  obtain ⟨htold, hwritten, hpatient⟩ := hall
  obtain ⟨hreached, -, -⟩ := hpatient _ hstarted
  obtain ⟨-, -, hread⟩ := hpatient _ hstarted.delivered.delivered
  have hdue : (readingBack.follow ⟨.small, Client.balking, {}⟩).client.due =
      some (⟨0⟩, .write 1 [7, 8, 9]) := by decide +kernel
  have hheard :
      (readingBack.follow ⟨.small, Client.balking, {}⟩).delivered.delivered.callers.heard =
        [] ++ .done (.write 1 [7, 8, 9]) (.count (.ok 3)) ::
          [.refused (.read 0 4) (.refused .submitting 5)] ++
          .done (.read 0 4) (.bytes (.ok [1, 7, 8, 9])) :: [] := by decide +kernel
  let put : World (Shared (Throttled MemoryStore)) Callers :=
    ((Plan.request (.write 1 [7, 8, 9]) fun _ => .stop).follow
      ⟨.small, Client.balking, {}⟩).delivered
  have hput : Stage.small.Settles (MemoryStore.keeper .first 0 .readWrite).shared put.client.stage
      (.write 1 [7, 8, 9]) (.count (.ok 3)) :=
    .write (by decide +kernel) (by decide +kernel) (by decide +kernel)
  refine ⟨hK, ?_, ⟨put.client, hput, ?_⟩, ⟨_, hstarted.delivered.delivered, hheard, ?_⟩,
    hscratched, Scratched.disk_tears, ?_⟩
  · obtain ⟨answer, c', -, hends, hsettles, -⟩ := (htold _ hreached).2 _ _ hdue
    exact ⟨_, c', answer, hreached, hdue, hends, hsettles⟩
  · exact (hwritten _ put.client 1 [7, 8, 9] hput (by decide +kernel) 2 2 (by decide) (by decide)
      (by decide)).1
  · refine hread _ _ _ _ 1 [7, 8, 9] 0 _ 2 1 hheard .done (by decide) (by decide) rfl
      (by simp [Told.Touches]) (.inr ?_)
    intro t ht hunread
    cases List.mem_singleton.mp ht
    cases hunread
  · obtain ⟨-, -, hamiss⟩ := (a_callback_runs_where_its_request_is_over (ω := Unit)
      hscratched).2.2 _ amiss_patient
    exact hamiss [_, _, _] [] [] _ 1 [21, 22, 23] 0 _ 2 1 amiss_heard .read (by decide) (by decide) rfl
      nofun (.inr nofun)

/-- The bytes that a read has laid into the image before it failed are brought where a write
has put down others, in full, before. -/
theorem a_torn_image_hides_what_was_written :
    (MemoryStore.keeper .first 0 .readWrite).scratched.Unaware ∧
      ¬ ∀ w, Patient (MemoryStore.keeper .first 0 .readWrite).scratched 4 w →
          ∀ earlier between later told offset data offset' bytes i j,
            w.callers.heard =
                earlier ++ .done (.write offset data) (.count (.ok data.length)) :: between ++
                  told :: later →
              told.Brings offset' bytes → i < bytes.length → j < data.length →
              offset' + i = offset + j → (∀ t ∈ between, ¬ t.Touches (offset + j)) →
              Bytes.byteAt bytes i = Bytes.byteAt data j := by
  refine ⟨(MemoryStore.keeper_unaware .first 0 .readWrite).scratched, ?_⟩
  intro hall
  have hsame := hall _ amiss_patient [] [_] _ _ 0 [11, 12, 13, 14] 0 _ 0 0 amiss_heard .read
    (by decide) (by decide) rfl (by simp [Told.Touches])
  exact absurd hsame (by decide)

end StagedFiles
