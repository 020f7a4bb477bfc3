-- Callers of one stage. They read, write and flush, hand requests in and take
-- completions, in any order. To them the stage is one file, whatever the store
-- does underneath: only writes change it, and reads bring what it holds. A
-- store that is kept stays kept from step to step, and the stage sound, unless a
-- read that fails tears its image; the next write that is over mends it.
import StagedFiles.Proofs.KeptRequests

namespace StagedFiles

/-! ## What callers do -/

/-- What is asked of a stage. The completion of the request that is out is
delivered when the store has it. -/
inductive Act where
  | read (offset len : Nat)
  | write (offset : Nat) (data : Bytes)
  | flush
  | readAio (offset len : Nat)
  | writeAio (offset : Nat) (data : Bytes)
  | deliver

/-- The act has data to write. -/
def Act.writes : Act → Bool
  | .write _ _ => true
  | .writeAio _ _ => true
  | _ => false

deriving instance DecidableEq for Completion
deriving instance DecidableEq for Started

/-- What a caller hears. -/
inductive Reply where
  | bytes (r : Except Failure Bytes)
  | count (r : Except Failure Nat)
  | started (r : Except Failure (Started Completion))
  | completed (c : Completion)
  /-- There was no request to complete. -/
  | nothing
  deriving DecidableEq

/-- A stage over a store, and the request that is out under its ticket. -/
structure Client (σ : Type) where
  stage : Stage
  store : σ
  due : Option (Ticket × Errand) := none

namespace Client

variable {σ : Type} [ObjectStore σ]

/-- A request that was handed in is out when the store gave a ticket for it. -/
def dueAfter (due : Option (Ticket × Errand)) (asked : Errand) :
    Except Failure (Started Completion) → Option (Ticket × Errand)
  | .ok (.submitted ticket) => some (ticket, asked)
  | _ => due

def step (c : Client σ) : Act → Reply × Client σ
  | .read offset len =>
    let (r, stage, store) := c.stage.read offset len c.store
    (.bytes r, { c with stage, store })
  | .write offset data =>
    let (r, stage, store) := c.stage.write offset data c.store
    (.count r, { c with stage, store })
  | .flush =>
    let (r, stage, store) := c.stage.flush c.store
    (.count r, { c with stage, store })
  | .readAio offset len =>
    let (r, stage, store) := c.stage.readAio offset len c.store
    (.started r, { stage, store, due := dueAfter c.due (.read offset len) r })
  | .writeAio offset data =>
    let (r, stage, store) := c.stage.writeAio offset data c.store
    (.started r, { stage, store, due := dueAfter c.due (.write offset data) r })
  | .deliver =>
    match c.due with
    | none => (.nothing, c)
    | some (ticket, _) =>
      match ObjectStore.await ticket c.store with
      | (some done, store) =>
        let (answer, stage) := c.stage.complete done
        (.completed answer, { stage, store })
      | (none, store) => (.nothing, { c with store, due := none })

/-- All the acts in order. -/
def run (c : Client σ) (acts : List Act) : Client σ := acts.foldl (fun c act => (c.step act).2) c

theorem run_append_singleton (c : Client σ) (acts : List Act) (act : Act) :
    c.run (acts ++ [act]) = ((c.run acts).step act).2 := by
  unfold run
  rw [List.foldl_append]
  rfl

end Client

/-! ## What they see -/

/-- What a read brought to a caller: a piece of the file from the offset on, at
most as long as asked, and the rest of the caller's buffer stays. -/
structure Received (file : Bytes) (offset len : Nat) (bytes : Bytes) : Prop where
  length_le : bytes.length ≤ len
  eq_slice : bytes = Bytes.slice file offset bytes.length
  rest : ∀ buffer : Bytes, buffer.length = len →
    Bytes.overlay buffer 0 bytes = bytes ++ buffer.drop bytes.length

theorem Delivered.received {file : Bytes} {offset len : Nat} {bytes : Bytes}
    (h : Delivered file offset len bytes) : Received file offset len bytes := by
  refine ⟨h.length_le, Bytes.hasAt_iff.mp h.held, ?_⟩
  intro buffer _
  unfold Bytes.overlay Bytes.resize
  simp

/-- What an act does to the file, with what it says. Only writes change the
file. A write that waits lays all of its data over it when it comes out well, a
request that was handed in as much as it counts, and one that fails a front at most.
What reads bring is the file's where the stage is sound. -/
inductive SeenIf (sound : Prop) (file : Bytes) (due : Option (Ticket × Errand)) :
    Act → Reply → Bytes → Prop where
  | read {offset len : Nat} {r : Except Failure Bytes} :
      (sound → ∀ bytes, r = .ok bytes → Received file offset len bytes) →
      SeenIf sound file due (.read offset len) (.bytes r) file
  | write {offset : Nat} {data : Bytes} {r : Except Failure Nat} {file' : Bytes} :
      (∀ n, r = .ok n → n = data.length ∧ file' = Bytes.written file offset data) →
      Bytes.FrontLaid file offset data file' →
      SeenIf sound file due (.write offset data) (.count r) file'
  | flush {r : Except Failure Nat} : SeenIf sound file due .flush (.count r) file
  | readRefused {offset len : Nat} {f : Failure} :
      SeenIf sound file due (.readAio offset len) (.started (.error f)) file
  | readOver {offset len : Nat} {r : Except Failure Bytes} :
      (sound → ∀ bytes, r = .ok bytes → Received file offset len bytes) →
      SeenIf sound file due (.readAio offset len) (.started (.ok (.finished (.bytes r)))) file
  | readOut {offset len : Nat} {ticket : Ticket} :
      SeenIf sound file due (.readAio offset len) (.started (.ok (.submitted ticket))) file
  | writeRefused {offset : Nat} {data : Bytes} {f : Failure} :
      SeenIf sound file due (.writeAio offset data) (.started (.error f)) file
  | writeOver {offset : Nat} {data : Bytes} {r : Except Failure Nat} {file' : Bytes} :
      Laid file offset data r file' →
      SeenIf sound file due (.writeAio offset data) (.started (.ok (.finished (.count r)))) file'
  | writeOut {offset : Nat} {data : Bytes} {ticket : Ticket} :
      SeenIf sound file due (.writeAio offset data) (.started (.ok (.submitted ticket))) file
  | readDone {offset len : Nat} {ticket : Ticket} {r : Except Failure Bytes} :
      due = some (ticket, .read offset len) →
      (sound → ∀ bytes, r = .ok bytes → Received file offset len bytes) →
      SeenIf sound file due .deliver (.completed (.bytes r)) file
  | writeDone {offset : Nat} {data : Bytes} {ticket : Ticket} {r : Except Failure Nat}
      {file' : Bytes} :
      due = some (ticket, .write offset data) → Laid file offset data r file' →
      SeenIf sound file due .deliver (.completed (.count r)) file'
  | nothing : due = none → SeenIf sound file due .deliver .nothing file

/-- What an act does to the file that a sound stage shows, with what it says. -/
abbrev Seen (file : Bytes) (due : Option (Ticket × Errand)) : Act → Reply → Bytes → Prop :=
  SeenIf True file due

/-- What is seen where the stage is sound is seen all the more where it is known to be. -/
theorem SeenIf.mono {sound sound' : Prop} {file file' : Bytes} {due : Option (Ticket × Errand)}
    {act : Act} {reply : Reply} (h : SeenIf sound file due act reply file')
    (hs : sound' → sound) : SeenIf sound' file due act reply file' := by
  cases h with
  | read hread => exact .read fun hsound => hread (hs hsound)
  | write hall hfront => exact .write hall hfront
  | flush => exact .flush
  | readRefused => exact .readRefused
  | readOver hread => exact .readOver fun hsound => hread (hs hsound)
  | readOut => exact .readOut
  | writeRefused => exact .writeRefused
  | writeOver hlaid => exact .writeOver hlaid
  | writeOut => exact .writeOut
  | readDone hdue hread => exact .readDone hdue fun hsound => hread (hs hsound)
  | writeDone hdue hlaid => exact .writeDone hdue hlaid
  | nothing hdue => exact .nothing hdue

/-- The caller hears that bytes were not read. -/
inductive Reply.Unread : Reply → Prop where
  | waited {f : Failure} : Unread (.bytes (.error f))
  | ended {f : Failure} : Unread (.started (.ok (.finished (.bytes (.error f)))))
  | done {f : Failure} : Unread (.completed (.bytes (.error f)))

/-- The caller hears that a write it handed in is over, and that some of it went. -/
inductive Reply.Wrote : Reply → Prop where
  | ended {n : Nat} : Wrote (.started (.ok (.finished (.count (.ok n)))))
  | done {n : Nat} : Wrote (.completed (.count (.ok n)))

/-! ## What every step keeps -/

namespace Client

variable {σ : Type} [ObjectStore σ] {fd : Fd}

/-- The stage and the store agree on what is out. -/
def Agree (K : Keeper σ fd) (c : Client σ) (object : Bytes) : Prop :=
  match c.due with
  | none => c.stage.outstanding = 0 ∧ K.Keeps c.store object none
  | some (ticket, asked) =>
    ∃ made, c.stage.Waits asked made ∧ K.Keeps c.store object (some (ticket, made))

/-- The store keeps the object, staged bytes are well placed, and the stage and the store
agree on what is out. -/
structure Held (K : Keeper σ fd) (c : Client σ) (object : Bytes) : Prop where
  fd_eq : c.stage.fd = fd
  placed : c.stage.Placed
  agree : Agree K c object

/-- The stage is sound besides, and no fill tears its image. -/
structure Good (K : Keeper σ fd) (c : Client σ) (object : Bytes) : Prop
    extends Held K c object where
  sound : c.stage.Sound object
  untorn : c.stage.adapter.Untorn K

variable {K : Keeper σ fd} {c c' : Client σ} {object : Bytes} {reply : Reply}

theorem agree_of_idle (hdue : c.due = none) (hidle : c.stage.outstanding = 0)
    (hk : K.Keeps c.store object none) : Agree K c object := by
  unfold Agree
  rw [hdue]
  exact ⟨hidle, hk⟩

theorem agree_of_waits {ticket : Ticket} {asked made : Errand} (hdue : c.due = some (ticket, asked))
    (hw : c.stage.Waits asked made) (hk : K.Keeps c.store object (some (ticket, made))) :
    Agree K c object := by
  unfold Agree
  rw [hdue]
  exact ⟨made, hw, hk⟩

/-- What is due is waited for by the stage, and is out at the store. -/
theorem Agree.waits {ticket : Ticket} {asked : Errand} (h : Agree K c object)
    (hdue : c.due = some (ticket, asked)) :
    ∃ made, c.stage.Waits asked made ∧ K.Keeps c.store object (some (ticket, made)) := by
  unfold Agree at h
  rw [hdue] at h
  exact h

/-- Nothing is out, or the stage waits for what is due. -/
theorem Agree.idle_or_waits (h : Agree K c object) :
    (c.due = none ∧ c.stage.outstanding = 0 ∧ K.Keeps c.store object none) ∨
      ∃ ticket asked made, c.due = some (ticket, asked) ∧ c.stage.Waits asked made ∧
        K.Keeps c.store object (some (ticket, made)) := by
  rcases hdue : c.due with _ | ⟨ticket, asked⟩
  · unfold Agree at h
    rw [hdue] at h
    exact Or.inl ⟨rfl, h.1, h.2⟩
  · obtain ⟨made, hw, hk⟩ := h.waits hdue
    exact Or.inr ⟨ticket, asked, made, rfl, hw, hk⟩

theorem Agree.idle_or_busy (h : Agree K c object) :
    (c.due = none ∧ c.stage.outstanding = 0 ∧ K.Keeps c.store object none) ∨
      c.stage.outstanding ≠ 0 := by
  rcases h.idle_or_waits with hidle | ⟨_, _, _, _, hw, _⟩
  · exact Or.inl hidle
  · refine Or.inr ?_
    rw [hw.outstanding]
    exact Nat.one_ne_zero

theorem Agree.keeps (h : Agree K c object) : ∃ out, K.Keeps c.store object out := by
  rcases h.idle_or_waits with ⟨_, _, hk⟩ | ⟨_, _, _, _, _, hk⟩
  · exact ⟨_, hk⟩
  · exact ⟨_, hk⟩

theorem Agree.nothing_staged (h : Agree K c object) (hout : c.stage.outstanding ≠ 0) :
    c.stage.dirty = false := by
  rcases h.idle_or_waits with ⟨_, hidle, _⟩ | ⟨_, _, _, _, hw, _⟩
  · exact absurd hidle hout
  · exact hw.clean

theorem Agree.one_out (h : Agree K c object) : c.stage.outstanding ≤ 1 := by
  rcases h.idle_or_waits with ⟨_, hidle, _⟩ | ⟨_, _, _, _, hw, _⟩
  · rw [hidle]
    exact Nat.zero_le _
  · rw [hw.outstanding]

/-- While a write is out, its data are no image. -/
theorem Agree.write_hides {offset len : Nat} (h : Agree K c object)
    (hmem : AioRequest.write offset len ∈ c.stage.inflight.requests) :
    c.stage.buffer.valid = false := by
  rcases h.idle_or_waits with ⟨_, hidle, _⟩ | ⟨_, _, _, _, hw, _⟩
  · have hnil : c.stage.inflight.requests = [] := List.length_eq_zero_iff.mp hidle
    rw [hnil] at hmem
    cases hmem
  · cases hw with
    | read _ hreq =>
      rw [hreq] at hmem
      simp at hmem
    | write hholds _ => exact hholds.invalid

/-- The agreement outlives what happens to the store, as long as the object is
kept in some form. -/
theorem Agree.move {store : σ} (h : Agree K c object)
    (hk : ∀ out, K.Keeps c.store object out → ∃ object', K.Keeps store object' out) :
    ∃ object', Agree K { c with store } object' := by
  rcases h.idle_or_waits with ⟨hdue, hidle, hnone⟩ | ⟨ticket, asked, made, hdue, hw, hmade⟩
  · obtain ⟨object', hk'⟩ := hk none hnone
    exact ⟨object', agree_of_idle hdue hidle hk'⟩
  · obtain ⟨object', hk'⟩ := hk _ hmade
    exact ⟨object', agree_of_waits hdue hw hk'⟩

/-- The act keeps the agreement, and does to the file what it says. A sound stage it keeps
sound, unless a read fails and tears the image. A write that was handed in and went makes
any stage sound. -/
structure Keeping (K : Keeper σ fd) (c : Client σ) (object : Bytes) (act : Act) (reply : Reply)
    (c' : Client σ) (object' : Bytes) : Prop where
  agree : Agree K c' object'
  placed : c.stage.Placed → c'.stage.Placed
  sound : c.stage.adapter.Untorn K ∨ ¬ reply.Unread → c.stage.Sound object →
    c'.stage.Sound object'
  renewed : reply.Wrote → c'.stage.Sound object'
  seen : SeenIf (c.stage.Sound object) (c.stage.view object) c.due act reply
    (c'.stage.view object')

/-- An act that changes nothing. -/
theorem Keeping.unmoved {act : Act} (hagree : Agree K c object) (hwrote : ¬ reply.Wrote)
    (hseen : SeenIf (c.stage.Sound object) (c.stage.view object) c.due act reply
      (c.stage.view object)) : Keeping K c object act reply c object :=
  ⟨hagree, id, fun _ => id, fun h => absurd h hwrote, hseen⟩

/-- A quiet act leaves the file as it is seen. -/
theorem Keeping.quiet {act : Act} {store : σ} {object' : Bytes} {unhurt : Prop}
    (hq : Stage.Quiet K unhurt c.stage object c'.stage store object') (hagree : Agree K c' object')
    (hunhurt : c.stage.adapter.Untorn K ∨ ¬ reply.Unread → unhurt) (hwrote : ¬ reply.Wrote)
    (hseen : SeenIf (c.stage.Sound object) (c.stage.view object) c.due act reply
      (c.stage.view object)) : Keeping K c object act reply c' object' := by
  refine ⟨hagree, hq.placed, fun hu => hq.sound (hunhurt hu), fun h => absurd h hwrote, ?_⟩
  rw [hq.view]
  exact hseen

/-- Where no fill tears the image, or the reply tells of no read that failed, the image is
unhurt. -/
theorem unhurt_of_reply {a : Adapter} {r : Except Failure Bytes}
    (hunread : ∀ f, r = .error f → reply.Unread) (h : a.Untorn K ∨ ¬ reply.Unread) :
    a.Unhurt K r := by
  cases r with
  | error f => exact .inl (h.resolve_right fun hnot => hnot (hunread f rfl))
  | ok bytes => exact .inr ⟨bytes, rfl⟩

/-! ## Calls that wait -/

theorem read_keeping {offset len : Nat} (hfd : c.stage.fd = fd) (hagree : Agree K c object)
    (h : c.step (.read offset len) = (reply, c')) :
    ∃ object', Keeping K c object (.read offset len) reply c' object' := by
  rcases hr : c.stage.read offset len c.store with ⟨r, stage, store⟩
  simp only [step, hr] at h
  cases h
  have hwrote : ¬ (Reply.bytes r).Wrote := nofun
  have hrefused : ∀ f, SeenIf (c.stage.Sound object) (c.stage.view object) c.due
      (.read offset len) (.bytes (.error f)) (c.stage.view object) :=
    fun f => .read (fun _ bytes hb => by cases hb)
  by_cases hlast : offset + len ≤ Offset.last
  · rcases hagree.idle_or_busy with ⟨hdue, hidle, hk⟩ | hbusy
    · rw [Stage.read_idle _ hlast hidle] at hr
      obtain ⟨object', hq, hbytes⟩ := Stage.readBytes_kept hfd hk hr
      have hidle' : stage.outstanding = 0 := (Stage.readBytes_same hr).outstanding.trans hidle
      have hunread : ∀ f, r = .error f → (Reply.bytes r).Unread := fun f hf => hf ▸ .waited
      refine ⟨object', .quiet hq (agree_of_idle hdue hidle' hq.keeps) (unhurt_of_reply hunread)
        hwrote (.read ?_)⟩
      intro hs bytes hb
      obtain ⟨hlen, hat⟩ := hbytes hs bytes hb
      exact Delivered.received ⟨hlen, hat⟩
    · rw [Stage.read_busy _ hlast hbusy] at hr
      cases hr
      exact ⟨object, .unmoved hagree hwrote (hrefused _)⟩
  · rw [Stage.read_beyond _ (Nat.lt_of_not_le hlast)] at hr
    cases hr
    exact ⟨object, .unmoved hagree hwrote (hrefused _)⟩

theorem write_keeping {offset : Nat} {data : Bytes} (hfd : c.stage.fd = fd)
    (hagree : Agree K c object) (h : c.step (.write offset data) = (reply, c')) :
    ∃ object', Keeping K c object (.write offset data) reply c' object' := by
  rcases hw : c.stage.write offset data c.store with ⟨r, stage, store⟩
  simp only [step, hw] at h
  cases h
  have hwrote : ¬ (Reply.count r).Wrote := nofun
  have hrefused : ∀ f, SeenIf (c.stage.Sound object) (c.stage.view object) c.due
      (.write offset data) (.count (.error f)) (c.stage.view object) :=
    fun f => .write (fun n hn => by cases hn) (Or.inl rfl)
  by_cases hlast : offset + data.length ≤ Offset.last
  · rcases hagree.idle_or_busy with ⟨hdue, hidle, hk⟩ | hbusy
    · rw [Stage.write_idle _ hlast hidle] at hw
      obtain ⟨object', hk', hmends, hok, hfront⟩ := Stage.stageFrom_kept hfd hk hlast hw
      have hidle' : stage.outstanding = 0 := (Stage.stageFrom_same hw).outstanding.trans hidle
      refine ⟨object', agree_of_idle hdue hidle' hk', hmends.placed, fun _ => hmends.sound,
        fun h => absurd h hwrote, .write ?_ hfront⟩
      intro n hn
      obtain ⟨hall, hwritten⟩ := hok n hn
      rw [Nat.zero_add] at hall
      exact ⟨hall, hwritten⟩
    · rw [Stage.write_busy _ hlast hbusy] at hw
      cases hw
      exact ⟨object, .unmoved hagree hwrote (hrefused _)⟩
  · rw [Stage.write_beyond _ (Nat.lt_of_not_le hlast)] at hw
    cases hw
    exact ⟨object, .unmoved hagree hwrote (hrefused _)⟩

theorem flush_keeping (hfd : c.stage.fd = fd) (hagree : Agree K c object)
    (h : c.step .flush = (reply, c')) : ∃ object', Keeping K c object .flush reply c' object' := by
  rcases hf : c.stage.flush c.store with ⟨r, stage, store⟩
  simp only [step, hf] at h
  cases h
  have hwrote : ¬ (Reply.count r).Wrote := nofun
  rcases hagree.idle_or_busy with ⟨hdue, hidle, hk⟩ | hbusy
  · rw [Stage.flush_idle _ hidle] at hf
    obtain ⟨object', hq, _⟩ := Stage.flushNow_kept hfd hk hf
    have hidle' : stage.outstanding = 0 := (Stage.flushNow_same hf).outstanding.trans hidle
    exact ⟨object', .quiet hq (agree_of_idle hdue hidle' hq.keeps) (fun _ => trivial) hwrote .flush⟩
  · rw [Stage.flush_busy _ hbusy] at hf
    cases hf
    exact ⟨object, .unmoved hagree hwrote .flush⟩

/-! ## Requests that are handed in -/

theorem readAio_keeping {offset len : Nat} (hfd : c.stage.fd = fd) (hagree : Agree K c object)
    (h : c.step (.readAio offset len) = (reply, c')) :
    ∃ object', Keeping K c object (.readAio offset len) reply c' object' := by
  rcases hr : c.stage.readAio offset len c.store with ⟨r, stage, store⟩
  simp only [step, hr] at h
  cases h
  rcases hagree.idle_or_busy with ⟨hdue, hidle, hk⟩ | hbusy
  · cases Stage.readAio_kept hfd hk hidle hr with
    | @refused f _ _ object' hq hidle' =>
      exact ⟨object', .quiet hq (agree_of_idle hdue hidle' hq.keeps) (fun _ => trivial) nofun
        .readRefused⟩
    | @ended q _ _ object' hq hidle' hdelivered =>
      refine ⟨object', .quiet hq (agree_of_idle hdue hidle' hq.keeps)
        (unhurt_of_reply fun f hf => hf ▸ .ended) nofun (.readOver ?_)⟩
      exact fun hs bytes hb => (hdelivered hs bytes hb).received
    | @out ticket _ _ object' made hp =>
      refine ⟨object', agree_of_waits rfl hp.waits hp.keeps, fun _ => hp.placed, fun _ => hp.sound,
        nofun, ?_⟩
      rw [hp.view]
      exact .readOut
  · by_cases hlast : offset + len ≤ Offset.last
    · rw [Stage.readAio_busy _ hlast hbusy] at hr
      cases hr
      exact ⟨object, .unmoved hagree nofun .readRefused⟩
    · rw [Stage.readAio_beyond _ (Nat.lt_of_not_le hlast)] at hr
      cases hr
      exact ⟨object, .unmoved hagree nofun .readRefused⟩

theorem writeAio_keeping {offset : Nat} {data : Bytes} (hfd : c.stage.fd = fd)
    (hagree : Agree K c object) (h : c.step (.writeAio offset data) = (reply, c')) :
    ∃ object', Keeping K c object (.writeAio offset data) reply c' object' := by
  rcases hw : c.stage.writeAio offset data c.store with ⟨r, stage, store⟩
  simp only [step, hw] at h
  cases h
  rcases hagree.idle_or_busy with ⟨hdue, hidle, hk⟩ | hbusy
  · cases Stage.writeAio_kept hfd hk hidle hw with
    | @refused f _ _ object' hq hidle' =>
      exact ⟨object', .quiet hq (agree_of_idle hdue hidle' hq.keeps) (fun _ => trivial) nofun
        .writeRefused⟩
    | @ended q _ _ object' hk' hidle' hmends hlaid =>
      refine ⟨object', agree_of_idle hdue hidle' hk', hmends.placed, fun _ => hmends.sound, ?_,
        .writeOver hlaid⟩
      rintro ⟨n⟩
      exact hmends.renewed ⟨_, rfl⟩
    | @out ticket _ _ object' made hp =>
      refine ⟨object', agree_of_waits rfl hp.waits hp.keeps, fun _ => hp.placed, fun _ => hp.sound,
        nofun, ?_⟩
      rw [hp.view]
      exact .writeOut
  · by_cases hlast : offset + data.length ≤ Offset.last
    · rw [Stage.writeAio_busy _ hlast hbusy] at hw
      cases hw
      exact ⟨object, .unmoved hagree nofun .writeRefused⟩
    · rw [Stage.writeAio_beyond _ (Nat.lt_of_not_le hlast)] at hw
      cases hw
      exact ⟨object, .unmoved hagree nofun .writeRefused⟩

/-! ## Completions -/

theorem deliver_keeping (hagree : Agree K c object) (h : c.step .deliver = (reply, c')) :
    ∃ object', Keeping K c object .deliver reply c' object' := by
  rcases hdue : c.due with _ | ⟨ticket, asked⟩
  · simp only [step, hdue] at h
    cases h
    exact ⟨object, .unmoved hagree nofun (.nothing hdue)⟩
  · obtain ⟨made, hw, hk⟩ := hagree.waits hdue
    rcases ha : ObjectStore.await ticket c.store with ⟨answer, store⟩
    cases asked with
    | read offset len =>
      obtain ⟨done, rfl, hend⟩ := Stage.complete_read_kept hw hk ha
      rcases hc : c.stage.complete done with ⟨answer, stage⟩
      obtain ⟨r, rfl, hq, hidle, hdelivered⟩ := hend _ _ hc
      simp only [step, hdue, ha, hc] at h
      cases h
      refine ⟨object, .quiet hq (agree_of_idle rfl hidle hq.keeps)
        (unhurt_of_reply fun f hf => hf ▸ .done) nofun (.readDone hdue ?_)⟩
      exact fun _ bytes hb => (hdelivered bytes hb).received
    | write offset data =>
      obtain ⟨done, rfl, hend⟩ := Stage.complete_write_kept hw hk ha
      rcases hc : c.stage.complete done with ⟨answer, stage⟩
      obtain ⟨object', q, hk', hsound, hidle, rfl, hlaid⟩ := hend _ _ hc
      simp only [step, hdue, ha, hc] at h
      cases h
      exact ⟨object', agree_of_idle rfl hidle hk', fun _ => hsound.toPlaced, fun _ _ => hsound,
        fun _ => hsound, .writeDone hdue hlaid⟩

/-- A delivery leaves the stage, or it ends the request that is out. -/
theorem deliver_stage (hagree : Agree K c object) (h : c.step .deliver = (reply, c')) :
    c'.stage = c.stage ∨ ∃ request done answer, c.stage.inflight.requests = [request] ∧
      c.stage.complete done = (answer, c'.stage) := by
  rcases hdue : c.due with _ | ⟨ticket, asked⟩
  · simp only [step, hdue] at h
    cases h
    exact Or.inl rfl
  · obtain ⟨made, hw, _⟩ := hagree.waits hdue
    obtain ⟨request, hreq⟩ := hw.requests
    rcases ha : ObjectStore.await ticket c.store with ⟨_ | done, store⟩
    · simp only [step, hdue, ha] at h
      cases h
      exact Or.inl rfl
    · rcases hc : c.stage.complete done with ⟨answer, stage⟩
      simp only [step, hdue, ha, hc] at h
      cases h
      exact Or.inr ⟨request, done, answer, hreq, hc⟩

/-! ## Steps and runs -/

theorem step_keeping {act : Act} (hfd : c.stage.fd = fd) (hagree : Agree K c object)
    (h : c.step act = (reply, c')) : ∃ object', Keeping K c object act reply c' object' := by
  cases act with
  | read offset len => exact read_keeping hfd hagree h
  | write offset data => exact write_keeping hfd hagree h
  | flush => exact flush_keeping hfd hagree h
  | readAio offset len => exact readAio_keeping hfd hagree h
  | writeAio offset data => exact writeAio_keeping hfd hagree h
  | deliver => exact deliver_keeping hagree h

/-- Every step leaves the descriptor and the capacity. -/
theorem step_adapter {act : Act} (hagree : Agree K c object) (h : c.step act = (reply, c')) :
    c.stage.adapter.Same c'.stage.adapter := by
  cases act with
  | read offset len =>
    rcases hr : c.stage.read offset len c.store with ⟨r, stage, store⟩
    simp only [step, hr] at h
    cases h
    exact (Stage.read_same hr).adapter
  | write offset data =>
    rcases hw : c.stage.write offset data c.store with ⟨r, stage, store⟩
    simp only [step, hw] at h
    cases h
    exact (Stage.write_same hw).adapter
  | flush =>
    rcases hf : c.stage.flush c.store with ⟨r, stage, store⟩
    simp only [step, hf] at h
    cases h
    exact (Stage.flush_same hf).adapter
  | readAio offset len =>
    rcases hr : c.stage.readAio offset len c.store with ⟨r, stage, store⟩
    simp only [step, hr] at h
    cases h
    exact Stage.readAio_adapter hr
  | writeAio offset data =>
    rcases hw : c.stage.writeAio offset data c.store with ⟨r, stage, store⟩
    simp only [step, hw] at h
    cases h
    exact Stage.writeAio_adapter hw
  | deliver =>
    rcases deliver_stage hagree h with hsame | ⟨request, done, answer, hreq, hc⟩
    · rw [hsame]
      exact .refl _
    · exact Stage.complete_adapter hreq hc

/-- An act without data to write stages nothing. -/
theorem step_clean {act : Act} (hagree : Agree K c object) (ha : act.writes = false)
    (hd : c.stage.dirty = false) (h : c.step act = (reply, c')) : c'.stage.dirty = false := by
  cases act with
  | read offset len =>
    rcases hr : c.stage.read offset len c.store with ⟨r, stage, store⟩
    simp only [step, hr] at h
    cases h
    exact Stage.read_clean hd hr
  | flush =>
    rcases hf : c.stage.flush c.store with ⟨r, stage, store⟩
    simp only [step, hf] at h
    cases h
    exact Stage.flush_clean hd hf
  | readAio offset len =>
    rcases hr : c.stage.readAio offset len c.store with ⟨r, stage, store⟩
    simp only [step, hr] at h
    cases h
    exact Stage.readAio_clean hd hr
  | deliver =>
    rcases deliver_stage hagree h with hsame | ⟨request, done, answer, hreq, hc⟩
    · rw [hsame]
      exact hd
    · exact (Stage.complete_dirty hreq hc).trans hd
  | write _ _ => cases ha
  | writeAio _ _ => cases ha

/-- What is held stays held. -/
theorem Held.step {act : Act} (h : Held K c object) (hstep : c.step act = (reply, c')) :
    ∃ object', Held K c' object' ∧ Keeping K c object act reply c' object' := by
  obtain ⟨object', hkeeping⟩ := step_keeping h.fd_eq h.agree hstep
  have hfd : c'.stage.fd = fd := (step_adapter h.agree hstep).fd.trans h.fd_eq
  exact ⟨object', ⟨hfd, hkeeping.placed h.placed, hkeeping.agree⟩, hkeeping⟩

/-- A step from a good client leads to a good client, and does to the file what it says. -/
theorem Good.step {act : Act} (h : Good K c object) (hstep : c.step act = (reply, c')) :
    ∃ object', Good K c' object' ∧
      Seen (c.stage.view object) c.due act reply (c'.stage.view object') := by
  obtain ⟨object', hheld, hkeeping⟩ := h.toHeld.step hstep
  have hsound : c'.stage.Sound object' := hkeeping.sound (.inl h.untorn) h.sound
  have huntorn : c'.stage.adapter.Untorn K := (step_adapter h.agree hstep).untorn h.untorn
  exact ⟨object', ⟨hheld, hsound, huntorn⟩, hkeeping.seen.mono fun _ => h.sound⟩

/-- A run from a good client ends in a good client with the same capacity. -/
theorem Good.run (h : Good K c object) (acts : List Act) :
    ∃ object', Good K (c.run acts) object' ∧ (c.run acts).stage.capacity = c.stage.capacity := by
  induction acts using List.reverseRecOn with
  | nil => exact ⟨object, h, rfl⟩
  | append_singleton acts act ih =>
    obtain ⟨object1, hgood, hcap⟩ := ih
    rw [run_append_singleton]
    rcases hstep : (c.run acts).step act with ⟨reply, c'⟩
    obtain ⟨object', hgood', _⟩ := hgood.step hstep
    exact ⟨object', hgood', (step_adapter hgood.agree hstep).capacity.trans hcap⟩

/-- A stage that was just built over a store that keeps its object. Its image is not valid. -/
theorem held_of_build {settings : Settings} {stage : Stage} {store : σ}
    (hbuild : Stage.build settings fd = .ok stage) (hk : K.Keeps store object none) :
    Held K { stage, store } object ∧ stage.Sound object ∧
      stage.capacity = settings.bufferSize := by
  obtain ⟨hpos, rfl⟩ := Stage.build_eq_ok_iff.mp hbuild
  exact ⟨⟨rfl, Stage.placed_of_clean rfl, agree_of_idle rfl rfl hk⟩,
    Stage.sound_of_invalid rfl rfl, rfl⟩

/-- Where no fill tears the image it makes a good client. -/
theorem good_of_build {settings : Settings} {stage : Stage} {store : σ}
    (hbuild : Stage.build settings fd = .ok stage) (hk : K.Keeps store object none)
    (huntorn : stage.adapter.Untorn K) :
    Good K { stage, store } object ∧ stage.capacity = settings.bufferSize := by
  obtain ⟨hheld, hsound, hcap⟩ := held_of_build hbuild hk
  exact ⟨⟨hheld, hsound, huntorn⟩, hcap⟩

end Client

end StagedFiles
