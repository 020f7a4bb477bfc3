-- The two kinds of adapters in exchange. In a store in memory a transfer does
-- the same whether it is made or handed in, faults and limits included. So two
-- callers who ask the same, one of each kind, hear the same: each request that is
-- out is over before the next one is asked.
import StagedFiles.Proofs.Client
import StagedFiles.Proofs.MemoryKeeper
import StagedFiles.Proofs.MemoryShelf
import StagedFiles.Proofs.StageTwins

namespace StagedFiles

/-! ## Stores in memory -/

/-- What a write was, whichever way it came. -/
def WriteRecord.place (r : WriteRecord) : Fd × Nat × Nat := (r.fd, r.offset, r.len)

namespace MemoryStore

/-- Two stores that hold the same, will fail the same and logged the same writes.
The descriptor is open in them, nothing is parked for it, and no hand-in is told
to fail. -/
structure Abreast (fd : Fd) (st st' : MemoryStore) : Prop where
  objects : st'.objects = st.objects
  names : st'.names = st.names
  handles : st'.handles = st.handles
  faults : st'.faults = st.faults
  written : st'.written.map WriteRecord.place = st.written.map WriteRecord.place
  isOpen : st.handles.contains fd = true
  submits : st.faults.submits.remaining = 0
  parked : st'.parked = []
  finished : st'.finished = []

variable {fd : Fd} {st st' : MemoryStore}

/-- A store is abreast of itself. -/
theorem abreast_self (hopen : st.handles.contains fd = true)
    (hsubmits : st.faults.submits.remaining = 0) (hparked : st.parked = [])
    (hfinished : st.finished = []) : Abreast fd st st :=
  ⟨rfl, rfl, rfl, rfl, rfl, hopen, hsubmits, hparked, hfinished⟩

theorem Abreast.count (h : Abreast fd st st') (f g : CallCounts → CallCounts) :
    Abreast fd (st.count f) (st'.count g) :=
  ⟨h.objects, h.names, h.handles, h.faults, h.written, h.isOpen, h.submits, h.parked, h.finished⟩

theorem Abreast.content (h : Abreast fd st st') (o : ObjectId) : st'.content o = st.content o := by
  unfold MemoryStore.content
  rw [h.objects]

/-- Both use up the same fault. -/
theorem Abreast.withFaults (h : Abreast fd st st') (faults : Faults)
    (hsubmits : faults.submits.remaining = 0) :
    Abreast fd { st with faults } { st' with faults } :=
  ⟨h.objects, h.names, h.handles, rfl, h.written, h.isOpen, hsubmits, h.parked, h.finished⟩

/-- A transfer that is parked may run. -/
theorem Abreast.park (h : Abreast fd st st') (job : Job) :
    Abreast fd st { (st'.park job).2 with parked := [] } :=
  ⟨h.objects, h.names, h.handles, h.faults, h.written, h.isOpen, h.submits, rfl, h.finished⟩

theorem Abreast.find? (h : Abreast fd st st') : st'.handles.find? fd = st.handles.find? fd := by
  rw [h.handles]

theorem Abreast.checkSubmit (h : Abreast fd st st') : st'.checkSubmit fd = (.ok (), st') :=
  checkSubmit_open (h.faults ▸ h.submits) (h.handles ▸ h.isOpen)

/-- A read of both comes out the same and uses up the same fault. -/
theorem Abreast.performRead (h : Abreast fd st st') (offset len : Nat) :
    ∃ r st1 st1', st.performRead fd offset len = (r, st1) ∧
      st'.performRead fd offset len = (r, st1') ∧
      (∀ bytes, r = .ok bytes → bytes.length ≤ len) ∧ Abreast fd st1 st1' := by
  unfold MemoryStore.performRead
  rw [h.faults, h.find?]
  rcases htake : st.faults.reads.take with ⟨_ | errno, fault⟩
  · rcases st.handles.find? fd with _ | handle
    · exact ⟨_, _, _, rfl, rfl, by simp, h⟩
    · dsimp only
      by_cases hread : handle.access.read = true
      · rw [if_pos hread, if_pos hread, h.content]
        refine ⟨_, _, _, rfl, rfl, ?_, h⟩
        intro bytes hbytes
        cases hbytes
        rw [SparseBytes.slice_eq, Bytes.length_slice]
        exact Nat.min_le_left ..
      · rw [if_neg hread, if_neg hread]
        exact ⟨_, _, _, rfl, rfl, by simp, h⟩
  · exact ⟨_, _, _, rfl, rfl, by simp, h.withFaults (st.faults.arm .reads fault) h.submits⟩

/-- So does a write. The log tells only how it came. -/
theorem Abreast.performWrite (h : Abreast fd st st') (offset : Nat) (data : Bytes)
    (aio aio' : Bool) :
    ∃ r st1 st1', st.performWrite fd offset data aio = (r, st1) ∧
      st'.performWrite fd offset data aio' = (r, st1') ∧ Abreast fd st1 st1' := by
  unfold MemoryStore.performWrite
  rw [h.faults, h.find?]
  rcases htake : st.faults.writes.take with ⟨_ | errno, fault⟩
  · rcases st.handles.find? fd with _ | handle
    · exact ⟨_, _, _, rfl, rfl, h⟩
    · dsimp only
      by_cases hwrite : handle.access.write = true
      · rw [if_pos hwrite, if_pos hwrite, h.content]
        refine ⟨_, _, _, rfl, rfl, ?_, h.names, h.handles, h.faults, ?_, h.isOpen, h.submits,
          h.parked, h.finished⟩
        · show st'.objects.insert _ _ = st.objects.insert _ _
          rw [h.objects]
        · show (fd, offset, data.length) :: st'.written.map WriteRecord.place =
            (fd, offset, data.length) :: st.written.map WriteRecord.place
          rw [h.written]
      · rw [if_neg hwrite, if_neg hwrite]
        exact ⟨_, _, _, rfl, rfl, h⟩
  · exact ⟨_, _, _, rfl, rfl, h.withFaults (st.faults.arm .writes fault) h.submits⟩

/-- A transfer that is made does what one does that is handed in and waited for. -/
def echo (fd : Fd) : Echo MemoryStore MemoryStore fd where
  Abreast := Abreast fd
  read := by
    intro st st' offset len h
    let counted := st'.count fun c => { c with aioReads := c.aioReads + 1 }
    have hcounted : Abreast fd (st.count fun c => { c with preads := c.preads + 1 }) counted :=
      h.count _ _
    obtain ⟨r, st1, st1', hr, hr', hlen, hafter⟩ :=
      (hcounted.park (.read fd offset len)).performRead offset len
    refine ⟨r, counted.nextTicket, st1, (counted.park (.read fd offset len)).2, st1', ?_, ?_, ?_,
      hlen, hafter⟩
    · show MemoryStore.readAt fd offset len st = _
      unfold MemoryStore.readAt
      dsimp only
      rw [hr]
      cases r with
      | error f => rfl
      | ok bytes => rfl
    · show MemoryStore.submitRead fd offset len st' = _
      unfold MemoryStore.submitRead
      rw [h.checkSubmit]
      rfl
    · show MemoryStore.await counted.nextTicket (counted.park (.read fd offset len)).2 = _
      rw [await_park hcounted.parked hcounted.finished]
      unfold perform
      dsimp only
      rw [hr']
  write := by
    intro st st' offset data h
    let counted := st'.count fun c => { c with aioWrites := c.aioWrites + 1 }
    have hcounted : Abreast fd (st.count fun c => { c with pwrites := c.pwrites + 1 }) counted :=
      h.count _ _
    obtain ⟨r, st1, st1', hw, hw', hafter⟩ :=
      (hcounted.park (.write fd offset data)).performWrite offset data false true
    refine ⟨r, counted.nextTicket, st1, (counted.park (.write fd offset data)).2, st1', hw, ?_, ?_,
      hafter⟩
    · show MemoryStore.submitWrite fd offset data st' = _
      unfold MemoryStore.submitWrite
      rw [h.checkSubmit]
      rfl
    · show MemoryStore.await counted.nextTicket (counted.park (.write fd offset data)).2 = _
      rw [await_park hcounted.parked hcounted.finished]
      unfold perform
      dsimp only
      rw [hw']

end MemoryStore

/-! ## Behind limits -/

/-- Limits that ask for no more than they are asked for keep the echo. -/
def Echo.throttled {σ τ : Type} [ObjectStore σ] [ObjectStore τ] {fd : Fd} (E : Echo σ τ fd) :
    Echo (Throttled σ) (Throttled τ) fd where
  Abreast t t' := t'.limits = t.limits ∧ t.limits.extraRead = 0 ∧ E.Abreast t.inner t'.inner
  read := by
    rintro t t' offset len ⟨hlimits, hextra, h⟩
    let wanted := Limits.capped t.limits.maxRead len
    obtain ⟨r, ticket, st1, out, st1', hread, hsubmit, hwait, hlen, hafter⟩ := E.read offset wanted h
    refine ⟨r, ticket, { t with inner := st1 }, { t' with inner := out }, { t' with inner := st1' },
      ?_, ?_, ?_, ?_, hlimits, hextra, hafter⟩
    · show t.pass (ObjectStore.readAt fd offset wanted) = _
      unfold Throttled.pass
      rw [hread]
    · have hsame : Limits.capped t'.limits.maxRead len + t'.limits.extraRead = wanted := by
        rw [hlimits, hextra]
        rfl
      show t'.pass (ObjectStore.submitRead fd offset
        (Limits.capped t'.limits.maxRead len + t'.limits.extraRead)) = _
      unfold Throttled.pass
      rw [hsame, hsubmit]
    · show Throttled.pass (ObjectStore.await ticket) _ = _
      unfold Throttled.pass
      rw [hwait]
    · intro bytes hbytes
      exact Nat.le_trans (hlen bytes hbytes) (Limits.capped_le ..)
  write := by
    rintro t t' offset data ⟨hlimits, hextra, h⟩
    let front := data.take (Limits.capped t.limits.maxWrite data.length)
    obtain ⟨r, ticket, st1, out, st1', hwrite, hsubmit, hwait, hafter⟩ := E.write offset front h
    refine ⟨r, ticket, { t with inner := st1 }, { t' with inner := out }, { t' with inner := st1' },
      ?_, ?_, ?_, hlimits, hextra, hafter⟩
    · show t.pass (ObjectStore.writeAt fd offset front) = _
      unfold Throttled.pass
      rw [hwrite]
    · show t'.pass (ObjectStore.submitWrite fd offset
        (data.take (Limits.capped t'.limits.maxWrite data.length))) = _
      unfold Throttled.pass
      rw [hlimits, hsubmit]
    · show Throttled.pass (ObjectStore.await ticket) _ = _
      unfold Throttled.pass
      rw [hwait]

/-! ## Callers who wait for each request -/

namespace Client

section Prompt

variable {σ τ : Type} [ObjectStore σ] [ObjectStore τ] {fd : Fd}

/-- An act, and the end of the request that it starts. -/
def prompt (c : Client σ) (act : Act) : Reply × Client σ :=
  match c.step act with
  | (.started (.ok (.submitted _)), c) => c.step .deliver
  | (.started (.ok (.finished done)), c) => (.completed done, c)
  | answered => answered

/-- Two callers who have come to the same, with nothing out. -/
structure Paired (E : Echo σ τ fd) (c : Client σ) (c' : Client τ) : Prop where
  stage : c.stage.Twins fd c'.stage
  store : E.Abreast c.store c'.store
  due : c.due = none
  due' : c'.due = none

variable {E : Echo σ τ fd} {c : Client σ} {c' : Client τ}

/-- Both hear the same and are paired again. -/
def Agrees (E : Echo σ τ fd) (x : Reply × Client σ) (x' : Reply × Client τ) : Prop :=
  x'.1 = x.1 ∧ Paired E x.2 x'.2

/-- A request comes to the same, whether it was over at once or was out. -/
theorem Paired.request {act : Act} (asked : Errand)
    {x : Except Failure (Started Completion) × Stage × σ}
    {x' : Except Failure (Started Completion) × Stage × τ} (hecho : Stage.Echoed E x x')
    (hstep : c.step act = (.started x.1, ⟨x.2.1, x.2.2, dueAfter none asked x.1⟩))
    (hstep' : c'.step act = (.started x'.1, ⟨x'.2.1, x'.2.2, dueAfter none asked x'.1⟩)) :
    Agrees E (c.prompt act) (c'.prompt act) := by
  unfold prompt
  rw [hstep, hstep']
  cases hecho with
  | refused ht hs => exact ⟨rfl, ht, hs, rfl, rfl⟩
  | finished ht hs => exact ⟨rfl, ht, hs, rfl, rfl⟩
  | echoed hwait hcomplete ht hs =>
    simp only [step, dueAfter, hwait, hcomplete]
    exact ⟨rfl, ht, hs, rfl, rfl⟩

/-- Every act does the same to both. -/
theorem Paired.prompt (h : Paired E c c') (act : Act) : Agrees E (c.prompt act) (c'.prompt act) := by
  cases act with
  | read offset len =>
    obtain ⟨r, s, st, s', st', hr, hr', ht, hs⟩ := Stage.read_as_one E h.stage h.store offset len
    simp only [Client.prompt, step, hr, hr']
    exact ⟨rfl, ht, hs, h.due, h.due'⟩
  | write offset data =>
    obtain ⟨r, s, st, s', st', hw, hw', ht, hs⟩ := Stage.write_as_one E h.stage h.store offset data
    simp only [Client.prompt, step, hw, hw']
    exact ⟨rfl, ht, hs, h.due, h.due'⟩
  | flush =>
    obtain ⟨r, s, st, s', st', hf, hf', ht, hs⟩ := Stage.flush_as_one E h.stage h.store
    simp only [Client.prompt, step, hf, hf']
    exact ⟨rfl, ht, hs, h.due, h.due'⟩
  | readAio offset len =>
    refine Paired.request (.read offset len)
      (Stage.readAio_echoed E h.stage h.store offset len) ?_ ?_
    · rw [← h.due]
      rfl
    · rw [← h.due']
      rfl
  | writeAio offset data =>
    refine Paired.request (.write offset data)
      (Stage.writeAio_echoed E h.stage h.store offset data) ?_ ?_
    · rw [← h.due]
      rfl
    · rw [← h.due']
      rfl
  | deliver =>
    simp only [Client.prompt, step, h.due, h.due']
    exact ⟨rfl, h⟩

end Prompt

/-! ## A store that is troubled between the acts -/

/-- What a caller does, or what befalls the store between two acts. -/
inductive Turn where
  | ask (act : Act)
  | failReads (n : Nat) (errno : Int)
  | failWrites (n : Nat) (errno : Int)
  /-- From now on a transfer passes at most so many bytes. -/
  | cap (maxRead maxWrite : Option Nat)

/-- The store with other faults. -/
def withFaults (c : Client (Throttled MemoryStore)) (point : FaultPoint) (n : Nat) (errno : Int) :
    Client (Throttled MemoryStore) :=
  { c with store := { c.store with inner := c.store.inner.failNext point n errno } }

def turn (c : Client (Throttled MemoryStore)) : Turn → Reply × Client (Throttled MemoryStore)
  | .ask act => c.prompt act
  | .failReads n errno => (.nothing, c.withFaults .reads n errno)
  | .failWrites n errno => (.nothing, c.withFaults .writes n errno)
  | .cap maxRead maxWrite =>
    (.nothing,
      { c with store := { c.store with limits := { c.store.limits with maxRead, maxWrite } } })

/-- All the turns in order, and what is heard at each of them. -/
def turns (c : Client (Throttled MemoryStore)) :
    List Turn → List Reply × Client (Throttled MemoryStore)
  | [] => ([], c)
  | turn :: rest =>
    let (reply, c) := c.turn turn
    let (replies, c) := c.turns rest
    (reply :: replies, c)

variable {fd : Fd} {c c' : Client (Throttled MemoryStore)}

/-- Every turn does the same to both. -/
theorem Paired.turn (h : Paired (MemoryStore.echo fd).throttled c c') (turn : Turn) :
    Agrees (MemoryStore.echo fd).throttled (c.turn turn) (c'.turn turn) := by
  obtain ⟨hlimits, hextra, hinner⟩ := h.store
  have hfaults : c'.store.inner.faults = c.store.inner.faults := hinner.faults
  cases turn with
  | ask act => exact h.prompt act
  | failReads n errno =>
    refine ⟨rfl, h.stage, ⟨hlimits, hextra, ?_⟩, h.due, h.due'⟩
    show MemoryStore.Abreast fd (c.store.inner.failNext .reads n errno)
      (c'.store.inner.failNext .reads n errno)
    unfold MemoryStore.failNext
    rw [hfaults]
    exact MemoryStore.Abreast.withFaults hinner _ hinner.submits
  | failWrites n errno =>
    refine ⟨rfl, h.stage, ⟨hlimits, hextra, ?_⟩, h.due, h.due'⟩
    show MemoryStore.Abreast fd (c.store.inner.failNext .writes n errno)
      (c'.store.inner.failNext .writes n errno)
    unfold MemoryStore.failNext
    rw [hfaults]
    exact MemoryStore.Abreast.withFaults hinner _ hinner.submits
  | cap maxRead maxWrite =>
    refine ⟨rfl, h.stage, ⟨?_, hextra, hinner⟩, h.due, h.due'⟩
    show { c'.store.limits with maxRead, maxWrite } = { c.store.limits with maxRead, maxWrite }
    rw [hlimits]

theorem Paired.turns (h : Paired (MemoryStore.echo fd).throttled c c') (list : List Turn) :
    (c'.turns list).1 = (c.turns list).1 ∧
      Paired (MemoryStore.echo fd).throttled (c.turns list).2 (c'.turns list).2 := by
  induction list generalizing c c' with
  | nil => exact ⟨rfl, h⟩
  | cons turn rest ih =>
    obtain ⟨hreply, hnext⟩ := h.turn turn
    obtain ⟨hreplies, hlast⟩ := ih hnext
    exact ⟨List.cons_eq_cons.mpr ⟨hreply, hreplies⟩, hlast⟩

/-! ## The exchange -/

/-- Nothing that a caller, or one who looks at buffer, counters and store, can
see tells the two apart. -/
structure SameSight (c c' : Client (Throttled MemoryStore)) : Prop where
  raw : c'.stage.buffer.raw = c.stage.buffer.raw
  len : c'.stage.buffer.len = c.stage.buffer.len
  start : c'.stage.buffer.start = c.stage.buffer.start
  valid : c'.stage.buffer.valid = c.stage.buffer.valid
  dirty : c'.stage.dirty = c.stage.dirty
  outstanding : c'.stage.outstanding = c.stage.outstanding
  stats : c'.stage.stats = c.stage.stats
  traffic : c'.stage.adapter.traffic = c.stage.adapter.traffic
  content : ∀ o, (c'.store.inner.content o).toBytes = (c.store.inner.content o).toBytes
  object : ∀ path, c'.store.inner.object? path = c.store.inner.object? path
  /-- Up to the note whether a write was handed in. -/
  log : c'.store.inner.log.map WriteRecord.place = c.store.inner.log.map WriteRecord.place

theorem Paired.sameSight (h : Paired (MemoryStore.echo fd).throttled c c') : SameSight c c' := by
  obtain ⟨-, -, hinner⟩ := h.store
  have hb := h.stage.buffer
  refine ⟨hb.raw, hb.len, hb.start, hb.valid, h.stage.dirty, h.stage.outstanding, h.stage.stats,
    h.stage.adapter.traffic, ?_, ?_, ?_⟩
  · intro o
    rw [MemoryStore.Abreast.content hinner]
  · intro path
    unfold MemoryStore.object?
    rw [MemoryStore.Abreast.names hinner]
    congr 1
    funext o
    rw [MemoryStore.Abreast.content hinner]
  · unfold MemoryStore.log
    rw [List.map_reverse, List.map_reverse, MemoryStore.Abreast.written hinner]

/-- Two new stages of the same size, one of each kind. -/
theorem paired_of_build {settings settings' : Settings} {stage stage' : Stage}
    {store store' : Throttled MemoryStore} (hsize : settings'.bufferSize = settings.bufferSize)
    (hsync : settings.adapter = .sync) (hasync : settings'.adapter = .async)
    (hbuild : Stage.build settings fd = .ok stage) (hbuild' : Stage.build settings' fd = .ok stage')
    (hlimits : store'.limits = store.limits) (hextra : store.limits.extraRead = 0)
    (hstores : MemoryStore.Abreast fd store.inner store'.inner) :
    Paired (MemoryStore.echo fd).throttled { stage, store } { stage := stage', store := store' } := by
  obtain ⟨hpos, rfl⟩ := Stage.build_eq_ok_iff.mp hbuild
  obtain ⟨hpos', rfl⟩ := Stage.build_eq_ok_iff.mp hbuild'
  simp only [hsize, hsync, hasync]
  exact ⟨⟨⟨rfl, rfl, rfl, rfl, .refl _, rfl⟩, rfl, rfl, rfl⟩, ⟨hlimits, hextra, hstores⟩, rfl, rfl⟩

/-- Over stores that hold the same, a stage whose adapter blocks and one whose
adapter hands in cannot be told apart: after any acts, with any reads and
writes told to fail and under any caps, all answers and completions are the
same, and so are the buffers, the counters, the objects and the logs. -/
theorem the_adapters_are_interchangeable {settings settings' : Settings} {stage stage' : Stage}
    {store store' : Throttled MemoryStore} (hsize : settings'.bufferSize = settings.bufferSize)
    (hsync : settings.adapter = .sync) (hasync : settings'.adapter = .async)
    (hbuild : Stage.build settings fd = .ok stage) (hbuild' : Stage.build settings' fd = .ok stage')
    (hlimits : store'.limits = store.limits) (hextra : store.limits.extraRead = 0)
    (hstores : MemoryStore.Abreast fd store.inner store'.inner) (list : List Turn) :
    (turns { stage := stage', store := store' } list).1 = (turns { stage, store } list).1 ∧
      SameSight (turns { stage, store } list).2
        (turns { stage := stage', store := store' } list).2 := by
  have hpaired := paired_of_build hsize hsync hasync hbuild hbuild' hlimits hextra hstores
  obtain ⟨hreplies, hlast⟩ := hpaired.turns list
  exact ⟨hreplies, hlast.sameSight⟩

/-! ### Over a store with one object -/

/-- A stage with four bytes of buffer over the first descriptor. -/
def fourBytes (kind : AdapterKind) : Stage :=
  { Stage.small with adapter := { Stage.small.adapter with kind } }

theorem fourBytes_built (kind : AdapterKind) :
    Stage.build { bufferSize := 4, adapter := kind } .first = .ok (fourBytes kind) := rfl

/-- A store with five bytes, three of which a read passes on. -/
def capped (delivery : Delivery) : Throttled MemoryStore :=
  { inner := .single delivery .readWrite [1, 2, 3, 4, 5], limits := { maxRead := some 3 } }

/-- Reads and writes through a write that fails and under a second cap. -/
def troubledTurns : List Turn :=
  [.ask (.readAio 0 4), .ask (.write 3 [9, 8]), .failWrites 1 5, .ask .flush, .ask (.read 0 5),
    .cap none (some 1), .ask (.writeAio 1 [7, 7]), .ask (.readAio 0 9)]

theorem the_adapters_are_interchangeable_on_a_capped_store :
    Stage.build { bufferSize := 4, adapter := .sync } .first = .ok (fourBytes .sync) ∧
      Stage.build { bufferSize := 4, adapter := .async } .first = .ok (fourBytes .async) ∧
      MemoryStore.Abreast .first (capped .threaded).inner (capped .threaded).inner ∧
      (turns { stage := fourBytes .async, store := capped .threaded } troubledTurns).1 =
        (turns { stage := fourBytes .sync, store := capped .threaded } troubledTurns).1 ∧
      SameSight (turns { stage := fourBytes .sync, store := capped .threaded } troubledTurns).2
        (turns { stage := fourBytes .async, store := capped .threaded } troubledTurns).2 :=
  have hsize : ({ bufferSize := 4, adapter := .async } : Settings).bufferSize =
      ({ bufferSize := 4, adapter := .sync } : Settings).bufferSize := rfl
  ⟨fourBytes_built .sync, fourBytes_built .async, MemoryStore.abreast_self rfl rfl rfl rfl,
    the_adapters_are_interchangeable hsize rfl rfl (fourBytes_built .sync) (fourBytes_built .async)
      rfl rfl (MemoryStore.abreast_self rfl rfl rfl rfl) troubledTurns⟩

end Client

end StagedFiles
