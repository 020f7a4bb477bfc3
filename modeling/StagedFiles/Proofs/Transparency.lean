-- A buffered file beside a direct one. Each is opened, read, written and closed
-- by the same calls on a store of its own, and no answer tells them apart; after
-- each close their stores hold the same. The one thing that does tell them apart
-- is a write of nothing past the end: the direct file hands it to its store,
-- which grows the object up to it, and the buffered one has nothing to stage.
import StagedFiles.Front
import StagedFiles.Proofs.FlatStage
import StagedFiles.Proofs.MemoryShelf

namespace StagedFiles

/-! ## A write of nothing -/

/-- Inside a run there is no difference between laying nothing over it and
leaving it. -/
theorem Bytes.overlay_eq_written {b d : Bytes} {i : Nat} (h : d = [] → i ≤ b.length) :
    overlay b i d = written b i d := by
  by_cases hd : d = []
  · subst hd
    rw [written_nil]
    have hpad : i - (b.take i).length = 0 := by
      have := h rfl
      rw [List.length_take]
      omega
    show (b.take i ++ List.replicate (i - (b.take i).length) 0) ++ b.drop i = b
    rw [hpad, List.replicate_zero, List.append_nil, List.take_append_drop]
  · exact (written_of_ne_nil b i hd).symm

/-! ## A file and its caller -/

/-- A call on a file. Every open asks to read and to write. -/
inductive FileCall where
  | openPath (path : String) (create truncate : Bool)
  | read (offset len : Nat)
  | write (offset : Nat) (data : Bytes)
  | close
  deriving DecidableEq, Repr

/-- What a call answers. -/
inductive FileReply where
  | opened (result : Except Failure Fd)
  | bytes (result : Except Failure Bytes)
  | count (result : Except Failure Nat)
  | closed (result : Except Failure Unit)
  deriving DecidableEq

/-- A file over a store of its own. -/
structure FileUser (σ : Type) where
  file : ObjectFile
  store : σ

namespace FileUser

section Calls

variable {σ : Type} [ObjectStore σ]

def step (u : FileUser σ) : FileCall → FileReply × FileUser σ
  | .openPath path create truncate =>
    let (r, file, store) := u.file.openPath path ⟨true, true, create, truncate⟩ u.store
    (.opened r, { file, store })
  | .read offset len =>
    let (r, file, store) := u.file.read offset len u.store
    (.bytes r, { file, store })
  | .write offset data =>
    let (r, file, store) := u.file.write offset data u.store
    (.count r, { file, store })
  | .close =>
    let (r, file, store) := u.file.close u.store
    (.closed r, { file, store })

/-- All the calls in order, and what each of them answers. -/
def run (u : FileUser σ) : List FileCall → List FileReply × FileUser σ
  | [] => ([], u)
  | call :: calls =>
    let (reply, u) := u.step call
    let (replies, u) := u.run calls
    (reply :: replies, u)

/-- A write of nothing, at an offset, stays inside the object that is open. -/
def Inside (u : FileUser σ) : FileCall → Prop
  | .write offset [] =>
    offset ≤ Offset.last → ∀ size ∈ (u.file.stat u.store).1.toOption, offset ≤ size
  | _ => True

/-- Each call of a run stays inside. -/
def StaysInside (u : FileUser σ) : List FileCall → Prop
  | [] => True
  | call :: calls => u.Inside call ∧ (u.step call).2.StaysInside calls

theorem run_append (u : FileUser σ) (calls more : List FileCall) :
    (u.run (calls ++ more)).2 = ((u.run calls).2.run more).2 := by
  induction calls generalizing u with
  | nil => rfl
  | cons call calls ih => exact ih (u.step call).2

end Calls

/-! ## A direct file -/

section Twins

open MemoryStore (Shelf OpenAt shelfFile)

variable {objects : String → Option Bytes} {next fd : Fd} {path : String} {b : Bytes}
  {u v : FileUser MemoryStore}

/-- What an open that reads and writes asks for. -/
def asked (create truncate : Bool) : Access := ⟨true, true, create, truncate⟩

/-- What a transfer answers when its range ends at an offset. -/
def inRange {α : Type} (offset len : Nat) (answer : α) : Except Failure α :=
  (Offset.rangeEnd offset len).map fun _ => answer

/-- What a closed file answers to a call that needs it open. -/
def refusal : FileCall → Option FileReply
  | .openPath .. => none
  | .read .. => some (.bytes (.error .notOpen))
  | .write .. => some (.count (.error .notOpen))
  | .close => some (.closed (.error .notOpen))

/-- A direct file that is closed. -/
inductive BareShut (objects : String → Option Bytes) (next : Fd) : FileUser MemoryStore → Prop where
  | mk {raw : RawFile} {st : MemoryStore} : raw.fd = none → Shelf objects next st →
      BareShut objects next ⟨.raw raw, st⟩

/-- A direct file that is open on an object with these bytes. -/
inductive BareOpen (objects : String → Option Bytes) (next : Fd) (path : String) (fd : Fd)
    (b : Bytes) : FileUser MemoryStore → Prop where
  | mk {raw : RawFile} {st : MemoryStore} {access : Access} : raw.fd = some fd →
      access.read = true → access.write = true → OpenAt objects next path fd access st b →
      BareOpen objects next path fd b ⟨.raw raw, st⟩

theorem BareShut.refused (h : BareShut objects next u) {call : FileCall} {reply : FileReply}
    (hcall : refusal call = some reply) : u.step call = (reply, u) := by
  obtain ⟨hraw, -⟩ := h
  cases call with
  | openPath path create truncate => cases hcall
  | read offset len =>
    cases hcall
    simp only [step, ObjectFile.read, RawFile.read, RawFile.checked, RawFile.requireFd, hraw]
  | write offset data =>
    cases hcall
    simp only [step, ObjectFile.write, RawFile.write, RawFile.checked, RawFile.requireFd, hraw]
  | close =>
    cases hcall
    simp only [step, ObjectFile.close, RawFile.close, hraw]

theorem BareShut.open_missing (h : BareShut objects next u) {create truncate : Bool}
    (hleft : MemoryStore.left (asked create truncate) (objects path) = none) :
    ∃ u', u.step (.openPath path create truncate) = (.opened (.error (.notFound path)), u') ∧
      BareShut objects next u' := by
  obtain ⟨hraw, hshelf⟩ := h
  rename_i raw st
  obtain ⟨st', ho, hshelf'⟩ := hshelf.open_missing hleft
  replace ho : ObjectStore.openPath path (asked create truncate) st = _ := ho
  unfold asked at ho
  refine ⟨⟨.raw raw, st'⟩, ?_, .mk hraw hshelf'⟩
  simp only [step, ObjectFile.openPath, RawFile.openPath, hraw, ho]

theorem BareShut.open_present (h : BareShut objects next u) {create truncate : Bool}
    (hleft : MemoryStore.left (asked create truncate) (objects path) = some b) :
    ∃ u', u.step (.openPath path create truncate) = (.opened (.ok next), u') ∧
      BareOpen objects next.next path next b u' := by
  obtain ⟨hraw, hshelf⟩ := h
  rename_i raw st
  obtain ⟨st', ho, hopen⟩ := hshelf.open_present (fun _ => rfl) hleft
  replace ho : ObjectStore.openPath path (asked create truncate) st = _ := ho
  unfold asked at ho
  refine ⟨⟨.raw { raw with fd := some next }, st'⟩, ?_, .mk rfl rfl rfl hopen⟩
  simp only [step, ObjectFile.openPath, RawFile.openPath, hraw, ho]

theorem BareOpen.openPath (h : BareOpen objects next path fd b u) (other : String)
    (create truncate : Bool) :
    u.step (.openPath other create truncate) =
      (.opened (.error (.invalidArgument (.alreadyOpen fd))), u) := by
  obtain ⟨hraw, -, -, -⟩ := h
  simp only [step, ObjectFile.openPath, RawFile.openPath, hraw]

theorem BareOpen.read (h : BareOpen objects next path fd b u) (offset len : Nat) :
    ∃ u', u.step (.read offset len) =
        (.bytes (inRange offset len (Bytes.slice b offset len)), u') ∧
      BareOpen objects next path fd b u' := by
  obtain ⟨hraw, hread, hwrite, hopen⟩ := h
  rename_i raw st access
  unfold inRange
  rcases hend : Offset.rangeEnd offset len with f | stop
  · refine ⟨⟨.raw raw, st⟩, ?_, .mk hraw hread hwrite hopen⟩
    simp only [step, ObjectFile.read, RawFile.read, RawFile.checked, RawFile.requireFd, hraw, hend]
    rfl
  · obtain ⟨st', hr, hopen'⟩ :=
      (shelfFile objects next path fd access hread hwrite).read offset len hopen
    refine ⟨⟨.raw raw, st'⟩, ?_, .mk hraw hread hwrite hopen'⟩
    simp only [step, ObjectFile.read, RawFile.read, RawFile.checked, RawFile.requireFd, hraw, hend,
      hr]
    rfl

/-- A direct write lays its data over the object, also when there are none. -/
theorem BareOpen.write (h : BareOpen objects next path fd b u) (offset : Nat) (data : Bytes) :
    ∃ u', u.step (.write offset data) = (.count (inRange offset data.length data.length), u') ∧
      BareOpen objects next path fd
        (if offset + data.length ≤ Offset.last then Bytes.overlay b offset data else b) u' := by
  obtain ⟨hraw, hread, hwrite, hopen⟩ := h
  rename_i raw st access
  unfold inRange
  by_cases hlast : offset + data.length ≤ Offset.last
  · obtain ⟨st', hw, hopen'⟩ := hopen.writeAt hwrite offset data
    rw [if_pos hlast]
    refine ⟨⟨.raw raw, st'⟩, ?_, .mk hraw hread hwrite hopen'⟩
    simp only [step, ObjectFile.write, RawFile.write, RawFile.checked, RawFile.requireFd, hraw,
      Stage.rangeEnd_of_le hlast, hw]
    rfl
  · rw [if_neg hlast]
    refine ⟨⟨.raw raw, st⟩, ?_, .mk hraw hread hwrite hopen⟩
    simp only [step, ObjectFile.write, RawFile.write, RawFile.checked, RawFile.requireFd, hraw,
      Offset.rangeEnd, if_neg hlast]
    rfl

theorem BareOpen.close (h : BareOpen objects next path fd b u) :
    ∃ u', u.step .close = (.closed (.ok ()), u') ∧
      BareShut (Function.update objects path (some b)) next u' := by
  obtain ⟨hraw, -, -, hopen⟩ := h
  rename_i raw st access
  obtain ⟨st', hc, hshelf⟩ := hopen.close
  replace hc : ObjectStore.close fd st = _ := hc
  refine ⟨⟨.raw { raw with fd := none }, st'⟩, ?_, .mk rfl hshelf⟩
  simp only [step, ObjectFile.close, RawFile.close, hraw, hc]

/-! ## A buffered file -/

/-- A buffered file that is closed. -/
inductive StagedShut (objects : String → Option Bytes) (next : Fd) :
    FileUser MemoryStore → Prop where
  | mk {f : StagedFile} {st : MemoryStore} : f.session = none → f.raw.fd = none →
      f.settings.check = .ok () → Shelf objects next st → StagedShut objects next ⟨.staged f, st⟩

/-- A buffered file that is open, and through whose stage these bytes are seen. -/
inductive StagedOpen (objects : String → Option Bytes) (next : Fd) (path : String) (fd : Fd)
    (b : Bytes) : FileUser MemoryStore → Prop where
  | mk {f : StagedFile} {st : MemoryStore} {s : Session} {object : Bytes}
      (hread : s.access.read = true) (hwrite : s.access.write = true) :
      f.session = some s → s.fd = fd → f.raw.fd = some fd → f.settings.check = .ok () →
      s.stage.On (shelfFile objects next path fd s.access hread hwrite).toSink st object →
      s.stage.outstanding = 0 → s.stage.view object = b →
      StagedOpen objects next path fd b ⟨.staged f, st⟩

theorem StagedShut.refused (h : StagedShut objects next v) {call : FileCall} {reply : FileReply}
    (hcall : refusal call = some reply) : v.step call = (reply, v) := by
  obtain ⟨hsession, -⟩ := h
  cases call with
  | openPath path create truncate => cases hcall
  | read offset len =>
    cases hcall
    simp only [step, ObjectFile.read, StagedFile.read, StagedFile.opened, hsession]
  | write offset data =>
    cases hcall
    simp only [step, ObjectFile.write, StagedFile.write, StagedFile.writable, hsession]
  | close =>
    cases hcall
    simp only [step, ObjectFile.close, StagedFile.close, hsession]

theorem StagedShut.open_missing (h : StagedShut objects next v) {create truncate : Bool}
    (hleft : MemoryStore.left (asked create truncate) (objects path) = none) :
    ∃ v', v.step (.openPath path create truncate) = (.opened (.error (.notFound path)), v') ∧
      StagedShut objects next v' := by
  obtain ⟨hsession, hraw, hcheck, hshelf⟩ := h
  rename_i f st
  obtain ⟨st', ho, hshelf'⟩ := hshelf.open_missing hleft
  replace ho : ObjectStore.openPath path (asked create truncate) st = _ := ho
  unfold asked at ho
  let refused : StagedFile := { f with session := none }
  refine ⟨⟨.staged refused, st'⟩, ?_, .mk rfl hraw hcheck hshelf'⟩
  simp only [step, ObjectFile.openPath, StagedFile.openPath, RawFile.openPath, hsession, hcheck,
    hraw, ho, refused]

theorem StagedShut.open_present (h : StagedShut objects next v) {create truncate : Bool}
    (hleft : MemoryStore.left (asked create truncate) (objects path) = some b) :
    ∃ v', v.step (.openPath path create truncate) = (.opened (.ok next), v') ∧
      StagedOpen objects next.next path next b v' := by
  obtain ⟨hsession, hraw, hcheck, hshelf⟩ := h
  rename_i f st
  obtain ⟨st', ho, hopen⟩ := hshelf.open_present (fun _ => rfl) hleft
  replace ho : ObjectStore.openPath path (asked create truncate) st = _ := ho
  unfold asked at ho
  obtain ⟨stage, hbuild⟩ := Stage.build_of_check hcheck next
  let session : Session := { fd := next, path, access := asked create truncate, stage }
  let opened : StagedFile :=
    { f with raw := { f.raw with fd := some next }, session := some session, bytes := {} }
  obtain ⟨hon, hview, hidle⟩ := Stage.on_of_build
    (F := (shelfFile objects next.next path next session.access rfl rfl).toSink) hbuild hopen
  refine ⟨⟨.staged opened, st'⟩, ?_, .mk rfl rfl rfl rfl rfl hcheck hon hidle hview⟩
  simp only [step, ObjectFile.openPath, StagedFile.openPath, RawFile.openPath, hsession, hcheck,
    hraw, ho, hbuild, opened, session, asked]

theorem StagedOpen.openPath (h : StagedOpen objects next path fd b v) (other : String)
    (create truncate : Bool) :
    v.step (.openPath other create truncate) =
      (.opened (.error (.invalidArgument (.alreadyOpen fd))), v) := by
  obtain ⟨-, -, hsession, rfl, -⟩ := h
  simp only [step, ObjectFile.openPath, StagedFile.openPath, hsession]

theorem StagedOpen.read (h : StagedOpen objects next path fd b v) (offset len : Nat) :
    ∃ v', v.step (.read offset len) =
        (.bytes (inRange offset len (Bytes.slice b offset len)), v') ∧
      StagedOpen objects next path fd b v' := by
  obtain ⟨hread, hwrite, hsession, hfd, hraw, hcheck, hon, hidle, hview⟩ := h
  rename_i f st s object
  unfold inRange
  by_cases hlast : offset + len ≤ Offset.last
  · obtain ⟨stage, st', object', hr, hon', hview'⟩ := hon.readBytes hlast
    rw [← Stage.read_idle st hlast hidle, hview] at hr
    have hidle' : stage.outstanding = 0 := (Stage.read_same hr).outstanding.trans hidle
    let after : StagedFile :=
      { f.withStage s stage with
        bytes := { f.bytes with
          read := Counter.plus f.bytes.read (Bytes.slice b offset len).length } }
    refine ⟨⟨.staged after, st'⟩, ?_,
      .mk (s := { s with stage }) hread hwrite rfl hfd hraw hcheck hon' hidle' (hview'.trans hview)⟩
    simp only [step, ObjectFile.read, StagedFile.read, StagedFile.opened, hsession, hr,
      Stage.rangeEnd_of_le hlast]
    rfl
  · refine ⟨⟨.staged (f.withStage s s.stage), st⟩, ?_,
      .mk (s := s) hread hwrite rfl hfd hraw hcheck hon hidle hview⟩
    simp only [step, ObjectFile.read, StagedFile.read, StagedFile.opened, hsession, Stage.read,
      Offset.rangeEnd, if_neg hlast]
    rfl

/-- A staged write is seen as far as there are data. -/
theorem StagedOpen.write (h : StagedOpen objects next path fd b v) (offset : Nat) (data : Bytes) :
    ∃ v', v.step (.write offset data) = (.count (inRange offset data.length data.length), v') ∧
      StagedOpen objects next path fd
        (if offset + data.length ≤ Offset.last then Bytes.written b offset data else b) v' := by
  obtain ⟨hread, hwrite, hsession, hfd, hraw, hcheck, hon, hidle, hview⟩ := h
  rename_i f st s object
  unfold inRange
  by_cases hlast : offset + data.length ≤ Offset.last
  · obtain ⟨stage, st', object', hw, hon', hview'⟩ := hon.stageFrom hlast trivial 0
    rw [Nat.zero_add] at hw
    rw [← Stage.write_idle st hlast hidle] at hw
    have hidle' : stage.outstanding = 0 := (Stage.write_same hw).outstanding.trans hidle
    let after : StagedFile :=
      { f.withStage s stage with
        bytes := { f.bytes with write := Counter.plus f.bytes.write data.length } }
    rw [if_pos hlast]
    rw [hview] at hview'
    refine ⟨⟨.staged after, st'⟩, ?_,
      .mk (s := { s with stage }) hread hwrite rfl hfd hraw hcheck hon' hidle' hview'⟩
    simp only [step, ObjectFile.write, StagedFile.write, StagedFile.writable, hsession, hwrite,
      if_true, hw, Stage.rangeEnd_of_le hlast]
    rfl
  · rw [if_neg hlast]
    refine ⟨⟨.staged (f.withStage s s.stage), st⟩, ?_,
      .mk (s := s) hread hwrite rfl hfd hraw hcheck hon hidle hview⟩
    simp only [step, ObjectFile.write, StagedFile.write, StagedFile.writable, hsession, hwrite,
      if_true, Stage.write, Offset.rangeEnd, if_neg hlast]
    rfl

/-- A close brings to the store what was seen. -/
theorem StagedOpen.close (h : StagedOpen objects next path fd b v) :
    ∃ v', v.step .close = (.closed (.ok ()), v') ∧
      StagedShut (Function.update objects path (some b)) next v' := by
  obtain ⟨hread, hwrite, hsession, hfd, hraw, hcheck, hon, hidle, hview⟩ := h
  rename_i f st s object
  obtain ⟨n, stage, flushed, hf, hon', -⟩ := hon.flushNow
  rw [← Stage.flush_idle st hidle] at hf
  have hopen : OpenAt objects next path fd s.access flushed (s.stage.view object) := hon'.holds
  obtain ⟨st', hc, hshelf⟩ := hopen.close
  replace hc : ObjectStore.close fd flushed = _ := hc
  rw [hview] at hshelf
  let after : StagedFile :=
    { f with
      raw := { f.raw with fd := none }
      session := none
      lastSummary := some (f.summarize { s with stage } true) }
  refine ⟨⟨.staged after, st'⟩, ?_, .mk rfl rfl hcheck hshelf⟩
  simp only [step, ObjectFile.close, StagedFile.close, hsession, hidle, ne_eq, not_true_eq_false,
    if_false, hwrite, if_true, hf, RawFile.close, hraw, hc, after]

/-! ## Two files that cannot be told apart -/

/-- A direct and a buffered file: both closed over the same shelf, or both open
with the same bytes. -/
inductive Twins (u v : FileUser MemoryStore) : Prop where
  | shut {objects : String → Option Bytes} {next : Fd} : BareShut objects next u →
      StagedShut objects next v → Twins u v
  | opened {objects : String → Option Bytes} {next fd : Fd} {path : String} {b : Bytes} :
      BareOpen objects next path fd b u → StagedOpen objects next path fd b v → Twins u v

/-- An answer that is the same for both, after which they still cannot be told apart. -/
def Agree (a a' : FileReply × FileUser MemoryStore) : Prop := a.1 = a'.1 ∧ Twins a.2 a'.2

/-- Closed files cannot be told apart by any call. -/
theorem agree_of_shut (hu : BareShut objects next u) (hv : StagedShut objects next v)
    (call : FileCall) : Agree (u.step call) (v.step call) := by
  rcases hcall : refusal call with _ | reply
  · cases call with
    | openPath path create truncate =>
      rcases hleft : MemoryStore.left (asked create truncate) (objects path) with _ | b
      · obtain ⟨u', hstep, hu'⟩ := hu.open_missing hleft
        obtain ⟨v', hstep', hv'⟩ := hv.open_missing hleft
        rw [hstep, hstep']
        exact ⟨rfl, .shut hu' hv'⟩
      · obtain ⟨u', hstep, hu'⟩ := hu.open_present hleft
        obtain ⟨v', hstep', hv'⟩ := hv.open_present hleft
        rw [hstep, hstep']
        exact ⟨rfl, .opened hu' hv'⟩
    | read offset len => cases hcall
    | write offset data => cases hcall
    | close => cases hcall
  · rw [hu.refused hcall, hv.refused hcall]
    exact ⟨rfl, .shut hu hv⟩

/-- The size of the object that a direct file is open on. -/
theorem BareOpen.stat (h : BareOpen objects next path fd b u) :
    (u.file.stat u.store).1 = .ok b.length := by
  obtain ⟨hraw, -, -, hopen⟩ := h
  rename_i raw st access
  have hstat : ObjectStore.stat fd st = (.ok b.length, st) := hopen.stat
  simp only [ObjectFile.stat, RawFile.stat, RawFile.requireFd, hraw, hstat]

/-- A write that stays inside leaves the same, whichever way it is laid. -/
theorem BareOpen.laid (h : BareOpen objects next path fd b u) {offset : Nat} {data : Bytes}
    (hinside : u.Inside (.write offset data)) (hlast : offset + data.length ≤ Offset.last) :
    Bytes.overlay b offset data = Bytes.written b offset data := by
  apply Bytes.overlay_eq_written
  rintro rfl
  refine hinside hlast b.length ?_
  rw [h.stat]
  rfl

/-- Open files cannot be told apart by a call that stays inside. -/
theorem agree_of_open (hu : BareOpen objects next path fd b u)
    (hv : StagedOpen objects next path fd b v) {call : FileCall} (hinside : u.Inside call) :
    Agree (u.step call) (v.step call) := by
  cases call with
  | openPath other create truncate =>
    rw [hu.openPath, hv.openPath]
    exact ⟨rfl, .opened hu hv⟩
  | read offset len =>
    obtain ⟨u', hstep, hu'⟩ := hu.read offset len
    obtain ⟨v', hstep', hv'⟩ := hv.read offset len
    rw [hstep, hstep']
    exact ⟨rfl, .opened hu' hv'⟩
  | write offset data =>
    obtain ⟨u', hstep, hu'⟩ := hu.write offset data
    obtain ⟨v', hstep', hv'⟩ := hv.write offset data
    rw [hstep, hstep']
    refine ⟨rfl, ?_⟩
    by_cases hlast : offset + data.length ≤ Offset.last
    · rw [if_pos hlast, hu.laid hinside hlast] at hu'
      rw [if_pos hlast] at hv'
      exact .opened hu' hv'
    · rw [if_neg hlast] at hu' hv'
      exact .opened hu' hv'
  | close =>
    obtain ⟨u', hstep, hu'⟩ := hu.close
    obtain ⟨v', hstep', hv'⟩ := hv.close
    rw [hstep, hstep']
    exact ⟨rfl, .shut hu' hv'⟩

/-- No call that stays inside tells the two apart. -/
theorem Twins.step (h : Twins u v) {call : FileCall} (hinside : u.Inside call) :
    Agree (u.step call) (v.step call) := by
  cases h with
  | shut hu hv => exact agree_of_shut hu hv call
  | opened hu hv => exact agree_of_open hu hv hinside

/-- No run that stays inside does. -/
theorem Twins.run (h : Twins u v) {calls : List FileCall} (hinside : u.StaysInside calls) :
    (u.run calls).1 = (v.run calls).1 ∧ Twins (u.run calls).2 (v.run calls).2 := by
  induction calls generalizing u v with
  | nil => exact ⟨rfl, h⟩
  | cons call calls ih =>
    obtain ⟨hhere, hrest⟩ := hinside
    obtain ⟨hreply, hnext⟩ := h.step hhere
    obtain ⟨hreplies, hlast⟩ := ih hnext hrest
    exact ⟨List.cons_eq_cons.mpr ⟨hreply, hreplies⟩, hlast⟩

/-! ## What the stores hold -/

/-- The same stands under a name in both stores, and both tell the same size. -/
structure SameAt (path : String) (st st' : MemoryStore) : Prop where
  object : st.object? path = st'.object? path
  size : (ObjectStore.statPath path st).1 = (ObjectStore.statPath path st').1

/-- The stores of two closed files hold the same. -/
theorem same_of_shut (hu : BareShut objects next u) (hv : StagedShut objects next v)
    (path : String) : SameAt path u.store v.store := by
  obtain ⟨-, hshelf⟩ := hu
  obtain ⟨-, -, -, hshelf'⟩ := hv
  exact ⟨(hshelf.shows path).trans (hshelf'.shows path).symm,
    (hshelf.statPath path).trans (hshelf'.statPath path).symm⟩

/-- So do those of two files that are closed now. -/
theorem Twins.close (h : Twins u v) (path : String) :
    SameAt path (u.step .close).2.store (v.step .close).2.store := by
  cases h with
  | shut hu hv =>
    rw [hu.refused rfl, hv.refused rfl]
    exact same_of_shut hu hv path
  | opened hu hv =>
    obtain ⟨u', hstep, hu'⟩ := hu.close
    obtain ⟨v', hstep', hv'⟩ := hv.close
    rw [hstep, hstep']
    exact same_of_shut hu' hv' path

end Twins

/-! ## Buffering cannot be told -/

/-- A direct and a buffered file, whatever the settings of each, over stores with
the same objects and without faults: as long as no write of nothing lies past
the end, every call of a run answers the same, and after a close the
stores hold the same. -/
theorem buffering_cannot_be_told {plain layered : Settings} {bare fronted : Front}
    {objects : String → Option Bytes} {next : Fd} {direct buffered : MemoryStore}
    (hplain : Front.ofSettings plain = .ok bare) (hlayered : Front.ofSettings layered = .ok fronted)
    (hoff : plain.enabled = false) (hon : layered.enabled = true)
    (hdirect : MemoryStore.Shelf objects next direct)
    (hbuffered : MemoryStore.Shelf objects next buffered) (calls : List FileCall)
    (hinside : StaysInside ⟨bare.newFile, direct⟩ calls) :
    (run ⟨bare.newFile, direct⟩ calls).1 = (run ⟨fronted.newFile, buffered⟩ calls).1 ∧
      ∀ path, SameAt path (run ⟨bare.newFile, direct⟩ (calls ++ [.close])).2.store
        (run ⟨fronted.newFile, buffered⟩ (calls ++ [.close])).2.store := by
  obtain ⟨-, rfl⟩ := Front.ofSettings_eq_ok_iff.mp hplain
  obtain ⟨hcheck, rfl⟩ := Front.ofSettings_eq_ok_iff.mp hlayered
  have htwins : Twins ⟨Front.newFile { settings := plain }, direct⟩
      ⟨Front.newFile { settings := layered }, buffered⟩ := by
    unfold Front.newFile ObjectFile.ofSettings
    dsimp only
    rw [if_neg (by rw [hoff]; decide), if_pos hon]
    exact .shut (.mk rfl hdirect) (.mk rfl rfl hcheck hbuffered)
  obtain ⟨hreplies, hafter⟩ := htwins.run hinside
  refine ⟨hreplies, ?_⟩
  intro path
  rw [run_append, run_append]
  exact hafter.close path

/-! ### Over a shelf with one object -/

/-- A store with three bytes under one name. -/
def shelved (delivery : Delivery) : MemoryStore :=
  ({ delivery } : MemoryStore).insert "log" [1, 2, 3]

theorem shelf_shelved (delivery : Delivery) :
    MemoryStore.Shelf (Function.update (fun _ => none) "log" (some [1, 2, 3])) .first
      (shelved delivery) :=
  (MemoryStore.shelf_empty delivery).insert "log" [1, 2, 3]

/-- A front whose files are direct. -/
def bareFront : Front := { settings := { enabled := false } }

/-- A front whose files have four bytes of buffer. -/
def bufferedFront (adapter : AdapterKind) : Front := { settings := { bufferSize := 4, adapter } }

/-- Data past the end, and then nothing at the end. -/
def tidyCalls : List FileCall :=
  [.openPath "log" false false, .write 2 [7, 8, 9], .write 5 [], .read 0 9]

theorem tidyCalls_stay_inside : StaysInside ⟨bareFront.newFile, shelved .threaded⟩ tidyCalls := by
  refine ⟨trivial, trivial, ?_, trivial, trivial⟩
  intro _ size hsize
  cases hsize
  decide

theorem buffering_cannot_be_told_over_a_shelf :
    Front.ofSettings bareFront.settings = .ok bareFront ∧
      Front.ofSettings (bufferedFront .async).settings = .ok (bufferedFront .async) ∧
      StaysInside ⟨bareFront.newFile, shelved .threaded⟩ tidyCalls ∧
      (run ⟨bareFront.newFile, shelved .threaded⟩ tidyCalls).1 =
        (run ⟨(bufferedFront .async).newFile, shelved .deferred⟩ tidyCalls).1 ∧
      ∀ path,
        SameAt path (run ⟨bareFront.newFile, shelved .threaded⟩ (tidyCalls ++ [.close])).2.store
          (run ⟨(bufferedFront .async).newFile, shelved .deferred⟩ (tidyCalls ++ [.close])).2.store :=
  have hbare : Front.ofSettings bareFront.settings = .ok bareFront := rfl
  have hbuffered : Front.ofSettings (bufferedFront .async).settings = .ok (bufferedFront .async) :=
    rfl
  ⟨hbare, hbuffered, tidyCalls_stay_inside,
    buffering_cannot_be_told hbare hbuffered rfl rfl (shelf_shelved .threaded)
      (shelf_shelved .deferred) tidyCalls tidyCalls_stay_inside⟩

/-- Nothing, two bytes past the end. -/
def untidyCalls : List FileCall := [.openPath "log" false false, .write 5 [], .close]

theorem buffering_is_told_past_the_end :
    (run ⟨bareFront.newFile, shelved .threaded⟩ untidyCalls).2.store.object? "log" =
        some [1, 2, 3, 0, 0] ∧
      (run ⟨(bufferedFront .sync).newFile, shelved .threaded⟩ untidyCalls).2.store.object? "log" =
        some [1, 2, 3] :=
  ⟨by decide, by decide +kernel⟩

end FileUser

end StagedFiles
