-- A file that was opened to be written and not to be read, over a store in memory where no
-- call is told to fail. A read of what the image of its stage has is answered from there,
-- and nobody asks whether the file may read. Any other read goes to the store, which
-- refuses it as it refuses every read of the raw file.
import StagedFiles.Proofs.FileDeeds
import StagedFiles.Proofs.ImageCopies
import StagedFiles.Proofs.StagedFlushes
import StagedFiles.Proofs.WriteOnlyObjects

namespace StagedFiles

open MemoryStore (Serves LeavesWriter writerKeeper)

variable {fd : Fd} {st st' : MemoryStore}

/-! ## The adapter of a writer -/

namespace Adapter

variable {a : Adapter} {offset count : Nat}

/-- A write moves all that is asked. -/
theorem write_serves (h : Serves fd none st) (hfd : a.fd = fd) (hcap : count ≤ a.buffer.capacity)
    (offset : Nat) :
    ∃ st', a.write offset count st = (.ok count, a.wrote count, st') ∧ Serves fd none st' := by
  have hlen := length_written hcap
  rcases hkind : a.kind with _ | _
  · obtain ⟨st', hw, hserves⟩ := h.writeAt_own offset (a.buffer.peek 0 count)
    rw [hlen] at hw
    refine ⟨st', ?_, hserves⟩
    simp only [write, submitWrite, checkCount_ok hcap, hkind, writeNow, hfd, hw, settle]
  · obtain ⟨ticket, st1, hs, hserves⟩ := h.submitWrite_own offset (a.buffer.peek 0 count)
    obtain ⟨st2, hw, hserves'⟩ := hserves.await_own
    have hwait : ObjectStore.await ticket st1 = (some (.count (.ok count)), st2) := by
      rw [← hlen]
      exact hw
    refine ⟨st2, ?_, hserves'⟩
    simp only [write, submitWrite, checkCount_ok hcap, hkind, hfd, hs, settle, hwait, finish]

/-- A read is refused at once, or handed in. -/
inductive Unread (fd : Fd) (a : Adapter) (offset count : Nat) :
    Except Failure (Started (Except Failure Nat)) × Adapter × MemoryStore → Prop where
  | refused {a' : Adapter} {st' : MemoryStore} : Serves fd none st' →
      Unread fd a offset count (.ok (.finished (.error (.badDescriptor .reading))), a', st')
  | out {ticket : Ticket} {st' : MemoryStore} :
      Serves fd (some (ticket, .read fd offset count)) st' →
      Unread fd a offset count (.ok (.submitted ticket), a, st')

theorem submitRead_serves (h : Serves fd none st) (hfd : a.fd = fd)
    (hcap : count ≤ a.buffer.capacity) (offset : Nat) :
    Unread fd a offset count (a.submitRead offset count st) := by
  rcases hkind : a.kind with _ | _
  · obtain ⟨st', hr, hserves⟩ := h.readAt_own offset count
    have hrefused : a.submitRead offset count st =
        (.ok (.finished (.error (.badDescriptor .reading))),
          { a with buffer := a.buffer.poke 0 [] }, st') := by
      simp only [submitRead, checkCount_ok hcap, hkind, readNow, hfd, hr]
    rw [hrefused]
    exact .refused hserves
  · obtain ⟨ticket, st', hs, hserves⟩ := h.submitRead_own offset count
    have hout : a.submitRead offset count st = (.ok (.submitted ticket), a, st') := by
      simp only [submitRead, checkCount_ok hcap, hkind, hfd, hs]
    rw [hout]
    exact .out hserves

/-- A read that is waited for is refused. -/
theorem read_refused (h : Serves fd none st) (hfd : a.fd = fd)
    (hcap : count ≤ a.buffer.capacity) (offset : Nat) :
    (a.read offset count st).1 = .error (.badDescriptor .reading) := by
  have hstart := submitRead_serves h hfd hcap offset
  unfold read
  rcases hs : a.submitRead offset count st with ⟨r, a', st'⟩
  rw [hs] at hstart
  cases hstart with
  | refused hserves => simp [settle]
  | out hserves =>
    obtain ⟨st2, hw, -⟩ := hserves.await_own
    have hwait : ObjectStore.await _ st' =
        (some (.bytes (.error (.badDescriptor .reading))), st2) := hw
    simp [settle, hwait, finish]

end Adapter

/-! ## The stage of a writer -/

namespace Stage

variable {s s' : Stage} {offset len : Nat}

/-- A flush comes out well. -/
theorem flushNow_serves (h : Serves fd none st) (hfd : s.fd = fd) :
    ∃ n s' st', s.flushNow st = (.ok n, s', st') ∧ Serves fd none st' := by
  by_cases hdirty : s.dirty = true
  · obtain ⟨st', hw, hserves⟩ :=
      Adapter.write_serves h hfd s.buffer.len_le s.buffer.start
    exact ⟨_, _, _, flushNow_whole hdirty hw, hserves⟩
  · exact ⟨_, _, _, flushNow_clean st (by simpa using hdirty), h⟩

/-- An image that does not cover a range does not have all of it. -/
theorem copyOut_short (hpos : 1 ≤ len) (hlast : offset + len ≤ Offset.last)
    (hcovers : s.buffer.covers offset len = false) :
    (s.buffer.copyOut offset len).length < len := by
  have hnot : ¬ s.buffer.covers offset len = true := by
    rw [hcovers]
    exact Bool.false_ne_true
  rw [StagingBuffer.covers_iff hpos hlast, StagingBuffer.holds_iff (by omega)] at hnot
  rw [StagingBuffer.length_copyOut]
  split
  · rename_i hheld
    have hfew : ¬ len ≤ s.buffer.len - (offset - s.buffer.start) := fun hall => hnot ⟨hheld, hall⟩
    omega
  · exact hpos

/-- Where the image has nothing to copy, the read flushes and is refused. -/
theorem readFrom_gap_refused (h : Serves fd none st) (hfd : s.fd = fd) {pos want : Nat}
    (hw : want ≠ 0) (hgap : (s.buffer.copyOut pos want).length = 0) (pieces : List Bytes) :
    (s.readFrom st pos want pieces).1 = .error (.badDescriptor .reading) := by
  obtain ⟨n, s1, st1, hf, hserves⟩ := flushNow_serves h hfd
  have hfd1 : s1.fd = fd := (flushNow_same hf).fd.trans hfd
  have hrefused := Adapter.read_refused (a := s1.countMiss.adapter) hserves hfd1
    (Nat.le_refl s1.countMiss.capacity) pos
  rw [Stage.readFrom, dif_neg hw, dif_neg (not_not.mpr hgap), hf]
  dsimp only
  rcases hr : s1.countMiss.adapter.read pos s1.countMiss.capacity st1 with ⟨r, a, st2⟩
  rw [hr] at hrefused
  obtain rfl : r = .error (.badDescriptor .reading) := hrefused
  rfl

/-- A read of more than the image has is refused, behind what the image has. -/
theorem readBytes_refused (h : Serves fd none st) (hfd : s.fd = fd) (hpos : 1 ≤ len)
    (hlast : offset + len ≤ Offset.last) (hcovers : s.buffer.covers offset len = false) :
    (s.readBytes st offset len).1 = .error (.badDescriptor .reading) := by
  have hshort := copyOut_short hpos hlast hcovers
  have hfrom : (s.readFrom st offset len []).1 = .error (.badDescriptor .reading) := by
    by_cases hgap : (s.buffer.copyOut offset len).length = 0
    · exact readFrom_gap_refused h hfd (by omega) hgap []
    · rw [readFrom_hit [] st (by omega) hgap]
      exact readFrom_gap_refused (s := s.countHit) h hfd (by omega)
        (copyOut_behind hshort _) _
  unfold readBytes
  rcases hr : s.readFrom st offset len [] with ⟨r, s1, st1⟩
  rw [hr] at hfrom
  obtain rfl : r = .error (.badDescriptor .reading) := hfrom
  rfl

theorem read_served (h : Serves fd none st) (hfd : s.fd = fd) (hidle : s.outstanding = 0)
    (hpos : 1 ≤ len) (hlast : offset + len ≤ Offset.last) :
    (s.read offset len st).1 =
      if s.buffer.covers offset len then .ok (s.buffer.copyOut offset len)
      else .error (.badDescriptor .reading) := by
  rw [read_idle st hlast hidle]
  by_cases hcovers : s.buffer.covers offset len = true
  · obtain ⟨s', hr, -⟩ := readBytes_hit st (StagingBuffer.length_copyOut_of_covers hcovers)
    simp [hr, hcovers]
  · have hnot : s.buffer.covers offset len = false := by simpa using hcovers
    simp [readBytes_refused h hfd hpos hlast hnot, hnot]

/-- How a read of a writer that is handed in starts: it is over, with bytes of the image
where that covers the range and refused elsewhere, or it is out. -/
inductive WriterStart (s : Stage) (offset len : Nat) : Except Failure (Started Completion) → Prop where
  | hit : s.buffer.covers offset len = true →
      WriterStart s offset len (.ok (.finished (.bytes (.ok (s.buffer.copyOut offset len)))))
  | refused : s.buffer.covers offset len = false →
      WriterStart s offset len (.ok (.finished (.bytes (.error (.badDescriptor .reading)))))
  | out {ticket : Ticket} : s.buffer.covers offset len = false →
      WriterStart s offset len (.ok (.submitted ticket))

theorem readAio_served (h : Serves fd none st) (hfd : s.fd = fd) (hidle : s.outstanding = 0)
    (hpos : 1 ≤ len) (hlast : offset + len ≤ Offset.last) :
    s.WriterStart offset len (s.readAio offset len st).1 := by
  by_cases hcovers : s.buffer.covers offset len = true
  · obtain ⟨s', hr, -⟩ := readAio_hit st hidle hcovers
    rw [hr]
    exact .hit hcovers
  · have hnot : s.buffer.covers offset len = false := by simpa using hcovers
    obtain ⟨n, s1, st1, hf, hserves⟩ := flushNow_serves h hfd
    have hfd1 : s1.fd = fd := (flushNow_same hf).fd.trans hfd
    have hstart := Adapter.submitRead_serves (a := s1.adapter) hserves hfd1
      (Nat.le_refl s1.capacity) offset
    rcases hr : s.readAio offset len st with ⟨r, s', st'⟩
    cases readAio_cases hr with
    | beyond hbeyond => exact absurd hlast (Nat.not_le_of_lt hbeyond)
    | busy _ hbusy => exact absurd hidle hbusy
    | hit _ hhit => exact absurd hhit hcovers
    | large _ _ hread _ =>
      have hrefused := readBytes_refused h hfd hpos hlast hnot
      rw [hread] at hrefused
      obtain rfl : _ = Except.error (Failure.badDescriptor .reading) := hrefused
      exact .refused hnot
    | unflushed _ hfailed => cases hf.symm.trans hfailed
    | refused _ hf' hs =>
      cases hf.symm.trans hf'
      rw [hs] at hstart
      cases hstart
    | submitted _ _ _ => exact .out hnot
    | inline _ hf' hs =>
      cases hf.symm.trans hf'
      rw [hs] at hstart
      cases hstart with
      | refused _ => exact .refused hnot

/-- The completion of a read that is refused is refused. -/
theorem complete_refused (hreq : s.inflight.requests = [.read offset len]) (f : Failure) :
    (s.complete (.bytes (.error f))).1 = .bytes (.error f) := by
  rw [complete_read hreq rfl]
  rfl

end Stage

/-! ## The raw file of a writer -/

namespace RawFile

variable {f : RawFile} {offset len : Nat}

theorem checked_open (hfd : f.fd = some fd) (hlast : offset + len ≤ Offset.last) :
    f.checked offset len = .ok fd := by
  unfold checked requireFd
  rw [hfd, Stage.rangeEnd_of_le hlast]

theorem read_refused (h : Serves fd none st) (hfd : f.fd = some fd)
    (hlast : offset + len ≤ Offset.last) :
    (f.read offset len st).1 = .error (.badDescriptor .reading) := by
  obtain ⟨st', hr, -⟩ := h.readAt_own offset len
  unfold read
  rw [checked_open hfd hlast]
  dsimp only
  rw [hr]

/-- A read that is handed in past the stage is out, and its completion is refused. -/
theorem readAio_refused (h : Serves fd none st) (hfd : f.fd = some fd)
    (hlast : offset + len ≤ Offset.last) :
    ∃ ticket st', f.readAio offset len st = (.ok (.submitted ticket), st') ∧
      (ObjectStore.await ticket st').1 = some (.bytes (.error (.badDescriptor .reading))) := by
  obtain ⟨ticket, st', hs, hserves⟩ := h.submitRead_own offset len
  obtain ⟨st2, hw, -⟩ := hserves.await_own
  refine ⟨ticket, st', ?_, congrArg Prod.fst hw⟩
  unfold readAio
  rw [checked_open hfd hlast]
  dsimp only
  rw [hs]

end RawFile

/-! ## The file of a writer -/

namespace FileClient

/-- What is so of an open file of a writer. While nothing is out, a read is answered from the
image where that covers the range, and refused elsewhere. The raw file refuses all reads. -/
structure YieldsOnlyImage (c : FileClient MemoryStore) (s : Session) : Prop where
  session : c.file.session = some s
  read : s.stage.outstanding = 0 → ∀ offset len, 1 ≤ len → offset + len ≤ Offset.last →
    c.hear (.read offset len) =
      .bytes (if s.stage.buffer.covers offset len then .ok (s.stage.buffer.copyOut offset len)
        else .error (.badDescriptor .reading))
  readAio : s.stage.outstanding = 0 → ∀ offset len, 1 ≤ len → offset + len ≤ Offset.last →
    ∃ r, c.hear (.readAio offset len) = .started r ∧ s.stage.WriterStart offset len r ∧
      ∀ ticket, r = .ok (.submitted ticket) →
        (c.ask (.readAio offset len)).due = some (ticket, .read offset len)
  /-- A read that is out is refused in its completion. -/
  deliver : ∀ ticket offset len, c.due = some (ticket, .read offset len) →
    c.hear .deliver = .completed (.bytes (.error (.badDescriptor .reading)))
  rawRead : s.stage.outstanding = 0 → ∀ offset len, offset + len ≤ Offset.last →
    (c.file.raw.read offset len c.store).1 = .error (.badDescriptor .reading)
  rawReadAio : s.stage.outstanding = 0 → ∀ offset len, offset + len ≤ Offset.last →
    ∃ ticket st, c.file.raw.readAio offset len c.store = (.ok (.submitted ticket), st) ∧
      (ObjectStore.await ticket st).1 = some (.bytes (.error (.badDescriptor .reading)))

variable {c : FileClient MemoryStore} {s : Session} {object : Bytes}

theorem Linked.serves (h : Linked (writerKeeper fd) c s object)
    (hidle : s.stage.outstanding = 0) : Serves fd none c.store := by
  rcases h.agree.idle_or_busy with ⟨_, _, hkeeps⟩ | hbusy
  · exact hkeeps
  · exact absurd hidle hbusy

theorem hear_read {offset len : Nat} (hs : c.file.session = some s) :
    c.hear (.read offset len) = .bytes (s.stage.read offset len c.store).1 := by
  unfold hear StagedFile.read StagedFile.opened
  rw [hs]
  dsimp only
  rcases s.stage.read offset len c.store with ⟨r | bytes, stage, store⟩
  · rfl
  · rfl

/-- What is due is waited for by the stage, and its completion is refused. -/
theorem Linked.deliver_refused {ticket : Ticket} {offset len : Nat}
    (h : Linked (writerKeeper fd) c s object) (hdue : c.due = some (ticket, .read offset len)) :
    c.hear .deliver = .completed (.bytes (.error (.badDescriptor .reading))) := by
  obtain ⟨made, hwaits, hkeeps⟩ := h.agree.waits hdue
  cases hwaits with
  | read _ hreq =>
    have hserves : Serves fd (some (ticket, .read fd offset s.stage.capacity)) c.store := hkeeps
    obtain ⟨st', hw, -⟩ := hserves.await_own
    have hwait : ObjectStore.await ticket c.store =
        (some (.bytes (.error (.badDescriptor .reading))), st') := hw
    have hended := Stage.complete_refused hreq (.badDescriptor .reading)
    simp only [hear, hdue, hwait, StagedFile.complete, h.session]
    exact congrArg Reply.completed hended

theorem Linked.yieldsOnlyImage (h : Linked (writerKeeper fd) c s object) :
    c.YieldsOnlyImage s where
  session := h.session
  read hidle offset len hpos hlast := by
    rw [hear_read h.session]
    exact congrArg Reply.bytes
      (Stage.read_served (h.serves hidle) h.stage_fd hidle hpos hlast)
  readAio hidle offset len hpos hlast := by
    have hserved := Stage.readAio_served (h.serves hidle) h.stage_fd hidle hpos hlast
    refine ⟨_, rfl, ?_, ?_⟩
    · unfold StagedFile.readAio StagedFile.opened
      rw [h.session]
      exact hserved
    · intro ticket hr
      unfold FileClient.ask
      dsimp only
      rw [hr]
      rfl
  deliver _ _ _ hdue := h.deliver_refused hdue
  rawRead hidle _ _ hlast := RawFile.read_refused (h.serves hidle) h.raw hlast
  rawReadAio hidle _ _ hlast := RawFile.readAio_refused (h.serves hidle) h.raw hlast

end FileClient

/-- A file that was opened without read access yields no bytes but those of its own image,
whatever is done with it over a store where no call is told to fail. -/
theorem a_file_without_read_access_yields_only_its_image {f0 f : StagedFile} {path : String}
    {access : Access} {st0 : MemoryStore} {acts : List (FileAct MemoryStore)}
    (hopen : f0.openPath path access st0 = (.ok fd, f, st)) (hwrite : access.write = true)
    (hread : access.read = false) (hquiet : st0.faults.Quiet) (hdated : st0.Dated)
    (hothers : ∀ act, .others act ∈ acts → LeavesWriter fd act) :
    (Failure.badDescriptor .reading).errno = -Errno.badDescriptor ∧
      ∃ s, (FileClient.run { file := f, store := st } acts).YieldsOnlyImage s := by
  obtain ⟨hstore, -⟩ := StagedFile.openPath_ok hopen
  have hserves : Serves fd none st := .of_openPath hstore hwrite hread hquiet hdated
  have hkept : (writerKeeper fd).Keeps st [] none := hserves
  obtain ⟨s, hlinked, -⟩ := FileClient.linked_of_open hopen hkept
  obtain ⟨s', object', hran, -⟩ := hlinked.run acts fun act hact st object out h =>
    ⟨object, hothers act hact st _ h⟩
  exact ⟨rfl, s', hran.yieldsOnlyImage⟩

/-- The open of a file to write, on a store with one object. -/
def toWrite (adapter : AdapterKind) : Except Failure Fd × StagedFile × MemoryStore :=
  (StagedFile.ofSettings { bufferSize := 4, adapter }).openPath "log" { write := true }
    (({} : MemoryStore).insert "log" [1, 2, 3])

theorem toWrite_ok (adapter : AdapterKind) : toWrite adapter = (.ok .first, (toWrite adapter).2) := by
  cases adapter with
  | sync => rfl
  | async => rfl

/-- The file as it was opened. -/
def writerFile (adapter : AdapterKind) : FileClient MemoryStore :=
  { file := (toWrite adapter).2.1, store := (toWrite adapter).2.2 }

/-- Bytes are written and read behind their end, while others open an object of their own and
run what is parked. -/
theorem a_writer_among_others_reads_only_its_image :
    toWrite .async = (.ok .first, (toWrite .async).2) ∧
      ∃ s, ((writerFile .async).run
        [.ask (.write 0 [7, 8, 9]), .others fun st => st.insert "other" [5],
          .others (StoreCall.openPath "other" .readOnly).on, .ask (.readAio 2 2),
          .others (MemoryStore.befall .runParked), .ask .deliver]).YieldsOnlyImage s := by
  refine ⟨toWrite_ok .async,
    (a_file_without_read_access_yields_only_its_image (toWrite_ok .async) rfl rfl ?_ ?_ ?_).2⟩
  · exact ⟨rfl, rfl, rfl, rfl, rfl⟩
  · refine ⟨?_, ?_⟩
    · intro x hx
      cases hx
    · intro x hx
      cases hx
  · intro act hact
    simp only [List.mem_cons, List.not_mem_nil, or_false, FileAct.others.injEq, reduceCtorEq,
      false_or] at hact
    rcases hact with rfl | rfl | rfl
    · exact MemoryStore.leavesWriter_insert .first "other" [5]
    · exact MemoryStore.leavesWriter_call (by simp) (by simp)
    · exact MemoryStore.leavesWriter_runParked .first

/-- Bytes that were staged are read back through the file, while its raw file refuses the
same read. -/
theorem staged_bytes_are_read_without_read_access :
    (toWrite .sync).1 = .ok .first ∧
      ((writerFile .sync).ask (.write 0 [7, 8, 9])).hear (.read 0 3) = .bytes (.ok [7, 8, 9]) ∧
      (((writerFile .sync).ask (.write 0 [7, 8, 9])).file.raw.read 0 3
        ((writerFile .sync).ask (.write 0 [7, 8, 9])).store).1 =
          .error (.badDescriptor .reading) := by
  refine ⟨rfl, ?_, ?_⟩
  · decide +kernel
  · decide +kernel

end StagedFiles
