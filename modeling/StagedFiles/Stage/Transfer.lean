-- Reads and writes that the caller waits for. A read is served from the image
-- as far as it reaches and fills the whole buffer from where it stops. A write
-- is staged and reaches the store when the next write does not follow it, does
-- not fit behind it, a read misses, or the file flushes.
import StagedFiles.Stage.Basic

namespace StagedFiles.Stage

variable {σ : Type} [ObjectStore σ]

/-! ## Flush -/

/-- Writes the staged bytes to the store. A short or failed write keeps them
staged, so the next flush writes the same bytes again. -/
def flushNow (s : Stage) (st : σ) : Except Failure Nat × Stage × σ :=
  if s.dirty then
    let len := s.buffer.len
    match s.adapter.write s.buffer.start len st with
    | (.error f, a, st) => (.error f, { s with adapter := a }, st)
    | (.ok n, a, st) =>
      let s := { s with adapter := a }
      if n = len then (.ok n, { s with dirty := false }.countFlush n, st)
      else (.error (.refused .writing Errno.io), s, st)
  else (.ok 0, s, st)

/-! ## Read -/

/-- Reads `want` bytes at `pos` behind the pieces read before it, newest
first. The read ends early where a fill comes back short of the capacity. The
exit on `got.length = 0` is there for the recursion alone: it is never taken, as
a fill that came out well has its first byte to copy. -/
def readFrom (s : Stage) (st : σ) (pos want : Nat) (pieces : List Bytes) :
    Except Failure (List Bytes) × Stage × σ :=
  if _hw : want = 0 then (.ok pieces, s, st)
  else
    let hit := s.buffer.copyOut pos want
    if _hh : hit.length ≠ 0 then
      readFrom s.countHit st (pos + hit.length) (want - hit.length) (hit :: pieces)
    else
      match s.flushNow st with
      | (.error f, s, st) => (.error f, s, st)
      | (.ok _, s, st) =>
        let s := s.countMiss
        match s.adapter.read pos s.capacity st with
        | (.error f, a, st) => (.error f, { s with adapter := a }, st)
        | (.ok filled, a, st) =>
          let s := { s with adapter := a }
          if filled = 0 then (.ok pieces, s, st)
          else
            let got := s.buffer.copyOut pos want
            if _hg : filled < s.capacity ∨ got.length = 0 then (.ok (got :: pieces), s, st)
            else readFrom s st (pos + got.length) (want - got.length) (got :: pieces)
termination_by want
decreasing_by
  · exact Nat.sub_lt (Nat.pos_of_ne_zero _hw) (Nat.pos_of_ne_zero _hh)
  · exact Nat.sub_lt (Nat.pos_of_ne_zero _hw) (Nat.pos_of_ne_zero fun h => _hg (.inr h))

/-- The bytes at an offset, fewer than asked where a fill comes back short. -/
def readBytes (s : Stage) (st : σ) (offset want : Nat) : Except Failure Bytes × Stage × σ :=
  match s.readFrom st offset want [] with
  | (.ok pieces, s, st) => (.ok pieces.reverse.flatten, s, st)
  | (.error f, s, st) => (.error f, s, st)

/-! ## Write -/

/-- Stages data at `pos` behind the `done` bytes staged before it. Data that
follows the staged bytes and fits behind them joins them; otherwise they are
flushed and the buffer starts again at `pos`. -/
def stageFrom (s : Stage) (st : σ) (pos : Nat) (data : Bytes) (done : Nat) :
    Except Failure Nat × Stage × σ :=
  if hd : data = [] then (.ok done, s, st)
  else if h : s.dirty = true ∧ s.buffer.stop = pos ∧ s.buffer.hasRoom data = true then
    let b := s.buffer.append data ((s.buffer.hasRoom_iff data).mp h.2.2)
    (.ok (done + data.length), s.withBuffer b, st)
  else
    match s.flushNow st with
    | (.error f, s, st) => (.error f, s, st)
    | (.ok _, s, st) =>
      let b := s.buffer
      let piece := data.take b.capacity
      have fits : piece.length ≤ b.capacity := List.length_take_le ..
      have taken : 0 < piece.length := by
        have := b.capacity_pos
        have := List.length_pos_iff.mpr hd
        simp only [piece, List.length_take]
        omega
      let s := { s.withBuffer (b.restart pos piece fits) with dirty := true }
      stageFrom s st (pos + piece.length) (data.drop piece.length) (done + piece.length)
termination_by data.length
decreasing_by
  have := List.length_pos_iff.mpr hd
  rw [List.length_drop]
  exact Nat.sub_lt this taken

/-- Stages the data; the answer is how many bytes were taken, all of them. -/
def stageBytes (s : Stage) (st : σ) (offset : Nat) (data : Bytes) :
    Except Failure Nat × Stage × σ :=
  s.stageFrom st offset data 0

/-! ## The calls -/

/-- Reads at most `len` bytes at an offset. -/
def read (s : Stage) (offset len : Nat) (st : σ) : Except Failure Bytes × Stage × σ :=
  match Offset.rangeEnd offset len, s.checkIdle with
  | .error f, _ => (.error f, s, st)
  | .ok _, .error f => (.error f, s, st)
  | .ok _, .ok () => s.readBytes st offset len

/-- Writes data at an offset. -/
def write (s : Stage) (offset : Nat) (data : Bytes) (st : σ) : Except Failure Nat × Stage × σ :=
  match Offset.rangeEnd offset data.length, s.checkIdle with
  | .error f, _ => (.error f, s, st)
  | .ok _, .error f => (.error f, s, st)
  | .ok _, .ok () => s.stageBytes st offset data

/-- Writes the staged bytes to the store; 0 and no call when there are none. -/
def flush (s : Stage) (st : σ) : Except Failure Nat × Stage × σ :=
  match s.checkIdle with
  | .error f => (.error f, s, st)
  | .ok () => s.flushNow st

end StagedFiles.Stage
