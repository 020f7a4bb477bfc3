-- The loops of a stage, guarded turn by turn, and the flush between. A turn of a read keeps
-- the store as it should be and the buffer as large as it is; a turn of a write keeps the
-- buffer. So no turn is stopped, and the loops come to what they come to without guards.
import StagedFiles.Proofs.GuardedSteps

namespace StagedFiles

namespace Guarded

variable {σ : Type} [ObjectStore σ]

/-! ## Flush -/

def flushNow (s : Stage) (st : σ) : Guarded (Except Failure Nat × Stage × σ) :=
  if s.dirty then do
    let len := s.buffer.len
    match ← drain s.adapter s.buffer.start len st with
    | (.error f, a, st) => return (.error f, { s with adapter := a }, st)
    | (.ok n, a, st) =>
      let s := { s with adapter := a }
      if n = len then return (.ok n, { s with dirty := false }.countFlush n, st)
      else return (.error (.refused .writing Errno.io), s, st)
  else return (.ok 0, s, st)

theorem flushNow_eq (s : Stage) (st : σ) : flushNow s st = .ok (s.flushNow st) := by
  unfold flushNow Stage.flushNow
  split
  · dsimp only
    have hwrite : drain s.adapter s.buffer.start s.buffer.len st = _ := drain_eq s.buffer.len_le
    rw [hwrite, ok_bind]
    rcases s.adapter.write s.buffer.start s.buffer.len st with ⟨f | n, a, st1⟩
    · rfl
    · dsimp only
      split
      · rfl
      · rfl
  · rfl

/-! ## Loops -/

/-- A loop with this many turns at most. -/
def turns {ρ τ : Type} (turn : τ → Guarded (Turn ρ τ)) : Nat → τ → Guarded ρ
  | 0, _ => .error .endless
  | n + 1, t => do
    match ← turn t with
    | .over r => return r
    | .again t => turns turn n t

/-- Turns that are not stopped come to what they come to without guards. -/
theorem turns_eq {ρ τ : Type} {turn : τ → Turn ρ τ} {guarded : τ → Guarded (Turn ρ τ)}
    {Inv : τ → Prop} (hturn : ∀ t, Inv t → guarded t = .ok (turn t))
    (hkeep : ∀ t t', Inv t → turn t = .again t' → Inv t') {n : Nat} {t : τ} {r : ρ} (ht : Inv t)
    (h : StagedFiles.turns turn n t = some r) : turns guarded n t = .ok r := by
  induction n generalizing t with
  | zero => cases h
  | succ n ih =>
    unfold turns
    unfold StagedFiles.turns at h
    rw [hturn t ht, ok_bind]
    rcases hgo : turn t with r' | t'
    · rw [hgo] at h
      cases h
      rfl
    · rw [hgo] at h
      exact ih (hkeep t t' ht hgo) h

/-! ### Reads -/

def readTurn (offset len : Nat) (l : ReadLoop σ) :
    Guarded (Turn (Except Failure (List Bytes) × Stage × σ) (ReadLoop σ)) :=
  if l.done < len then do
    let pos ← plus offset l.done
    slice ⟨l.done, len, len⟩
    let hit ← copyOut l.stage.buffer pos (len - l.done)
    if 0 < hit.length then
      let done ← plus l.done hit.length
      return .again ⟨l.stage.countHit, l.store, done, hit :: l.pieces⟩
    else
      match ← flushNow l.stage l.store with
      | (.error f, s, st) => return .over (.error f, s, st)
      | (.ok _, s, st) =>
        let s := s.countMiss
        match ← fill s.adapter pos s.capacity st with
        | (.error f, a, st) => return .over (.error f, { s with adapter := a }, st)
        | (.ok filled, a, st) =>
          let s := { s with adapter := a }
          if filled = 0 then return .over (.ok l.pieces, s, st)
          else
            slice ⟨l.done, len, len⟩
            let got ← copyOut s.buffer pos (len - l.done)
            let done ← plus l.done got.length
            if filled < s.capacity then return .over (.ok (got :: l.pieces), s, st)
            else return .again ⟨s, st, done, got :: l.pieces⟩
  else return .over (.ok l.pieces, l.stage, l.store)

/-- What a read keeps from turn to turn. -/
structure ReadInv (M : Modest σ) (l : ReadLoop σ) : Prop where
  fits : M.Fits l.store
  capacity : l.stage.capacity ≤ maxAllocation

theorem readTurn_eq (M : Modest σ) {offset len : Nat} {l : ReadLoop σ}
    (hlast : offset + len ≤ Offset.last) (h : ReadInv M l) :
    readTurn offset len l = .ok (StagedFiles.readTurn offset len l) := by
  unfold readTurn StagedFiles.readTurn
  split
  · rename_i hmore
    have hrest : slice ⟨l.done, len, len⟩ = .ok () :=
      slice_of_le (Nat.le_of_lt hmore) (Nat.le_refl len)
    have hroom : ∀ b : StagingBuffer, l.done +
        (b.copyOut (offset + l.done) (len - l.done)).length ≤ Offset.last := by
      intro b
      have := b.length_copyOut_le (offset + l.done) (len - l.done)
      omega
    have hcap0 : l.stage.buffer.capacity ≤ maxAllocation := h.capacity
    rw [plus_of_le (by omega), ok_bind, hrest, ok_bind, copyOut_eq hcap0, ok_bind]
    dsimp only
    split
    · rw [plus_of_le (hroom _)]
      rfl
    · rw [flushNow_eq, ok_bind]
      rcases hf : l.stage.flushNow l.store with ⟨f | n, s, st⟩
      · rfl
      dsimp only
      have hst : M.Fits st := M.used (Stage.flushNow_used hf) h.fits
      have hcap : s.capacity ≤ maxAllocation := (Stage.flushNow_same hf).capacity ▸ h.capacity
      have hread : fill s.countMiss.adapter (offset + l.done) s.countMiss.capacity st = _ :=
        fill_eq M hst (Nat.le_refl _)
      rw [hread, ok_bind]
      rcases hr : s.countMiss.adapter.read (offset + l.done) s.countMiss.capacity st with
        ⟨f | filled, a, st1⟩
      · rfl
      dsimp only
      have hcap1 : a.buffer.capacity ≤ maxAllocation := (Adapter.read_same hr).capacity ▸ hcap
      split
      · rfl
      · have hgot : copyOut { s.countMiss with adapter := a }.buffer (offset + l.done)
            (len - l.done) = _ := copyOut_eq hcap1 _ _
        rw [ok_bind, hgot, ok_bind, plus_of_le (hroom _), ok_bind]
        split
        · rfl
        · rfl
  · rfl

theorem ReadInv.again (M : Modest σ) {offset len : Nat} {l l' : ReadLoop σ}
    (hlast : offset + len ≤ Offset.last) (h : ReadInv M l)
    (hturn : StagedFiles.readTurn offset len l = .again l') : ReadInv M l' := by
  have hon := readTurn_again hturn
  refine ⟨(hon.delivers M.toMatching h.fits hlast).2.2, ?_⟩
  cases hon with
  | hit _ _ => exact h.capacity
  | filled _ hf hr _ _ =>
    have hsame := (Stage.flushNow_same hf).adapter.trans (Adapter.read_same hr)
    exact Nat.le_trans (Nat.le_of_eq hsame.capacity) h.capacity

/-- The pieces of a read in the order they came. -/
def readBytes (s : Stage) (st : σ) (offset len : Nat) :
    Guarded (Except Failure Bytes × Stage × σ) := do
  match ← turns (readTurn offset len) (len + 1) { stage := s, store := st } with
  | (.ok pieces, s, st) => return (.ok pieces.reverse.flatten, s, st)
  | (.error f, s, st) => return (.error f, s, st)

theorem readBytes_eq (M : Modest σ) {s : Stage} {st : σ} {offset len : Nat} (hst : M.Fits st)
    (hcap : s.capacity ≤ maxAllocation) (hlast : offset + len ≤ Offset.last) :
    readBytes s st offset len = .ok (s.readBytes st offset len) := by
  have hloop : StagedFiles.turns (StagedFiles.readTurn offset len) (len + 1)
      { stage := s, store := st } = some (s.readFrom st offset len []) :=
    turns_readTurn M.toMatching (l := { stage := s, store := st }) hst hlast (Nat.lt_succ_self len)
  have hguarded := turns_eq (fun l hl => readTurn_eq M (l := l) hlast hl)
    (fun l l' hl hturn => hl.again M hlast hturn)
    (t := { stage := s, store := st }) ⟨hst, hcap⟩ hloop
  unfold readBytes Stage.readBytes
  rw [hguarded, ok_bind]
  rcases s.readFrom st offset len [] with ⟨f | pieces, s1, st1⟩
  · rfl
  · rfl

/-! ### Writes -/

/-- How much the staged bytes and the data are together is asked only where the data follow. -/
def mustFlush (s : Stage) (pos n : Nat) : Guarded Bool :=
  if s.dirty then
    if s.buffer.stop ≠ pos then return true
    else do
      let all ← plus s.buffer.len n
      return decide (s.capacity < all)
  else return false

theorem mustFlush_eq {s : Stage} {n : Nat} (hcap : s.capacity ≤ maxAllocation)
    (hn : n ≤ maxAllocation) (pos : Nat) : mustFlush s pos n = .ok (s.mustFlush pos n) := by
  have htwice : maxAllocation + maxAllocation ≤ Offset.last := by decide
  have hlen : s.buffer.len ≤ maxAllocation := Nat.le_trans s.buffer.len_le hcap
  unfold mustFlush Stage.mustFlush
  rcases s.dirty with _ | _
  · rfl
  · rw [if_pos rfl, Bool.true_and]
    by_cases hstop : s.buffer.stop = pos
    · rw [if_neg (not_not_intro hstop), plus_of_le (by omega), ok_bind]
      simp only [hstop, ne_eq, not_true_eq_false, false_or]
      rfl
    · rw [if_pos hstop]
      simp only [hstop, ne_eq, not_false_eq_true, true_or, decide_true]
      rfl

/-- Lays as much of the data behind the bytes held as there is room for. -/
def lay (b : StagingBuffer) (data : Bytes) (done remaining : Nat) :
    Guarded (StagingBuffer × Nat) := do
  let room ← minus b.capacity b.len
  let n := min remaining room
  let high ← plus b.len n
  let stop ← plus done n
  copy ⟨b.len, high, b.capacity⟩ ⟨done, stop, data.length⟩
  let b ← sure ((b.poke b.len (Bytes.slice data done n)).setLength high)
  return (b, stop)

theorem lay_eq {b : StagingBuffer} {data : Bytes} {done n : Nat} (hcap : b.capacity ≤ maxAllocation)
    (hdata : data.length ≤ maxAllocation) (hdone : done ≤ data.length)
    (hn : min (data.length - done) (b.capacity - b.len) = n) :
    ∃ b', (b.poke b.len (Bytes.slice data done n)).setLength (b.len + n) = .ok b' ∧
      lay b data done (data.length - done) = .ok (b', done + n) := by
  have hmax : maxAllocation ≤ Offset.last := by decide
  have hlen := b.len_le
  have hfits : b.len + n ≤ (b.poke b.len (Bytes.slice data done n)).capacity := by
    show b.len + n ≤ b.capacity
    omega
  refine ⟨_, StagingBuffer.setLength_of_le hfits, ?_⟩
  unfold lay
  rw [minus_of_le hlen, ok_bind]
  dsimp only
  rw [hn, plus_of_le (by omega), ok_bind, plus_of_le (by omega), ok_bind, copy_of_slices, ok_bind,
    setLength_eq hfits]
  · rfl
  · exact slice_of_le (Nat.le_add_right ..) hfits
  · exact slice_of_le (Nat.le_add_right ..) (by dsimp only; omega)
  · dsimp only
    omega

def writeTurn (offset : Nat) (data : Bytes) (l : WriteLoop σ) :
    Guarded (Turn (Except Failure Nat × Stage × σ) (WriteLoop σ)) :=
  if l.done < data.length then do
    let pos ← plus offset l.done
    let remaining ← minus data.length l.done
    let due ← mustFlush l.stage pos remaining
    let flushed ← (if due then flushNow l.stage l.store else .ok (.ok 0, l.stage, l.store))
    match flushed with
    | (.error f, s, st) => return .over (.error f, s, st)
    | (.ok _, s, st) =>
      let b := if s.dirty then s.buffer else { s.buffer.invalidate with start := pos }
      let (b, done) ← lay b data l.done remaining
      return .again ⟨{ s.withBuffer { b with valid := true } with dirty := true }, st, done⟩
  else return .over (.ok l.done, l.stage, l.store)

theorem flushed_eq (s : Stage) (st : σ) (due : Bool) :
    (if due then flushNow s st else .ok (.ok 0, s, st)) =
      .ok (if due then s.flushNow st else (.ok 0, s, st)) := by
  cases due with
  | false => rfl
  | true => exact flushNow_eq s st

theorem capacity_of_flushed {s s' : Stage} {st st' : σ} {due : Bool} {q : Except Failure Nat}
    (h : (if due then s.flushNow st else (.ok 0, s, st)) = (q, s', st')) :
    s'.capacity = s.capacity := by
  cases due with
  | false =>
    cases h
    rfl
  | true => exact (Stage.flushNow_same h).capacity

theorem writeTurn_eq {offset : Nat} {data : Bytes} {l : WriteLoop σ}
    (hlast : offset + data.length ≤ Offset.last) (hdata : data.length ≤ maxAllocation)
    (hcap : l.stage.capacity ≤ maxAllocation) :
    writeTurn offset data l = .ok (StagedFiles.writeTurn offset data l) := by
  unfold writeTurn StagedFiles.writeTurn
  split
  · rename_i hmore
    have hdone : l.done ≤ data.length := Nat.le_of_lt hmore
    rw [plus_of_le (by omega), ok_bind, minus_of_le hdone, ok_bind,
      mustFlush_eq hcap (by omega), ok_bind, flushed_eq, ok_bind]
    dsimp only
    rcases hf : (if l.stage.mustFlush (offset + l.done) (data.length - l.done) then
      l.stage.flushNow l.store else (.ok 0, l.stage, l.store)) with ⟨f | m, s, st⟩
    · rfl
    dsimp only
    have hcap1 : s.buffer.capacity ≤ maxAllocation := (capacity_of_flushed hf).trans_le hcap
    generalize hb : (if s.dirty then s.buffer else
      { s.buffer.invalidate with start := offset + l.done }) = b
    have hcapb : b.capacity ≤ maxAllocation := by
      subst hb
      split
      · exact hcap1
      · exact hcap1
    obtain ⟨b', hset, hlay⟩ := lay_eq hcapb hdata hdone rfl
    rw [hlay, ok_bind, hset]
    rfl
  · rfl

theorem writeTurn_capacity {offset : Nat} {data : Bytes} {l l' : WriteLoop σ}
    (h : StagedFiles.writeTurn offset data l = .again l') : l'.stage.capacity = l.stage.capacity := by
  by_cases hmore : l.done < data.length
  · have hon := writeTurn_cases offset hmore
    rw [h] at hon
    cases hon with
    | joined _ _ => rfl
    | restarted _ hf => exact (Stage.flushNow_same hf).capacity
  · unfold StagedFiles.writeTurn at h
    rw [if_neg hmore] at h
    cases h

/-- The bytes of a write are staged. -/
def stageBytes (s : Stage) (st : σ) (offset : Nat) (data : Bytes) :
    Guarded (Except Failure Nat × Stage × σ) :=
  turns (writeTurn offset data) (data.length + 1) { stage := s, store := st }

theorem stageBytes_eq {s : Stage} {st : σ} {offset : Nat} {data : Bytes}
    (hlast : offset + data.length ≤ Offset.last) (hdata : data.length ≤ maxAllocation)
    (hcap : s.capacity ≤ maxAllocation) :
    stageBytes s st offset data = .ok (s.stageBytes st offset data) :=
  turns_eq (fun l hl => writeTurn_eq (l := l) hlast hdata hl)
    (fun _ _ hl hturn => (writeTurn_capacity hturn).trans_le hl) hcap
    (turns_writeTurn offset data { stage := s, store := st } (Nat.lt_succ_self _))

end Guarded

end StagedFiles
