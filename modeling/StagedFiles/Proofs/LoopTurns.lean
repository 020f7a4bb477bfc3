-- The loops of a read and of a write, one turn at a time. A loop says itself when it is
-- over: nothing in it bounds its turns. A turn of a read that goes on has delivered a byte,
-- since a fill that brings bytes leaves the first of them to copy wherever a read can ask
-- for one, and a turn of a write that goes on has staged one. So both loops are over after
-- as many turns as there are bytes, and come to what `Stage.readFrom` and
-- `Stage.stageFrom` come to.
import StagedFiles.Proofs.MatchingStores
import StagedFiles.Proofs.RecordedCalls
import StagedFiles.Proofs.MemoryKeeper

namespace StagedFiles

/-! ## Loops -/

/-- A turn of a loop leaves it with a result, or goes on. -/
inductive Turn (ρ τ : Type) where
  | over (result : ρ)
  | again (loop : τ)

/-- What a loop comes to within so many turns, when it is over by then. -/
def turns {ρ τ : Type} (turn : τ → Turn ρ τ) : Nat → τ → Option ρ
  | 0, _ => none
  | n + 1, t =>
    match turn t with
    | .over r => some r
    | .again t => turns turn n t

section Turns

variable {ρ τ : Type} {turn : τ → Turn ρ τ} {t t' : τ} {r : ρ}

theorem turns_over (h : turn t = .over r) (n : Nat) : turns turn (n + 1) t = some r := by
  unfold turns
  rw [h]

theorem turns_again (h : turn t = .again t') (n : Nat) :
    turns turn (n + 1) t = turns turn n t' := by
  conv => lhs; unfold turns
  rw [h]

end Turns

/-- A read on its way. -/
structure ReadLoop (σ : Type) where
  stage : Stage
  store : σ
  /-- How many bytes were delivered. -/
  done : Nat := 0
  /-- The pieces they came in, newest first. -/
  pieces : List Bytes := []

/-- A write on its way. -/
structure WriteLoop (σ : Type) where
  stage : Stage
  store : σ
  /-- How many bytes were staged. -/
  done : Nat := 0

section Loops

variable {σ : Type} [ObjectStore σ]

/-- A turn of a read of `len` bytes. The image is read as far as it reaches. Behind it the
buffer is filled, and a fill that comes back short is the last. -/
def readTurn (offset len : Nat) (l : ReadLoop σ) :
    Turn (Except Failure (List Bytes) × Stage × σ) (ReadLoop σ) :=
  if l.done < len then
    let pos := offset + l.done
    let hit := l.stage.buffer.copyOut pos (len - l.done)
    if 0 < hit.length then
      .again ⟨l.stage.countHit, l.store, l.done + hit.length, hit :: l.pieces⟩
    else
      match l.stage.flushNow l.store with
      | (.error f, s, st) => .over (.error f, s, st)
      | (.ok _, s, st) =>
        let s := s.countMiss
        match s.adapter.read pos s.capacity st with
        | (.error f, a, st) => .over (.error f, { s with adapter := a }, st)
        | (.ok filled, a, st) =>
          let s := { s with adapter := a }
          if filled = 0 then .over (.ok l.pieces, s, st)
          else
            let got := s.buffer.copyOut pos (len - l.done)
            if filled < s.capacity then .over (.ok (got :: l.pieces), s, st)
            else .again ⟨s, st, l.done + got.length, got :: l.pieces⟩
  else .over (.ok l.pieces, l.stage, l.store)

/-- The staged bytes have to go before data of this length can be staged at a position. -/
def Stage.mustFlush (s : Stage) (pos n : Nat) : Bool :=
  s.dirty && decide (s.buffer.stop ≠ pos ∨ s.capacity < s.buffer.len + n)

/-- A turn of a write of data. Staged bytes that the rest of the data does not follow, or
does not fit behind, are flushed. Then as much is staged as there is room. -/
def writeTurn (offset : Nat) (data : Bytes) (l : WriteLoop σ) :
    Turn (Except Failure Nat × Stage × σ) (WriteLoop σ) :=
  if l.done < data.length then
    let pos := offset + l.done
    let remaining := data.length - l.done
    let flushed :=
      if l.stage.mustFlush pos remaining then l.stage.flushNow l.store
      else (.ok 0, l.stage, l.store)
    match flushed with
    | (.error f, s, st) => .over (.error f, s, st)
    | (.ok _, s, st) =>
      let b := if s.dirty then s.buffer else { s.buffer.invalidate with start := pos }
      let n := min remaining (b.capacity - b.len)
      let b' := b.poke b.len (Bytes.slice data l.done n)
      match b'.setLength (b.len + n) with
      | .error f => .over (.error f, s.withBuffer b', st)
      | .ok b => .again ⟨{ s.withBuffer { b with valid := true } with dirty := true }, st, l.done + n⟩
  else .over (.ok l.done, l.stage, l.store)

end Loops

variable {σ : Type} [ObjectStore σ]

/-! ## A fill leaves its first byte to copy -/

/-- The image is that of `n` bytes from an offset on. -/
structure StagingBuffer.Installed (b : StagingBuffer) (offset n : Nat) : Prop where
  valid : b.valid = true
  start : b.start = offset
  len : b.len = n

/-- Such an image has its first byte to copy, but at the last offset. -/
theorem StagingBuffer.Installed.copies {b : StagingBuffer} {pos n want : Nat}
    (h : b.Installed pos n) (hn : n ≠ 0) (hlast : pos < Offset.last) (hwant : 0 < want) :
    0 < (b.copyOut pos want).length := by
  have hstop : pos < b.stop := by
    unfold StagingBuffer.stop Offset.clampedEnd
    rw [h.start, h.len]
    omega
  rw [StagingBuffer.length_copyOut, if_pos ⟨h.valid, Nat.le_of_eq h.start, hstop⟩, h.start, h.len]
  omega

namespace Adapter

variable {a a' : Adapter} {st st' : σ} {offset count n : Nat}

theorem install_installed {bytes : Bytes} (h : a.install offset bytes = (.ok n, a')) :
    a'.buffer.Installed offset n := by
  unfold install at h
  dsimp only at h
  split at h
  · cases h
  · rename_i b hset
    cases h
    refine ⟨rfl, rfl, ?_⟩
    unfold StagingBuffer.setLength at hset
    split at hset
    · cases hset
      rfl
    · cases hset

/-- A fill that comes out well leaves an image of the bytes that it counts. -/
theorem read_installed (M : Matching σ) (hst : M.Fits st)
    (h : a.read offset count st = (.ok n, a', st')) : a'.buffer.Installed offset n := by
  unfold Adapter.read submitRead at h
  rcases hcheck : a.checkCount count with f | ⟨⟩
  · rw [hcheck] at h
    cases h
  rw [hcheck] at h
  rcases hkind : a.kind with _ | _
  · unfold readNow at h
    rcases hr : ObjectStore.readAt a.fd offset count st with ⟨torn | bytes, st1⟩
    · simp only [hkind, hr, settle] at h
      cases h
    · rcases hi : a.install offset bytes with ⟨q, a1⟩
      simp only [hkind, hr, hi, settle, Prod.mk.injEq] at h
      obtain ⟨rfl, rfl, -⟩ := h
      exact install_installed hi
  · rcases hs : ObjectStore.submitRead a.fd offset count st with ⟨f | ticket, st1⟩
    · simp only [hkind, hs] at h
      cases h
    · simp only [hkind, hs, settle] at h
      rcases hw : ObjectStore.await ticket st1 with ⟨_ | c, st2⟩
      · simp only [hw] at h
        cases h
      · obtain ⟨r, rfl⟩ := M.completes hst hs hw
        rcases hfinish : a.finish offset count (.bytes r) with ⟨q, a1⟩
        simp only [hw, hfinish, Prod.mk.injEq] at h
        obtain ⟨rfl, rfl, -⟩ := h
        rcases r with f | bytes
        · cases hfinish
        · exact install_installed hfinish

end Adapter

/-! ## Turns of a read -/

section Reads

variable {l l' : ReadLoop σ} {offset len : Nat}

/-- What a turn of a read can be that goes on. -/
inductive ReadGoesOn (offset len : Nat) (l : ReadLoop σ) : ReadLoop σ → Prop where
  | hit : l.done < len →
      0 < (l.stage.buffer.copyOut (offset + l.done) (len - l.done)).length →
      ReadGoesOn offset len l
        ⟨l.stage.countHit, l.store,
          l.done + (l.stage.buffer.copyOut (offset + l.done) (len - l.done)).length,
          l.stage.buffer.copyOut (offset + l.done) (len - l.done) :: l.pieces⟩
  | filled {n filled : Nat} {s : Stage} {st st' : σ} {a : Adapter} : l.done < len →
      l.stage.flushNow l.store = (.ok n, s, st) →
      s.adapter.read (offset + l.done) s.capacity st = (.ok filled, a, st') → filled ≠ 0 →
      a.buffer.capacity ≤ filled →
      ReadGoesOn offset len l
        ⟨{ s.countMiss with adapter := a }, st',
          l.done + (a.buffer.copyOut (offset + l.done) (len - l.done)).length,
          a.buffer.copyOut (offset + l.done) (len - l.done) :: l.pieces⟩

theorem readTurn_again (h : readTurn offset len l = .again l') : ReadGoesOn offset len l l' := by
  unfold readTurn at h
  split at h
  · rename_i hmore
    dsimp only at h
    split at h
    · rename_i hhit
      cases h
      exact .hit hmore hhit
    · split at h
      · cases h
      · rename_i s st hf
        split at h
        · cases h
        · rename_i filled a st' hr
          split at h
          · cases h
          · rename_i hn
            split at h
            · cases h
            · rename_i hfull
              cases h
              exact .filled hmore hf hr hn (Nat.le_of_not_lt hfull)
  · cases h

/-- A turn that goes on has delivered a byte at least, and none that was not asked for. -/
theorem ReadGoesOn.delivers (M : Matching σ) (hst : M.Fits l.store)
    (hlast : offset + len ≤ Offset.last) (h : ReadGoesOn offset len l l') :
    l.done < l'.done ∧ l'.done ≤ len ∧ M.Fits l'.store := by
  cases h with
  | hit hmore hhit =>
    have hle := l.stage.buffer.length_copyOut_le (offset + l.done) (len - l.done)
    exact ⟨by dsimp only; omega, by dsimp only; omega, hst⟩
  | @filled n filled s st st' a hmore hf hr hn hfull =>
    have hst1 : M.Fits st := M.used (Stage.flushNow_used hf) hst
    have hcopies := (Adapter.read_installed M hst1 hr).copies hn
      (Nat.lt_of_lt_of_le (Nat.add_lt_add_left hmore offset) hlast) (Nat.sub_pos_of_lt hmore)
    have hle := a.buffer.length_copyOut_le (offset + l.done) (len - l.done)
    exact ⟨by dsimp only; omega, by dsimp only; omega, M.used (Adapter.read_used hr) hst1⟩

/-- One turn is one step of the read. -/
theorem readFrom_turn (M : Matching σ) (hst : M.Fits l.store)
    (hlast : offset + len ≤ Offset.last) :
    l.stage.readFrom l.store (offset + l.done) (len - l.done) l.pieces =
      match readTurn offset len l with
      | .over r => r
      | .again l => l.stage.readFrom l.store (offset + l.done) (len - l.done) l.pieces := by
  rw [Stage.readFrom]
  unfold readTurn
  by_cases hmore : l.done < len
  · have hpos : offset + l.done < Offset.last :=
      Nat.lt_of_lt_of_le (Nat.add_lt_add_left hmore offset) hlast
    have hwant : 0 < len - l.done := Nat.sub_pos_of_lt hmore
    rw [if_pos hmore, dif_neg (Nat.ne_of_gt hwant)]
    dsimp only
    split
    · rename_i hhit
      rw [if_pos (Nat.pos_of_ne_zero hhit)]
      dsimp only
      rw [Nat.add_assoc, Nat.sub_sub]
    · rename_i hhit
      rw [if_neg (mt Nat.ne_of_gt hhit)]
      rcases hf : l.stage.flushNow l.store with ⟨f | n, s, st⟩
      · rfl
      dsimp only
      rcases hr : s.countMiss.adapter.read (offset + l.done) s.countMiss.capacity st with
        ⟨f | filled, a, st'⟩
      · rfl
      dsimp only
      by_cases hn : filled = 0
      · rw [if_pos hn, if_pos hn]
      · rw [if_neg hn, if_neg hn]
        -- the guard against a fill that leaves nothing to copy is never needed
        have hcopies := (Adapter.read_installed M (M.used (Stage.flushNow_used hf) hst) hr).copies
          hn hpos hwant
        split
        · rename_i hshort
          rw [if_pos (hshort.resolve_right (Nat.ne_of_gt hcopies))]
        · rename_i hfull
          rw [if_neg fun hshort => hfull (.inl hshort)]
          dsimp only
          rw [Nat.add_assoc, Nat.sub_sub]
  · have hnone : len - l.done = 0 := Nat.sub_eq_zero_of_le (Nat.le_of_not_lt hmore)
    rw [if_neg hmore, dif_pos hnone]

/-- A read is over after as many turns as there are bytes left, and one to leave. -/
theorem turns_readTurn (M : Matching σ) (hst : M.Fits l.store)
    (hlast : offset + len ≤ Offset.last) {fuel : Nat} (hfuel : len - l.done < fuel) :
    turns (readTurn offset len) fuel l =
      some (l.stage.readFrom l.store (offset + l.done) (len - l.done) l.pieces) := by
  induction fuel generalizing l with
  | zero => omega
  | succ fuel ih =>
    rw [readFrom_turn M hst hlast]
    rcases hturn : readTurn offset len l with r | l'
    · exact turns_over hturn fuel
    · obtain ⟨hmore, hle, hst'⟩ := (readTurn_again hturn).delivers M hst hlast
      rw [turns_again hturn]
      exact ih hst' (by omega)

end Reads

/-! ## Turns of a write -/

section Writes

variable {s s' : Stage} {st st' : σ} {l l' : WriteLoop σ} {offset : Nat} {data : Bytes}

/-- The rest of the data follows the staged bytes and fits behind them. -/
abbrev Stage.Joins (s : Stage) (pos : Nat) (rest : Bytes) : Prop :=
  s.dirty = true ∧ s.buffer.stop = pos ∧ s.buffer.hasRoom rest = true

theorem Stage.mustFlush_of_joins {pos : Nat} {rest : Bytes} (h : s.Joins pos rest) :
    s.mustFlush pos rest.length = false := by
  obtain ⟨hd, hstop, hroom⟩ := h
  have hfits := (StagingBuffer.hasRoom_iff ..).mp hroom
  unfold mustFlush
  rw [hd, Bool.true_and, decide_eq_false_iff_not, not_or, not_not, Nat.not_lt]
  exact ⟨hstop, hfits⟩

/-- Where it does not, a turn flushes what is staged. -/
theorem Stage.flush_of_apart {pos : Nat} {rest : Bytes} (h : ¬ s.Joins pos rest) (st : σ) :
    (if s.mustFlush pos rest.length then s.flushNow st else (.ok 0, s, st)) = s.flushNow st := by
  rcases hd : s.dirty with _ | _
  · rw [flushNow_clean st hd, ite_self]
  · rw [if_pos]
    unfold mustFlush
    rw [hd, Bool.true_and, decide_eq_true_iff]
    by_contra hnot
    rw [not_or, not_not, Nat.not_lt] at hnot
    exact h ⟨hd, hnot.1, (StagingBuffer.hasRoom_iff ..).mpr hnot.2⟩

theorem Stage.flushNow_leaves_clean {n : Nat} (h : s.flushNow st = (.ok n, s', st')) :
    s'.dirty = false := by
  cases flushNow_cases h with
  | clean hd => exact hd
  | whole _ _ _ => rfl

theorem Stage.withBuffer_dirty (hd : s.dirty = true) (b : StagingBuffer) :
    ({ s.withBuffer b with dirty := true } : Stage) = s.withBuffer b := by
  unfold withBuffer
  rw [hd]

/-- What a turn of a write can come to while there are data left. -/
inductive WriteTurns (offset : Nat) (data : Bytes) (l : WriteLoop σ) :
    Turn (Except Failure Nat × Stage × σ) (WriteLoop σ) → Prop where
  | joined (hroom : l.stage.buffer.len + (data.drop l.done).length ≤ l.stage.buffer.capacity) :
      l.stage.Joins (offset + l.done) (data.drop l.done) →
      WriteTurns offset data l
        (.again ⟨l.stage.withBuffer (l.stage.buffer.append (data.drop l.done) hroom), l.store,
          data.length⟩)
  | failed {f : Failure} {s : Stage} {st : σ} :
      ¬ l.stage.Joins (offset + l.done) (data.drop l.done) →
      l.stage.flushNow l.store = (.error f, s, st) →
      WriteTurns offset data l (.over (.error f, s, st))
  | restarted {n : Nat} {s : Stage} {st : σ} :
      ¬ l.stage.Joins (offset + l.done) (data.drop l.done) →
      l.stage.flushNow l.store = (.ok n, s, st) →
      WriteTurns offset data l
        (.again ⟨s.restarted (offset + l.done) ((data.drop l.done).take s.buffer.capacity)
            (List.length_take_le ..), st,
          l.done + ((data.drop l.done).take s.buffer.capacity).length⟩)

theorem StagingBuffer.setLength_of_le {b : StagingBuffer} {n : Nat} (h : n ≤ b.capacity) :
    b.setLength n = .ok { b with len := n, len_le := h } := dif_pos h

theorem writeTurn_cases (offset : Nat) (hmore : l.done < data.length) :
    WriteTurns offset data l (writeTurn offset data l) := by
  have hrest : data.length - l.done = (data.drop l.done).length := List.length_drop.symm
  unfold writeTurn
  rw [if_pos hmore]
  dsimp only
  rw [hrest]
  by_cases hjoins : l.stage.Joins (offset + l.done) (data.drop l.done)
  · have hroom := (StagingBuffer.hasRoom_iff ..).mp hjoins.2.2
    have hall : min (data.drop l.done).length (l.stage.buffer.capacity - l.stage.buffer.len) =
        (data.drop l.done).length := Nat.min_eq_left (by omega)
    have hslice : Bytes.slice data l.done (data.drop l.done).length = data.drop l.done :=
      List.take_length
    have hdone : l.done + (data.drop l.done).length = data.length := by omega
    rw [Stage.mustFlush_of_joins hjoins, if_neg Bool.false_ne_true]
    dsimp only
    have hfits : l.stage.buffer.len + (data.drop l.done).length ≤
      (l.stage.buffer.poke l.stage.buffer.len (data.drop l.done)).capacity := hroom
    rw [if_pos hjoins.1, hall, hslice, StagingBuffer.setLength_of_le hfits, hdone]
    dsimp only
    rw [Stage.withBuffer_dirty hjoins.1]
    exact .joined hroom hjoins
  · rw [Stage.flush_of_apart hjoins]
    rcases hf : l.stage.flushNow l.store with ⟨f | n, s, st⟩
    · exact .failed hjoins hf
    · let piece := (data.drop l.done).take s.buffer.capacity
      have hn : min (data.drop l.done).length s.buffer.capacity = piece.length := by
        rw [Nat.min_comm, List.length_take]
      have hslice : Bytes.slice data l.done piece.length = piece :=
        (Bytes.hasAt_iff.mp (List.take_prefix ..)).symm
      have hfits : piece.length ≤ s.buffer.capacity := List.length_take_le ..
      dsimp only [StagingBuffer.invalidate]
      rw [if_neg (by rw [Stage.flushNow_leaves_clean hf]; exact Bool.false_ne_true)]
      dsimp only
      rw [Nat.sub_zero, hn, hslice, Nat.zero_add, StagingBuffer.setLength_of_le]
      · exact .restarted hjoins hf
      · exact hfits

/-- The bytes of a turn that goes on are the last of the image, and are staged. -/
structure Stages (offset : Nat) (data : Bytes) (l l' : WriteLoop σ) : Prop where
  more : l.done < l'.done
  le : l'.done ≤ data.length
  dirty : l'.stage.dirty = true
  image : Bytes.slice data l.done (l'.done - l.done) <:+ l'.stage.buffer.image

/-- A turn that goes on has staged a byte at least. -/
theorem WriteTurns.stages (hmore : l.done < data.length)
    (h : WriteTurns offset data l (.again l')) : Stages offset data l l' := by
  have hlen : (data.drop l.done).length = data.length - l.done := List.length_drop
  generalize hturn : Turn.again l' = turn at h
  cases h with
  | joined hroom hjoins =>
    cases hturn
    refine ⟨hmore, Nat.le_refl _, hjoins.1, ?_⟩
    show Bytes.slice data l.done (data.length - l.done) <:+
      (l.stage.buffer.append (data.drop l.done) hroom).image
    rw [StagingBuffer.image_append, ← hlen]
    have hslice : Bytes.slice data l.done (data.drop l.done).length = data.drop l.done :=
      List.take_length
    exact ⟨_, congrArg (l.stage.buffer.image ++ ·) hslice⟩
  | failed => cases hturn
  | @restarted n s st hjoins hf =>
    cases hturn
    have hcap := s.buffer.capacity_pos
    have hpiece : ((data.drop l.done).take s.buffer.capacity).length =
        min s.buffer.capacity (data.length - l.done) := by rw [List.length_take, hlen]
    refine ⟨by dsimp only; omega, by dsimp only; omega, rfl, ?_⟩
    show Bytes.slice data l.done (l.done + _ - l.done) <:+ (s.buffer.restart _ _ _).image
    rw [StagingBuffer.image_restart, Nat.add_sub_cancel_left]
    exact ⟨[], (Bytes.hasAt_iff.mp (List.take_prefix ..)).symm⟩

/-- One turn is one step of the write. -/
theorem stageFrom_turn (offset : Nat) (data : Bytes) (l : WriteLoop σ) :
    l.stage.stageFrom l.store (offset + l.done) (data.drop l.done) l.done =
      match writeTurn offset data l with
      | .over r => r
      | .again l => l.stage.stageFrom l.store (offset + l.done) (data.drop l.done) l.done := by
  rw [Stage.stageFrom]
  by_cases hmore : l.done < data.length
  · have hne : data.drop l.done ≠ [] := by
      rw [ne_eq, List.drop_eq_nil_iff]
      omega
    rw [dif_neg hne]
    have hlen : (data.drop l.done).length = data.length - l.done := List.length_drop
    have hon := writeTurn_cases offset hmore
    generalize writeTurn offset data l = turn at hon ⊢
    cases hon with
    | joined hroom hjoins =>
      rw [dif_pos hjoins]
      dsimp only
      rw [List.drop_length, Stage.stageFrom, dif_pos rfl, hlen,
        Nat.add_sub_of_le (Nat.le_of_lt hmore)]
    | failed hjoins hf =>
      rw [dif_neg hjoins, hf]
    | restarted hjoins hf =>
      rw [dif_neg hjoins, hf]
      dsimp only
      rw [List.drop_drop, Nat.add_assoc]
      rfl
  · have hnil : data.drop l.done = [] := List.drop_eq_nil_iff.mpr (Nat.le_of_not_lt hmore)
    unfold writeTurn
    rw [dif_pos hnil, if_neg hmore]

/-- A write is over after as many turns as there are bytes left, and one to leave. -/
theorem turns_writeTurn (offset : Nat) (data : Bytes) (l : WriteLoop σ) {fuel : Nat}
    (hfuel : data.length - l.done < fuel) :
    turns (writeTurn offset data) fuel l =
      some (l.stage.stageFrom l.store (offset + l.done) (data.drop l.done) l.done) := by
  induction fuel generalizing l with
  | zero => omega
  | succ fuel ih =>
    rw [stageFrom_turn]
    rcases hturn : writeTurn offset data l with r | l'
    · exact turns_over hturn fuel
    · rw [turns_again hturn]
      by_cases hmore : l.done < data.length
      · have hon := writeTurn_cases offset hmore
        rw [hturn] at hon
        have hstaged := (hon.stages hmore).more
        exact ih l' (by omega)
      · unfold writeTurn at hturn
        rw [if_neg hmore] at hturn
        cases hturn

end Writes

/-! ## What the loops cost -/

section Costs

open Recorded

variable {t t' : Recorded σ} {s s' : Stage}

namespace Adapter

variable {a a' : Adapter} {offset count : Nat}

theorem read_costs {r : Except Failure Nat} (hcap : count ≤ a.buffer.capacity)
    (h : a.read offset count t = (r, a', t')) : Costs 1 0 t t' :=
  ⟨_, read_transfers hcap h, Nat.le_refl 1, Nat.le_refl 0⟩

theorem submitRead_costs {r : Except Failure (Started (Except Failure Nat))}
    (h : a.submitRead offset count t = (r, a', t')) : Costs 1 0 t t' := by
  unfold submitRead at h
  split at h
  · cases h
    exact .nothing ..
  · split at h
    · unfold readNow at h
      rcases hr : ObjectStore.readAt a.fd offset count t with ⟨torn | bytes, t1⟩
      · rw [hr] at h
        cases h
        exact .of_read (congrArg Prod.snd hr) rfl
      · rw [hr] at h
        cases h
        exact .of_read (congrArg Prod.snd hr) rfl
    · split at h
      · rename_i hs
        cases h
        exact .of_read (congrArg Prod.snd hs) rfl
      · rename_i hs
        cases h
        exact .of_read (congrArg Prod.snd hs) rfl

theorem submitWrite_costs {r : Except Failure (Started (Except Failure Nat))}
    (h : a.submitWrite offset count t = (r, a', t')) : Costs 0 1 t t' := by
  unfold submitWrite at h
  split at h
  · cases h
    exact .nothing ..
  · split at h
    · unfold writeNow at h
      rcases hw : ObjectStore.writeAt a.fd offset (a.buffer.peek 0 count) t with ⟨f | n, t1⟩
      · rw [hw] at h
        cases h
        exact .of_write (congrArg Prod.snd hw) rfl
      · rw [hw] at h
        cases h
        exact .of_write (congrArg Prod.snd hw) rfl
    · split at h
      · rename_i hs
        cases h
        exact .of_write (congrArg Prod.snd hs) rfl
      · rename_i hs
        cases h
        exact .of_write (congrArg Prod.snd hs) rfl

end Adapter

namespace Stage

/-- A flush tries one write when something is staged. -/
theorem flushNow_costs {r : Except Failure Nat} (h : s.flushNow t = (r, s', t')) :
    Costs 0 s.dirty.toNat t t' := by
  rcases hd : s.dirty with _ | _
  · rw [flushNow_clean t hd] at h
    cases h
    exact .nothing ..
  · exact ⟨_, (flushNow_sent hd h).transfers, by simp [Job.isRead], by simp [Job.isRead]⟩

/-- Flush, then a fill of the buffer. -/
theorem flushed_costs {s1 : Stage} {t1 : Recorded σ} {a : Adapter} {n pos : Nat}
    {r : Except Failure Nat} (hf : s.flushNow t = (.ok n, s1, t1))
    (hr : s1.countMiss.adapter.read pos s1.countMiss.capacity t1 = (r, a, t')) :
    Costs 1 s.dirty.toNat t t' :=
  ((flushNow_costs hf).andThen (Adapter.read_costs (Nat.le_refl _) hr)).mono (Nat.le_refl _)
    (Nat.le_refl _)

/-- A read fills the buffer once for each byte at most, and flushes once at most. -/
theorem readFrom_costs {pos want : Nat} {pieces : List Bytes} {r : Except Failure (List Bytes)}
    (h : s.readFrom t pos want pieces = (r, s', t')) : Costs want s.dirty.toNat t t' := by
  fun_induction Stage.readFrom s t pos want pieces with
  | case1 s t pos pieces =>
    cases h
    exact .nothing ..
  | case2 s t pos want pieces hw hit hh ih =>
    exact (ih h).mono (Nat.sub_le ..) (Nat.le_refl _)
  | case3 s t pos want pieces hw hit hh f s1 t1 hf =>
    cases h
    exact (flushNow_costs hf).mono (Nat.zero_le _) (Nat.le_refl _)
  | case4 s t pos want pieces hw hit hh n s1 t1 hf missed f a t2 hr =>
    cases h
    exact (flushed_costs hf hr).mono (Nat.pos_of_ne_zero hw) (Nat.le_refl _)
  | case5 s t pos want pieces hw hit hh n s1 t1 hf missed a t2 filled hr =>
    obtain ⟨_, _, rfl⟩ := by simpa only [Prod.mk.injEq] using h
    exact (flushed_costs hf hr).mono (Nat.pos_of_ne_zero hw) (Nat.le_refl _)
  | case6 s t pos want pieces hw hit hh n s1 t1 hf missed count a t2 hr filled hn got hg =>
    obtain ⟨_, _, rfl⟩ := by simpa only [Prod.mk.injEq] using h
    exact (flushed_costs hf hr).mono (Nat.pos_of_ne_zero hw) (Nat.le_refl _)
  | case7 s t pos want pieces hw hit hh n s1 t1 hf missed count a t2 hr filled hn got hg ih =>
    -- the flush before the fill leaves nothing staged for the turns that come
    have hrest := ih h
    have hclean : filled.dirty.toNat = 0 := congrArg Bool.toNat (flushNow_leaves_clean hf)
    rw [hclean] at hrest
    exact ((flushed_costs hf hr).andThen hrest).mono (by omega) (Nat.le_refl _)

/-- A write flushes once for each byte at most. -/
theorem stageFrom_costs {pos done : Nat} {data : Bytes} {r : Except Failure Nat}
    (h : s.stageFrom t pos data done = (r, s', t')) : Costs 0 data.length t t' := by
  fun_induction Stage.stageFrom s t pos data done with
  | case1 s t pos done =>
    cases h
    exact .nothing ..
  | case2 s t pos data done hd hj b =>
    cases h
    exact .nothing ..
  | case3 s t pos data done hd hj f s1 t1 hf =>
    cases h
    have hpos := List.length_pos_iff.mpr hd
    have hone := s.dirty.toNat_le
    exact (flushNow_costs hf).mono (Nat.le_refl _) (by omega)
  | case4 s t pos data done hd hj n s1 t1 hf b piece fits taken started ih =>
    have hone := s.dirty.toNat_le
    have hrest := ih h
    rw [List.length_drop] at hrest
    have hle : piece.length ≤ data.length := List.length_take_le' ..
    exact ((flushNow_costs hf).andThen hrest).mono (Nat.le_refl _) (by omega)

end Stage

end Costs

/-! ## What requests cost -/

section Requests

variable {t t' : Recorded σ} {s s' : Stage} {offset len : Nat} {data : Bytes}

namespace Stage

theorem readBytes_costs {r : Except Failure Bytes} (h : s.readBytes t offset len = (r, s', t')) :
    t.Costs len 1 t' := by
  have hone := s.dirty.toNat_le
  unfold readBytes at h
  split at h
  · rename_i hr
    cases h
    exact (readFrom_costs hr).mono (Nat.le_refl _) hone
  · rename_i hr
    cases h
    exact (readFrom_costs hr).mono (Nat.le_refl _) hone

theorem read_costs {r : Except Failure Bytes} (h : s.read offset len t = (r, s', t')) :
    t.Costs len 1 t' := by
  unfold Stage.read at h
  split at h
  · cases h
    exact .nothing ..
  · cases h
    exact .nothing ..
  · exact readBytes_costs h

theorem write_costs {r : Except Failure Nat} (h : s.write offset data t = (r, s', t')) :
    t.Costs 0 data.length t' := by
  unfold Stage.write at h
  split at h
  · cases h
    exact .nothing ..
  · cases h
    exact .nothing ..
  · exact stageFrom_costs h

variable {r : Except Failure (Started Completion)}

/-- A read that is handed in costs no more than one that is waited for, but when it asks for
nothing: then it may fill the buffer all the same. -/
theorem readAio_costs (hlen : 0 < len) (h : s.readAio offset len t = (r, s', t')) :
    t.Costs len 1 t' := by
  have hone := s.dirty.toNat_le
  have hstarts : ∀ {n : Nat} {s1 : Stage} {a : Adapter} {t1 t' : Recorded σ} {q},
      s.flushNow t = (.ok n, s1, t1) → s1.adapter.submitRead offset s1.capacity t1 = (q, a, t') →
      t.Costs len 1 t' := fun hf hs =>
    ((flushNow_costs hf).andThen (Adapter.submitRead_costs hs)).mono (by omega) (by omega)
  cases readAio_cases h with
  | beyond _ => exact .nothing ..
  | busy _ _ => exact .nothing ..
  | hit _ _ => exact .nothing ..
  | large _ _ hr _ => exact readBytes_costs hr
  | unflushed _ hf => exact (flushNow_costs hf).mono (Nat.zero_le _) hone
  | refused _ hf hs => exact hstarts hf hs
  | submitted _ hf hs => exact hstarts hf hs
  | inline _ hf hs => exact hstarts hf hs

/-- A write that is handed in costs one more: its own, or the flush at its end. -/
theorem writeAio_costs (hdata : 0 < data.length) (h : s.writeAio offset data t = (r, s', t')) :
    t.Costs 0 (data.length + 1) t' := by
  have hone := s.dirty.toNat_le
  have hends : ∀ {s1 s2 : Stage} {t1 t' : Recorded σ} {q q'},
      s.stageBytes t offset data = (q, s1, t1) → s1.flushNow t1 = (q', s2, t') →
      t.Costs 0 (data.length + 1) t' := fun {s1 _ _ _ _ _} hw hf =>
    ((stageFrom_costs hw).andThen (flushNow_costs hf)).mono (Nat.le_refl _)
      (Nat.add_le_add_left s1.dirty.toNat_le _)
  have hstarts : ∀ {n : Nat} {s1 : Stage} {a a' : Adapter} {t1 t' : Recorded σ} {q},
      s.flushNow t = (.ok n, s1, t1) → a.submitWrite offset data.length t1 = (q, a', t') →
      t.Costs 0 (data.length + 1) t' := fun hf hs =>
    ((flushNow_costs hf).andThen (Adapter.submitWrite_costs hs)).mono (Nat.le_refl _) (by omega)
  cases writeAio_cases h with
  | beyond _ => exact .nothing ..
  | busy _ _ => exact .nothing ..
  | unstaged _ _ _ hw => exact (stageFrom_costs hw).mono (Nat.le_refl _) (Nat.le_succ _)
  | unwritten _ _ _ hw hf => exact hends hw hf
  | large _ _ _ hw hf => exact hends hw hf
  | unflushed _ hf => exact (flushNow_costs hf).mono (Nat.le_refl _) (by omega)
  | refused _ _ hf hs => exact hstarts hf hs
  | submitted _ _ hf hs => exact hstarts hf hs
  | inline _ _ hf hs => exact hstarts hf hs

end Stage

end Requests

/-! ## The loops end -/

/-- The loop of a read ends, whatever the store does. -/
structure ReadEnds (M : Matching σ) (offset len : Nat) : Prop where
  delivers : ∀ l l' : ReadLoop σ, M.Fits l.store → readTurn offset len l = .again l' →
    l.done < l'.done ∧ l'.done ≤ len
  ends : ∀ s st, M.Fits st → turns (readTurn offset len) (len + 1) { stage := s, store := st } =
    some (s.readFrom st offset len [])
  /-- A request takes as many fills as it has bytes at most. -/
  costs : ∀ (s : Stage) (t : Recorded σ),
    t.Costs len 1 (s.read offset len t).2.2 ∧
      (0 < len → t.Costs len 1 (s.readAio offset len t).2.2)

/-- The loop of a write ends, whatever the store does. -/
structure WriteEnds (σ : Type) [ObjectStore σ] (offset : Nat) (data : Bytes) : Prop where
  stages : ∀ l : WriteLoop σ, l.done < data.length →
    (∃ f s st, writeTurn offset data l = .over (.error f, s, st)) ∨
      ∃ l', writeTurn offset data l = .again l' ∧ Stages offset data l l'
  ends : ∀ (s : Stage) (st : σ),
    turns (writeTurn offset data) (data.length + 1) { stage := s, store := st } =
      some (s.stageFrom st offset data 0)
  /-- A request takes as many flushes as it has bytes, and one more to end, at most. -/
  costs : ∀ (s : Stage) (t : Recorded σ),
    t.Costs 0 data.length (s.write offset data t).2.2 ∧
      (0 < data.length → t.Costs 0 (data.length + 1) (s.writeAio offset data t).2.2)

/-- Of every stage and over every store, the loops of reads and writes end: each turn that
goes on has delivered or staged a byte. A fill that brought bytes has some to copy. -/
theorem reads_and_writes_end (M : Matching σ) (offset : Nat) :
    (∀ len, offset + len ≤ Offset.last → ReadEnds M offset len) ∧
    (∀ data : Bytes, WriteEnds σ offset data) ∧
    ∀ (a a' : Adapter) (st st' : σ) (count n want : Nat), M.Fits st → offset < Offset.last →
      a.read offset count st = (.ok n, a', st') → 0 < n → 0 < want →
      0 < (a'.buffer.copyOut offset want).length := by
  refine ⟨fun len hlast => ?_, fun data => ?_, ?_⟩
  · refine ⟨fun l l' hst hturn => ?_, fun s st hst => ?_, fun s t => ?_⟩
    · obtain ⟨hmore, hle, -⟩ := (readTurn_again hturn).delivers M hst hlast
      exact ⟨hmore, hle⟩
    · exact turns_readTurn M (l := { stage := s, store := st }) hst hlast (Nat.lt_succ_self len)
    · exact ⟨Stage.read_costs rfl, fun hlen => Stage.readAio_costs hlen rfl⟩
  · refine ⟨fun l hmore => ?_, fun s st => ?_, fun s t => ?_⟩
    · have hon := writeTurn_cases offset hmore
      rcases hturn : writeTurn offset data l with ⟨f | n, s, st⟩ | l'
      · exact .inl ⟨f, s, st, rfl⟩
      · rw [hturn] at hon
        cases hon
      · rw [hturn] at hon
        exact .inr ⟨l', rfl, hon.stages hmore⟩
    · exact turns_writeTurn offset data { stage := s, store := st } (Nat.lt_succ_self _)
    · exact ⟨Stage.write_costs rfl, fun hdata => Stage.writeAio_costs hdata rfl⟩
  · intro a a' st st' count n want hst hlast hr hn hwant
    exact (Adapter.read_installed M hst hr).copies (Nat.ne_of_gt hn) hlast hwant

/-- A store that parks what is handed in, with an object of ten bytes. -/
def tenBytes : MemoryStore := .single .deferred .readWrite [0, 1, 2, 3, 4, 5, 6, 7, 8, 9]

/-- Four bytes at a time, nine are read with three fills and six are staged with a flush. -/
theorem nine_bytes_are_read_and_six_staged :
    (∃ s st, Stage.small.readFrom tenBytes 1 9 [] =
      (.ok [[9], [5, 6, 7, 8], [1, 2, 3, 4]], s, st)) ∧
    (∃ s st, Stage.small.stageFrom tenBytes 1 [1, 2, 3, 4, 5, 6] 0 = (.ok 6, s, st)) ∧
    Recorded.Costs 9 1 { inner := tenBytes }
      (Stage.small.readAio 1 9 { inner := tenBytes }).2.2 ∧
    Recorded.Costs 0 7 { inner := tenBytes }
      (Stage.small.writeAio 1 [1, 2, 3, 4, 5, 6] { inner := tenBytes }).2.2 ∧
    ∃ a st, Stage.small.adapter.read 1 4 tenBytes = (.ok 4, a, st) ∧
      0 < (a.buffer.copyOut 1 9).length := by
  have hst : MemoryStore.matching.Fits tenBytes :=
    ⟨fun _ hx => absurd hx List.not_mem_nil, fun _ hx => absurd hx List.not_mem_nil⟩
  obtain ⟨hreads, hwrites, hfills⟩ := reads_and_writes_end MemoryStore.matching 1
  have hread := hreads 9 (by decide)
  have hwrite := hwrites [1, 2, 3, 4, 5, 6]
  have hten : ∃ s st, turns (readTurn 1 9) 10 { stage := .small, store := tenBytes } =
      some (.ok [[9], [5, 6, 7, 8], [1, 2, 3, 4]], s, st) := ⟨_, _, rfl⟩
  have hseven : ∃ s st,
      turns (writeTurn 1 [1, 2, 3, 4, 5, 6]) 7 { stage := .small, store := tenBytes } =
        some (.ok 6, s, st) := ⟨_, _, rfl⟩
  have hfill : ∃ a st, Stage.small.adapter.read 1 4 tenBytes = (.ok 4, a, st) := ⟨_, _, rfl⟩
  obtain ⟨s, st, hten⟩ := hten
  obtain ⟨s', st', hseven⟩ := hseven
  obtain ⟨a, st1, hfill⟩ := hfill
  refine ⟨⟨s, st, Option.some.inj ((hread.ends _ _ hst).symm.trans hten)⟩,
    ⟨s', st', Option.some.inj ((hwrite.ends _ _).symm.trans hseven)⟩, ?_, ?_, ?_⟩
  · exact (hread.costs _ _).2 (by decide)
  · exact (hwrite.costs _ _).2 (by decide)
  · exact ⟨a, st1, hfill, hfills _ _ _ _ 4 4 9 hst (by decide) hfill (by decide) (by decide)⟩

end StagedFiles
