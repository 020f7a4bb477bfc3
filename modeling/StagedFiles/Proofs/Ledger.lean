-- The requests of one file, counted. A ledger notes for each request that was
-- handed in whether it was taken, how it came out, and what the store still
-- owes. Whatever the store does, a request that was taken comes out once, one
-- that was refused never, at most one is out, and the bytes of the answers are
-- those that the stage counted.
import StagedFiles.Proofs.StageRequests
import StagedFiles.Store.Memory

namespace StagedFiles

/-! ## What a request counts -/

/-- The bytes that a read brought its caller. -/
def Completion.readCount : Completion → Nat
  | .bytes (.ok data) => data.length
  | _ => 0

/-- The bytes of a write that went. -/
def Completion.writeCount : Completion → Nat
  | .count (.ok n) => n
  | _ => 0

theorem Counter.plus_zero (c : Counter) : Counter.plus c 0 = c := UInt64.add_zero c

namespace Stage

/-- The step counted the bytes of this completion. -/
structure Counts (s s' : Stage) (c : Completion) : Prop where
  reads : s'.stats.aioReadBytes = Counter.plus s.stats.aioReadBytes c.readCount
  writes : s'.stats.aioWriteBytes = Counter.plus s.stats.aioWriteBytes c.writeCount

/-- The step counted no bytes of any completion. -/
structure CountsNothing (s s' : Stage) : Prop where
  reads : s'.stats.aioReadBytes = s.stats.aioReadBytes
  writes : s'.stats.aioWriteBytes = s.stats.aioWriteBytes

variable {s s' s1 : Stage} {c : Completion}

theorem Same.countsNothing (h : s.Same s') : s.CountsNothing s' :=
  ⟨h.aioReadBytes, h.aioWriteBytes⟩

theorem Counts.after (h : s1.Counts s' c) (h1 : s.CountsNothing s1) : s.Counts s' c := by
  refine ⟨?_, ?_⟩
  · rw [h.reads, h1.reads]
  · rw [h.writes, h1.writes]

/-- A completion that failed has nothing to count. -/
theorem CountsNothing.counts (h : s.CountsNothing s') (hr : c.readCount = 0)
    (hw : c.writeCount = 0) : s.Counts s' c := by
  refine ⟨?_, ?_⟩
  · rw [h.reads, hr, Counter.plus_zero]
  · rw [h.writes, hw, Counter.plus_zero]

theorem counts_read (s : Stage) (bytes : Bytes) :
    s.Counts (s.countAioRead bytes.length) (.bytes (.ok bytes)) :=
  ⟨rfl, (Counter.plus_zero _).symm⟩

theorem counts_write (s : Stage) (n : Nat) : s.Counts (s.countAioWrite n) (.count (.ok n)) :=
  ⟨(Counter.plus_zero _).symm, rfl⟩

theorem answerRead_counts {offset len : Nat} {q : Except Failure Nat}
    (h : s.answerRead offset len q = (c, s')) : s'.inflight = s.inflight ∧ s.Counts s' c := by
  unfold answerRead at h
  split at h
  · cases h
    exact ⟨rfl, counts_read s _⟩
  · cases h
    exact ⟨rfl, (Same.refl _).countsNothing.counts rfl rfl⟩

theorem answerWrite_counts {len : Nat} {q : Except Failure Nat}
    (h : s.answerWrite len q = (c, s')) : s'.inflight = s.inflight ∧ s.Counts s' c := by
  unfold answerWrite at h
  split at h
  · rename_i n
    have hcounts := counts_write s n
    dsimp only at h
    split at h
    · cases h
      exact ⟨rfl, ⟨hcounts.reads, hcounts.writes⟩⟩
    · cases h
      exact ⟨rfl, hcounts⟩
  · cases h
    exact ⟨rfl, (Same.refl _).countsNothing.counts rfl rfl⟩

/-! ## How a request begins and ends -/

variable {σ : Type} [ObjectStore σ] {st st' : σ} {r : Except Failure (Started Completion)}

/-- How a request begins on a stage with none out. Refused, it leaves nothing.
Over at once, it was counted. Taken by the store, it is out. -/
inductive Begun (s : Stage) : Except Failure (Started Completion) → Stage → Prop where
  | refused {f : Failure} {s' : Stage} : s'.inflight.requests = [] → s.CountsNothing s' →
      Begun s (.error f) s'
  | ended {c : Completion} {s' : Stage} : s'.inflight.requests = [] → s.Counts s' c →
      Begun s (.ok (.finished c)) s'
  | out {ticket : Ticket} {request : AioRequest} {s' : Stage} :
      s'.inflight.requests = [request] → s.CountsNothing s' → Begun s (.ok (.submitted ticket)) s'

theorem Same.requests (h : s.Same s') (hidle : s.inflight.requests = []) :
    s'.inflight.requests = [] := by
  rw [h.inflight]
  exact hidle

theorem readAio_begun {offset len : Nat} (hidle : s.inflight.requests = [])
    (h : s.readAio offset len st = (r, s', st')) : s.Begun r s' := by
  cases readAio_cases h with
  | beyond _ => exact .refused hidle ⟨rfl, rfl⟩
  | busy _ _ => exact .refused hidle ⟨rfl, rfl⟩
  | hit _ _ => exact .ended hidle ((counts_read _ _).after ⟨rfl, rfl⟩)
  | @large q s1 _ _ _ _ hr hs' =>
    have hsame := readBytes_same hr
    subst hs'
    cases q with
    | error f => exact .ended (hsame.requests hidle) (hsame.countsNothing.counts rfl rfl)
    | ok bytes =>
      exact .ended (hsame.requests hidle) ((counts_read s1 bytes).after hsame.countsNothing)
  | unflushed _ hf =>
    have hsame := flushNow_same hf
    exact .refused (hsame.requests hidle) hsame.countsNothing
  | refused _ hf _ =>
    have hnothing := (flushNow_same hf).countsNothing
    exact .refused rfl ⟨hnothing.reads, hnothing.writes⟩
  | submitted _ hf _ =>
    have hnothing := (flushNow_same hf).countsNothing
    exact .out rfl ⟨hnothing.reads, hnothing.writes⟩
  | @inline n q s1 a st1 _ _ hf _ =>
    have hnothing := (flushNow_same hf).countsNothing
    rcases ha : ((s1.asked offset len).released a).answerRead offset len q with ⟨c, s2⟩
    obtain ⟨hinflight, hcounts⟩ := answerRead_counts ha
    refine .ended ?_ (hcounts.after ⟨hnothing.reads, hnothing.writes⟩)
    show s2.inflight.requests = []
    rw [hinflight]
    rfl

theorem writeAio_begun {offset : Nat} {data : Bytes} (hidle : s.inflight.requests = [])
    (h : s.writeAio offset data st = (r, s', st')) : s.Begun r s' := by
  cases writeAio_cases h with
  | beyond _ => exact .refused hidle ⟨rfl, rfl⟩
  | busy _ _ => exact .refused hidle ⟨rfl, rfl⟩
  | unstaged _ _ _ hw =>
    have hsame := stageFrom_same hw
    exact .ended (hsame.requests hidle) (hsame.countsNothing.counts rfl rfl)
  | unwritten _ _ _ hw hf =>
    have hsame := (stageFrom_same hw).trans (flushNow_same hf)
    exact .ended (hsame.requests hidle) (hsame.countsNothing.counts rfl rfl)
  | large _ _ _ hw hf =>
    have hsame := (stageFrom_same hw).trans (flushNow_same hf)
    exact .ended (hsame.requests hidle) ((counts_write _ _).after hsame.countsNothing)
  | unflushed _ hf =>
    have hsame := flushNow_same hf
    exact .refused (hsame.requests hidle) hsame.countsNothing
  | refused _ _ hf _ =>
    have hnothing := (flushNow_same hf).countsNothing
    exact .refused rfl ⟨hnothing.reads, hnothing.writes⟩
  | submitted _ _ hf _ =>
    have hnothing := (flushNow_same hf).countsNothing
    exact .out rfl ⟨hnothing.reads, hnothing.writes⟩
  | @inline n q s1 a st1 _ hcap _ hf _ =>
    have hnothing := (flushNow_same hf).countsNothing
    rcases ha : ((s1.loaded offset data hcap).released a).answerWrite data.length q with ⟨c, s2⟩
    obtain ⟨hinflight, hcounts⟩ := answerWrite_counts ha
    refine .ended ?_ (hcounts.after ⟨hnothing.reads, hnothing.writes⟩)
    show s2.inflight.requests = []
    rw [hinflight]
    rfl

/-- The completion of the oldest request is counted. -/
theorem complete_counts {request : AioRequest} {rest : List AioRequest} {answer : Completion}
    (hreq : s.inflight.requests = request :: rest) (h : s.complete c = (answer, s')) :
    s.Counts s' answer := by
  unfold complete at h
  rw [hreq] at h
  cases request with
  | read offset len =>
    dsimp only at h
    rcases hf : s.adapter.finish offset s.capacity c with ⟨q, a⟩
    rw [hf] at h
    unfold Stage.answer at h
    dsimp only at h
    rw [hreq] at h
    exact (answerRead_counts h).2.after ⟨rfl, rfl⟩
  | write offset len =>
    dsimp only at h
    rcases hf : s.adapter.finish offset len c with ⟨q, a⟩
    rw [hf] at h
    unfold Stage.answer at h
    dsimp only at h
    rw [hreq] at h
    exact (answerWrite_counts h).2.after ⟨rfl, rfl⟩

/-- The completion of the request that is out ends it, and its answer is counted. -/
theorem complete_ends {request : AioRequest} {answer : Completion}
    (hreq : s.inflight.requests = [request]) (h : s.complete c = (answer, s')) :
    s'.inflight.requests = [] ∧ s.Counts s' answer := by
  cases request with
  | read offset len =>
    rcases hf : s.adapter.finish offset s.capacity c with ⟨q, a⟩
    rw [complete_read hreq hf] at h
    obtain ⟨hinflight, hcounts⟩ := answerRead_counts h
    rw [hinflight]
    exact ⟨rfl, hcounts.after ⟨rfl, rfl⟩⟩
  | write offset len =>
    rcases hf : s.adapter.finish offset len c with ⟨q, a⟩
    rw [complete_write hreq hf] at h
    obtain ⟨hinflight, hcounts⟩ := answerWrite_counts h
    rw [hinflight]
    exact ⟨rfl, hcounts.after ⟨rfl, rfl⟩⟩

end Stage

/-! ## The ledger -/

/-- A stage over a store, and the requests by their numbers in the order they came. -/
structure Ledger (σ : Type) where
  stage : Stage
  store : σ
  /-- How many requests were handed in. -/
  asked : Nat := 0
  taken : List Nat := []
  refused : List Nat := []
  /-- The answers that callers got, newest first. -/
  answers : List (Nat × Completion) := []
  /-- The requests whose completion the store owes, oldest first. -/
  owed : List (Nat × Ticket) := []

namespace Ledger

variable {σ : Type}

/-- The bytes that successful reads brought their callers. -/
def readTotal (l : Ledger σ) : Nat := l.answers.foldr (fun e total => e.2.readCount + total) 0

/-- The bytes that callers were told went. -/
def writeTotal (l : Ledger σ) : Nat := l.answers.foldr (fun e total => e.2.writeCount + total) 0

/-- Notes how a request began. -/
def note (l : Ledger σ) (r : Except Failure (Started Completion)) (stage : Stage) (store : σ) :
    Ledger σ :=
  let next := { l with stage, store, asked := l.asked + 1 }
  match r with
  | .error _ => { next with refused := l.asked :: l.refused }
  | .ok (.finished c) =>
    { next with taken := l.asked :: l.taken, answers := (l.asked, c) :: l.answers }
  | .ok (.submitted ticket) =>
    { next with taken := l.asked :: l.taken, owed := l.owed ++ [(l.asked, ticket)] }

/-- Notes the completion of the request at a place among those that are owed. -/
def settle (l : Ledger σ) (place : Nat) (c : Completion) : Ledger σ :=
  match l.owed[place]? with
  | none => l
  | some (number, _) =>
    let (answer, stage) := l.stage.complete c
    { l with
      stage
      answers := (number, answer) :: l.answers
      owed := l.owed.eraseIdx place }

/-- Each request that was taken is answered or owed, each number stands once,
and the stage agrees with the ledger on what is out and what was counted. -/
structure Honest (l : Ledger σ) : Prop where
  settled : (l.answers.map (·.1) ++ l.owed.map (·.1)).Perm l.taken
  nodup : (l.taken ++ l.refused).Nodup
  asked_iff : ∀ number, number ∈ l.taken ++ l.refused ↔ number < l.asked
  out : l.stage.outstanding = l.owed.length
  one_owed : l.owed.length ≤ 1
  reads : l.stage.stats.aioReadBytes = l.readTotal.toUInt64
  writes : l.stage.stats.aioWriteBytes = l.writeTotal.toUInt64

variable {l : Ledger σ} {stage : Stage} {store : σ}

/-- A step that only moves the stage on keeps the ledger honest. -/
theorem Honest.of_same (h : l.Honest) (hs : l.stage.Same stage) :
    { l with stage, store }.Honest := by
  refine ⟨h.settled, h.nodup, h.asked_iff, ?_, h.one_owed, ?_, ?_⟩
  · exact hs.outstanding.trans h.out
  · exact hs.aioReadBytes.trans h.reads
  · exact hs.aioWriteBytes.trans h.writes

/-- A stage that was just built makes an honest ledger. -/
theorem honest_of_build {settings : Settings} {fd : Fd} {stage : Stage} (store : σ)
    (hbuild : Stage.build settings fd = .ok stage) : Honest { stage, store } := by
  obtain ⟨hpos, rfl⟩ := Stage.build_eq_ok_iff.mp hbuild
  refine ⟨.nil, List.nodup_nil, ?_, rfl, Nat.zero_le _, rfl, rfl⟩
  intro number
  simp

/-- None is out, or the stage is busy. -/
theorem Honest.idle_or_busy (h : l.Honest) :
    (l.owed = [] ∧ l.stage.inflight.requests = []) ∨ l.stage.outstanding ≠ 0 := by
  by_cases hidle : l.stage.outstanding = 0
  · have hout := h.out
    rw [hidle] at hout
    exact Or.inl ⟨List.length_eq_zero_iff.mp hout.symm, List.length_eq_zero_iff.mp hidle⟩
  · exact Or.inr hidle

/-! ## Numbers -/

/-- The number of the next request is new. -/
theorem Honest.fresh (h : l.Honest) : l.asked ∉ l.taken ++ l.refused := by
  intro hmem
  exact Nat.lt_irrefl _ ((h.asked_iff l.asked).mp hmem)

theorem Honest.nodup_taken (h : l.Honest) : ((l.asked :: l.taken) ++ l.refused).Nodup :=
  List.nodup_cons.mpr ⟨h.fresh, h.nodup⟩

theorem Honest.nodup_refused (h : l.Honest) : (l.taken ++ l.asked :: l.refused).Nodup :=
  (List.perm_middle.nodup_iff).mpr h.nodup_taken

theorem Honest.asked_taken (h : l.Honest) (number : Nat) :
    number ∈ (l.asked :: l.taken) ++ l.refused ↔ number < l.asked + 1 := by
  rw [List.cons_append, List.mem_cons, h.asked_iff]
  omega

theorem Honest.asked_refused (h : l.Honest) (number : Nat) :
    number ∈ l.taken ++ l.asked :: l.refused ↔ number < l.asked + 1 := by
  rw [List.perm_middle.mem_iff]
  exact h.asked_taken number

/-! ## Totals -/

/-- A counter that took in what is counted next holds the longer sum. -/
theorem plus_total {counter : Counter} {total n : Nat} (h : counter = total.toUInt64) :
    Counter.plus counter n = (n + total).toUInt64 := by
  rw [h, Nat.add_comm]
  exact (UInt64.ofNat_add total n).symm

/-! ## What every event keeps -/

/-- A request that was refused is noted and nothing else. -/
theorem Honest.note_refused {f : Failure} (h : l.Honest) (hout : stage.outstanding = l.owed.length)
    (hcounts : l.stage.CountsNothing stage) : (l.note (.error f) stage store).Honest :=
  ⟨h.settled, h.nodup_refused, h.asked_refused, hout, h.one_owed,
    hcounts.reads.trans h.reads, hcounts.writes.trans h.writes⟩

/-- A request that began while none was out is noted. -/
theorem Honest.note {r : Except Failure (Started Completion)} (h : l.Honest)
    (howed : l.owed = []) (hb : l.stage.Begun r stage) : (l.note r stage store).Honest := by
  cases hb with
  | refused hreq hcounts =>
    refine h.note_refused ?_ hcounts
    rw [howed]
    exact congrArg List.length hreq
  | @ended c _ hreq hcounts =>
    refine ⟨h.settled.cons l.asked, h.nodup_taken, h.asked_taken, ?_, h.one_owed, ?_, ?_⟩
    · show stage.outstanding = l.owed.length
      rw [howed]
      exact congrArg List.length hreq
    · exact hcounts.reads.trans (plus_total h.reads)
    · exact hcounts.writes.trans (plus_total h.writes)
  | @out ticket request _ hreq hcounts =>
    refine ⟨?_, h.nodup_taken, h.asked_taken, ?_, ?_, ?_, ?_⟩
    · show (l.answers.map (·.1) ++ (l.owed ++ [(l.asked, ticket)]).map (·.1)).Perm
        (l.asked :: l.taken)
      rw [List.map_append, ← List.append_assoc]
      exact (List.perm_append_singleton ..).trans (h.settled.cons l.asked)
    · show stage.outstanding = (l.owed ++ [(l.asked, ticket)]).length
      rw [howed]
      exact congrArg List.length hreq
    · show (l.owed ++ [(l.asked, ticket)]).length ≤ 1
      rw [howed]
      exact Nat.le_refl 1
    · exact hcounts.reads.trans h.reads
    · exact hcounts.writes.trans h.writes

/-- Of one completion at most, any that is owed is the first. -/
theorem Honest.only_owed (h : l.Honest) {place : Nat} {e : Nat × Ticket}
    (hplace : l.owed[place]? = some e) : place = 0 ∧ l.owed = [e] := by
  obtain ⟨hlt, hget⟩ := List.getElem?_eq_some_iff.mp hplace
  have hone := h.one_owed
  have hfirst : place = 0 := by omega
  subst hfirst
  obtain ⟨x, hx⟩ := List.length_eq_one_iff.mp (Nat.le_antisymm hone hlt)
  rw [hx] at hplace
  cases hplace
  exact ⟨rfl, hx⟩

/-- A completion that was owed is noted. It ends the request that is out. -/
theorem Honest.settle (h : l.Honest) (place : Nat) (c : Completion) : (l.settle place c).Honest := by
  unfold Ledger.settle
  rcases hplace : l.owed[place]? with _ | ⟨number, ticket⟩
  · exact h
  · obtain ⟨rfl, howed⟩ := h.only_owed hplace
    obtain ⟨request, hreq⟩ : ∃ request, l.stage.inflight.requests = [request] := by
      apply List.length_eq_one_iff.mp
      have := h.out
      rw [howed] at this
      exact this
    rcases hc : l.stage.complete c with ⟨answer, stage⟩
    obtain ⟨hnone, hcounts⟩ := Stage.complete_ends hreq hc
    dsimp only
    rw [howed]
    refine ⟨?_, h.nodup, h.asked_iff, congrArg List.length hnone, Nat.zero_le _, ?_, ?_⟩
    · have hsettled := h.settled
      rw [howed] at hsettled
      show (number :: l.answers.map Prod.fst ++ []).Perm l.taken
      rw [List.append_nil]
      exact (List.perm_append_singleton ..).symm.trans hsettled
    · exact hcounts.reads.trans (plus_total h.reads)
    · exact hcounts.writes.trans (plus_total h.writes)

/-! ## Events -/

/-- What happens to a file: calls and requests of its callers, a completion that
the store owes and now runs with any outcome, and whatever else befalls the store. -/
inductive Event (σ : Type) where
  | read (offset len : Nat)
  | write (offset : Nat) (data : Bytes)
  | flush
  | readAio (offset len : Nat)
  | writeAio (offset : Nat) (data : Bytes)
  | deliver (place : Nat) (c : Completion)
  | others (act : σ → σ)

variable [ObjectStore σ]

def step (l : Ledger σ) : Event σ → Ledger σ
  | .read offset len =>
    let (_, stage, store) := l.stage.read offset len l.store
    { l with stage, store }
  | .write offset data =>
    let (_, stage, store) := l.stage.write offset data l.store
    { l with stage, store }
  | .flush =>
    let (_, stage, store) := l.stage.flush l.store
    { l with stage, store }
  | .readAio offset len =>
    let (r, stage, store) := l.stage.readAio offset len l.store
    l.note r stage store
  | .writeAio offset data =>
    let (r, stage, store) := l.stage.writeAio offset data l.store
    l.note r stage store
  | .deliver place c => l.settle place c
  | .others act => { l with store := act l.store }

/-- All the events in order. -/
def run (l : Ledger σ) (events : List (Event σ)) : Ledger σ := events.foldl step l

theorem Honest.readAio {offset len : Nat} (h : l.Honest) : (l.step (.readAio offset len)).Honest := by
  rcases hr : l.stage.readAio offset len l.store with ⟨r, stage, store⟩
  simp only [Ledger.step, hr]
  rcases h.idle_or_busy with ⟨howed, hidle⟩ | hbusy
  · exact h.note howed (Stage.readAio_begun hidle hr)
  · obtain ⟨⟨f, rfl⟩, rfl, rfl⟩ := Stage.readAio_while_busy hbusy hr
    exact h.note_refused h.out ⟨rfl, rfl⟩

theorem Honest.writeAio {offset : Nat} {data : Bytes} (h : l.Honest) :
    (l.step (.writeAio offset data)).Honest := by
  rcases hw : l.stage.writeAio offset data l.store with ⟨r, stage, store⟩
  simp only [Ledger.step, hw]
  rcases h.idle_or_busy with ⟨howed, hidle⟩ | hbusy
  · exact h.note howed (Stage.writeAio_begun hidle hw)
  · obtain ⟨⟨f, rfl⟩, rfl, rfl⟩ := Stage.writeAio_while_busy hbusy hw
    exact h.note_refused h.out ⟨rfl, rfl⟩

/-- Every event keeps the ledger honest. -/
theorem Honest.step (h : l.Honest) (e : Event σ) : (l.step e).Honest := by
  cases e with
  | read offset len =>
    rcases hr : l.stage.read offset len l.store with ⟨r, stage, store⟩
    simp only [Ledger.step, hr]
    exact h.of_same (Stage.read_same hr)
  | write offset data =>
    rcases hw : l.stage.write offset data l.store with ⟨r, stage, store⟩
    simp only [Ledger.step, hw]
    exact h.of_same (Stage.write_same hw)
  | flush =>
    rcases hf : l.stage.flush l.store with ⟨r, stage, store⟩
    simp only [Ledger.step, hf]
    exact h.of_same (Stage.flush_same hf)
  | readAio offset len => exact h.readAio
  | writeAio offset data => exact h.writeAio
  | deliver place c => exact h.settle place c
  | others act => exact h.of_same (.refl _)

theorem Honest.run (h : l.Honest) (events : List (Event σ)) : (l.run events).Honest := by
  induction events generalizing l with
  | nil => exact h
  | cons e events ih => exact ih (h.step e)

/-! ## The protocol -/

/-- While a request is out the stage refuses all that ends at an offset, and
neither it nor the store changes. -/
structure Refuses (s : Stage) (st : σ) : Prop where
  read : ∀ offset len, offset + len ≤ Offset.last →
    s.read offset len st = (.error (.inFlight s.fd 1), s, st)
  write : ∀ offset data, offset + data.length ≤ Offset.last →
    s.write offset data st = (.error (.inFlight s.fd 1), s, st)
  flush : s.flush st = (.error (.inFlight s.fd 1), s, st)
  readAio : ∀ offset len, offset + len ≤ Offset.last →
    s.readAio offset len st = (.error (.inFlight s.fd 1), s, st)
  writeAio : ∀ offset data, offset + data.length ≤ Offset.last →
    s.writeAio offset data st = (.error (.inFlight s.fd 1), s, st)

theorem refuses_of_one {s : Stage} (st : σ) (h : s.outstanding = 1) : Refuses s st := by
  have hbusy : s.outstanding ≠ 0 := by omega
  refine ⟨?_, ?_, ?_, ?_, ?_⟩
  · intro offset len hlast
    rw [Stage.read_busy st hlast hbusy, h]
  · intro offset data hlast
    rw [Stage.write_busy st hlast hbusy, h]
  · rw [Stage.flush_busy st hbusy, h]
  · intro offset len hlast
    rw [Stage.readAio_busy st hlast hbusy, h]
  · intro offset data hlast
    rw [Stage.writeAio_busy st hlast hbusy, h]

/-- What callers may rely on at every point. -/
structure Orderly (l : Ledger σ) : Prop where
  /-- Each request was taken or refused, and not both. -/
  decided : ∀ number, number < l.asked ↔ number ∈ l.taken ∨ number ∈ l.refused
  apart : ∀ number ∈ l.taken, number ∉ l.refused
  /-- A request that was taken was answered once, or its completion is owed and
  it was not answered yet. -/
  answered_once : ∀ number ∈ l.taken,
    (l.answers.map (·.1)).count number + (l.owed.map (·.1)).count number = 1
  never_answered : ∀ number ∈ l.refused,
    number ∉ l.answers.map (·.1) ∧ number ∉ l.owed.map (·.1)
  /-- As many requests are out as completions are owed. -/
  out : l.stage.outstanding = l.owed.length
  one_out : l.stage.outstanding ≤ 1
  refuses : l.stage.outstanding = 1 → Refuses l.stage l.store
  reads : l.stage.stats.aioReadBytes = l.readTotal.toUInt64
  writes : l.stage.stats.aioWriteBytes = l.writeTotal.toUInt64

theorem Honest.orderly (h : l.Honest) : l.Orderly := by
  have hapart : ∀ number ∈ l.taken, number ∉ l.refused := by
    intro number htaken hrefused
    exact (List.nodup_append.mp h.nodup).2.2 number htaken number hrefused rfl
  refine ⟨?_, hapart, ?_, ?_, h.out, ?_, refuses_of_one l.store, h.reads, h.writes⟩
  · intro number
    rw [← h.asked_iff, List.mem_append]
  · intro number htaken
    rw [← List.count_append, h.settled.count_eq]
    rw [(List.nodup_append.mp h.nodup).1.count, if_pos htaken]
  · intro number hrefused
    rw [← not_or, ← List.mem_append, h.settled.mem_iff]
    intro htaken
    exact hapart number htaken hrefused
  · rw [h.out]
    exact h.one_owed

/-- Whatever the store does and in whatever order, requests are orderly at every point. -/
theorem requests_are_orderly {settings : Settings} {fd : Fd} {stage : Stage} (store : σ)
    (hbuild : Stage.build settings fd = .ok stage) (events : List (Event σ)) :
    (Ledger.run { stage, store } events).Orderly :=
  ((honest_of_build store hbuild).run events).orderly

theorem requests_are_orderly_over_memory :
    Stage.build { bufferSize := 4 } .first = .ok .small ∧
      (Ledger.run
        { stage := .small
          store := ({ delivery := .deferred, handles := ⟨[(.first, ⟨0, .readWrite⟩)]⟩ } :
            MemoryStore) }
        [.writeAio 0 [1, 2], .read 0 1, .deliver 0 (.count (.ok 2)), .readAio 1 3]).Orderly :=
  ⟨Stage.small_built, requests_are_orderly _ Stage.small_built _⟩

end Ledger

end StagedFiles
