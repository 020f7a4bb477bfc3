-- A session against the books of its descriptor. As long as no write and no hand-in
-- goes wrong, what the callers were told went is what the stage took in and what
-- requests wrote past it, and after a close that comes out well the summary, the
-- adapter and the log of the store all have the same sums.
import StagedFiles.Proofs.FileUses
import StagedFiles.Proofs.WatchedStore

namespace StagedFiles

variable {σ : Type} [ObjectStore σ] {fd : Fd} {A : Auditor σ fd}

/-! ## The calls that wait -/

namespace Stage

variable {s s' : Stage} {st st' : σ} {taken direct flushed : Nat}

/-- The stage is idle and even. -/
structure Rests (A : Auditor σ fd) (s : Stage) (st : σ) (taken direct : Nat) : Prop where
  idle : s.outstanding = 0
  even : ∃ flushed, s.Even A st taken direct none flushed

theorem read_rests {offset len : Nat} {r : Except Failure Bytes} (h : s.Rests A st taken direct)
    (hr : s.read offset len st = (r, s', st')) : A.Void st' ∨ s'.Rests A st' taken direct := by
  obtain ⟨flushed, heven⟩ := h.even
  have hidle : s'.outstanding = 0 := (read_same hr).outstanding.trans h.idle
  by_cases hlast : offset + len ≤ Offset.last
  · rw [read_idle _ hlast h.idle] at hr
    exact (readBytes_even heven hr).imp_right fun heven' => ⟨hidle, heven'⟩
  · rw [read_beyond _ (Nat.lt_of_not_le hlast)] at hr
    cases hr
    exact .inr h

theorem write_rests {offset : Nat} {data : Bytes} {r : Except Failure Nat}
    (h : s.Rests A st taken direct) (hw : s.write offset data st = (r, s', st')) :
    A.Void st' ∨ s'.Rests A st' (taken + (Completion.count r).writeCount) direct := by
  obtain ⟨flushed, heven⟩ := h.even
  have hidle : s'.outstanding = 0 := (write_same hw).outstanding.trans h.idle
  by_cases hlast : offset + data.length ≤ Offset.last
  · rw [write_idle _ hlast h.idle] at hw
    rcases stageFrom_even heven hw with hv | ⟨rfl, heven'⟩
    · exact .inl hv
    · have hcount : (Completion.count (.ok (0 + data.length))).writeCount = data.length :=
        Nat.zero_add _
      rw [hcount]
      exact .inr ⟨hidle, heven'⟩
  · rw [write_beyond _ (Nat.lt_of_not_le hlast)] at hw
    cases hw
    exact .inr h

theorem flush_rests {r : Except Failure Nat} (h : s.Rests A st taken direct)
    (hf : s.flush st = (r, s', st')) :
    A.Void st' ∨ s'.dirty = false ∧ s'.Rests A st' taken direct := by
  obtain ⟨flushed, heven⟩ := h.even
  have hidle : s'.outstanding = 0 := (flush_same hf).outstanding.trans h.idle
  rw [flush_idle _ h.idle] at hf
  exact (flushNow_even heven hf).imp_right fun ⟨_, hd, heven'⟩ => ⟨hd, hidle, taken, heven'⟩

/-- The stage is idle, or waits for the transfer that is due. -/
inductive Agrees (A : Auditor σ fd) (s : Stage) (st : σ) (taken direct : Nat) :
    Option (Ticket × Errand) → Prop where
  | rests : s.Rests A st taken direct → Agrees A s st taken direct none
  | out {t : Ticket} {e asked : Errand} : s.Expects e →
      (∃ flushed, s.Even A st taken direct (some (t, e)) flushed) →
      Agrees A s st taken direct (some (t, asked))

theorem Agrees.idle_or_busy {due : Option (Ticket × Errand)} (h : s.Agrees A st taken direct due) :
    (due = none ∧ s.Rests A st taken direct) ∨ s.outstanding ≠ 0 := by
  cases h with
  | rests h => exact .inl ⟨rfl, h⟩
  | out he _ =>
    rw [he.outstanding]
    exact .inr Nat.one_ne_zero

/-- The store went on and the books stayed. -/
theorem Agrees.move {due : Option (Ticket × Errand)} (h : s.Agrees A st taken direct due)
    (hbooks : ∀ n out, A.Books st n out → A.Books st' n out) :
    s.Agrees A st' taken direct due := by
  cases h with
  | rests h =>
    obtain ⟨flushed, he⟩ := h.even
    exact .rests ⟨h.idle, flushed, he.fd, he.took, he.counted, he.written, hbooks _ _ he.books⟩
  | out hexpects heven =>
    obtain ⟨flushed, he⟩ := heven
    exact .out hexpects ⟨flushed, he.fd, he.took, he.counted, he.written, hbooks _ _ he.books⟩

/-- Calls that write nothing and hand nothing in leave the agreement. -/
theorem Agrees.light {due : Option (Ticket × Errand)} (h : s.Agrees A st taken direct due)
    (hlight : Leads StoreCall.Light st st') : s.Agrees A st' taken direct due :=
  h.move fun _ _ hbooks => A.books_light hbooks hlight

/-- What is due after a request started. -/
theorem Starts.agrees {r : Except Failure (Started Completion)} (asked : Errand)
    (h : Starts A s st taken direct r) :
    s.Agrees A st taken direct (Client.dueAfter none asked r) := by
  cases h with
  | ended hnot hidle heven =>
    have hdue : Client.dueAfter none asked r = none := by
      unfold Client.dueAfter
      split
      · rename_i t
        exact (hnot t rfl).elim
      · rfl
    rw [hdue]
    exact .rests ⟨hidle, heven⟩
  | out he heven => exact .out he heven

/-! ## Any call -/

namespace Agrees

variable {due : Option (Ticket × Errand)}

theorem read {offset len : Nat} {r : Except Failure Bytes} (h : s.Agrees A st taken direct due)
    (hr : s.read offset len st = (r, s', st')) :
    A.Void st' ∨ s'.Agrees A st' taken direct due := by
  rcases h.idle_or_busy with ⟨rfl, hrests⟩ | hbusy
  · exact (read_rests hrests hr).imp_right .rests
  · obtain ⟨_, rfl, rfl⟩ := read_while_busy hbusy hr
    exact .inr h

/-- The stage takes in what the caller is told went. -/
theorem write {offset : Nat} {data : Bytes} {r : Except Failure Nat}
    (h : s.Agrees A st taken direct due) (hw : s.write offset data st = (r, s', st')) :
    A.Void st' ∨ s'.Agrees A st' (taken + (Completion.count r).writeCount) direct due := by
  rcases h.idle_or_busy with ⟨rfl, hrests⟩ | hbusy
  · exact (write_rests hrests hw).imp_right .rests
  · obtain ⟨⟨f, rfl⟩, rfl, rfl⟩ := write_while_busy hbusy hw
    exact .inr h

theorem flush {r : Except Failure Nat} (h : s.Agrees A st taken direct due)
    (hf : s.flush st = (r, s', st')) : A.Void st' ∨ s'.Agrees A st' taken direct due := by
  rcases h.idle_or_busy with ⟨rfl, hrests⟩ | hbusy
  · exact (flush_rests hrests hf).imp_right fun ⟨_, hrests'⟩ => .rests hrests'
  · rw [flush_busy st hbusy] at hf
    cases hf
    exact .inr h

theorem readAio {offset len : Nat} {r : Except Failure (Started Completion)}
    (h : s.Agrees A st taken direct due) (hr : s.readAio offset len st = (r, s', st')) :
    A.Void st' ∨ s'.Agrees A st' taken direct (Client.dueAfter due (.read offset len) r) ∧
      (Tally.ofStart r).writeAio = 0 := by
  rcases h.idle_or_busy with ⟨rfl, hidle, flushed, heven⟩ | hbusy
  · exact (readAio_even heven hidle hr).imp_right fun ⟨hstarts, hnone⟩ => ⟨hstarts.agrees _, hnone⟩
  · obtain ⟨⟨f, rfl⟩, rfl, rfl⟩ := readAio_while_busy hbusy hr
    exact .inr ⟨h, rfl⟩

theorem writeAio {offset : Nat} {data : Bytes} {r : Except Failure (Started Completion)}
    (h : s.Agrees A st taken direct due) (hw : s.writeAio offset data st = (r, s', st')) :
    A.Void st' ∨ ∃ direct' large,
      large = (if s.capacity < data.length then (Tally.ofStart r).writeAio else 0) ∧
      direct' + large = direct + (Tally.ofStart r).writeAio ∧
      s'.Agrees A st' (taken + large) direct' (Client.dueAfter due (.write offset data) r) := by
  rcases h.idle_or_busy with ⟨rfl, hidle, flushed, heven⟩ | hbusy
  · refine (writeAio_even heven hidle hw).imp_right ?_
    rintro ⟨direct', large, hlarge, hsum, hstarts⟩
    exact ⟨direct', large, hlarge, hsum, hstarts.agrees _⟩
  · obtain ⟨⟨f, rfl⟩, rfl, rfl⟩ := writeAio_while_busy hbusy hw
    exact .inr ⟨direct, 0, (ite_self 0).symm, rfl, h⟩

/-- The completion of what is due comes, and the stage counts what it is told of it. -/
theorem deliver {t : Ticket} {asked : Errand} {c : Option Completion}
    (h : s.Agrees A st taken direct (some (t, asked))) (ha : ObjectStore.await t st = (c, st')) :
    A.Void st' ∨ ∃ done request, c = some done ∧ s.inflight.requests = [request] ∧
      ∀ answer s', s.complete done = (answer, s') →
        s'.Agrees A st' taken (direct + answer.writeCount) none := by
  cases h with
  | out hexpects heven =>
    obtain ⟨flushed, heven⟩ := heven
    obtain ⟨request, hreq⟩ : ∃ request, s.inflight.requests = [request] := by
      cases hexpects with
      | read _ hreq => exact ⟨_, hreq⟩
      | write _ hreq => exact ⟨_, hreq⟩
    refine (complete_even hexpects heven ha).imp_right ?_
    rintro ⟨done, rfl, hdone⟩
    refine ⟨done, request, rfl, hreq, ?_⟩
    intro answer s' hc
    obtain ⟨hidle, heven'⟩ := hdone answer s' hc
    exact .rests ⟨hidle, heven'⟩

end Agrees

end Stage

/-! ## The session -/

/-- The session and what its callers were told agree with the books of its descriptor. -/
structure FileClient.Audited (A : Auditor σ fd) (c : FileClient σ) (t : Tally) (s : Session) :
    Prop where
  session : c.file.session = some s
  raw : c.file.raw.fd = some fd
  /-- Nothing is staged that a close would not flush. -/
  unstaged : s.access.write = false → s.stage.dirty = false
  capacity : s.stage.capacity = c.file.settings.bufferSize
  agrees : ∃ direct, t.writeAio = t.large + direct ∧
    s.stage.Agrees A c.store (t.write + t.large) direct c.due

/-- What others may do between the calls: the books of the descriptor stay, and
what is void stays void. -/
structure Auditor.Admits (A : Auditor σ fd) (act : σ → σ) : Prop where
  books : ∀ {st} n out, A.Books st n out → A.Books (act st) n out
  void : ∀ {st}, A.Void st → A.Void (act st)

namespace FileClient

variable {c c' : FileClient σ} {t now : Tally} {s : Session} {k : Client σ}

/-- What has no data to write is asked of the stage, whatever the file is open for. -/
theorem ask_follows_reading {act : Act} (hs : c.file.session = some s) (ha : act.writes = false) :
    Follows c s ((c.client s).step act).2 (c.ask act) :=
  ask_follows hs fun hw => absurd (ha.symm.trans hw) Bool.false_ne_true

namespace Audited

/-- The session went on, and the stage agrees with the books again. -/
theorem after (h : Audited A c t s) (hfollows : Follows c s k c')
    (hsettings : c'.file.settings = c.file.settings)
    (hsame : s.stage.adapter.Same k.stage.adapter)
    (hunstaged : s.access.write = false → k.stage.dirty = false)
    (hagrees : ∃ direct, now.writeAio + t.writeAio = now.large + t.large + direct ∧
      k.stage.Agrees A k.store (now.write + t.write + (now.large + t.large)) direct k.due) :
    ∃ s', Audited A c' (now.plus t) s' := by
  obtain ⟨direct, hsum, hstage⟩ := hagrees
  refine ⟨{ s with stage := k.stage }, hfollows.session, ?_, hunstaged, ?_, direct, hsum, ?_⟩
  · rw [hfollows.raw]
    exact h.raw
  · rw [hsettings]
    exact hsame.capacity.trans h.capacity
  · rw [hfollows.store, hfollows.due]
    exact hstage

theorem read (h : Audited A c t s) (offset len : Nat) :
    A.Void (c.ask (.read offset len)).store ∨
      ∃ s', Audited A (c.ask (.read offset len)) ((c.told (.ask (.read offset len))).plus t) s' := by
  obtain ⟨_, hnotes⟩ := ask_notes h.session (.read offset len)
  obtain ⟨direct, hdirect, hold⟩ := h.agrees
  have hfollows : Follows c s ((c.client s).step (.read offset len)).2 (c.ask (.read offset len)) :=
    ask_follows_reading h.session rfl
  rcases hr : s.stage.read offset len c.store with ⟨r, stage, store⟩
  simp only [Client.step, client, hr] at hfollows
  rcases hold.read hr with hv | hnew
  · left
    rw [hfollows.store]
    exact hv
  · right
    refine h.after hfollows hnotes.settings (Stage.read_same hr).adapter
      (fun hw => Stage.read_clean (h.unstaged hw) hr) ⟨direct, ?_, ?_⟩
    · simpa only [told, Nat.zero_add] using hdirect
    · simpa only [told, Nat.zero_add] using hnew

/-- A file that is not open for writing takes nothing, and tells nothing. -/
theorem refused (h : Audited A c t s) (hw : s.access.write = false) {act : Act}
    (ha : act.writes = true) : ∃ s', Audited A (c.ask act) ((c.told (.ask act)).plus t) s' := by
  have hnothing : c.told (.ask act) = {} := by
    cases act with
    | write offset data =>
      simp only [told, StagedFile.write, StagedFile.writable, h.session, hw]
      rfl
    | writeAio offset data =>
      simp only [told, StagedFile.writeAio, StagedFile.writable, h.session, hw]
      exact congrArg (fun n => { ({} : Tally) with large := n }) (ite_self 0)
    | read _ _ => cases ha
    | flush => cases ha
    | readAio _ _ => cases ha
    | deliver => cases ha
  rw [ask_refused h.session hw ha, hnothing, Tally.nothing_plus]
  exact ⟨s, h⟩

theorem write (h : Audited A c t s) (offset : Nat) (data : Bytes) :
    A.Void (c.ask (.write offset data)).store ∨
      ∃ s', Audited A (c.ask (.write offset data))
        ((c.told (.ask (.write offset data))).plus t) s' := by
  rcases hwrite : s.access.write with _ | _
  · exact .inr (h.refused hwrite rfl)
  obtain ⟨_, hnotes⟩ := ask_notes h.session (.write offset data)
  obtain ⟨direct, hdirect, hold⟩ := h.agrees
  have hfollows :
      Follows c s ((c.client s).step (.write offset data)).2 (c.ask (.write offset data)) :=
    ask_follows h.session fun _ => hwrite
  rcases hw : s.stage.write offset data c.store with ⟨r, stage, store⟩
  simp only [Client.step, client, hw] at hfollows
  rcases hold.write hw with hv | hnew
  · left
    rw [hfollows.store]
    exact hv
  · right
    have htold : (c.told (.ask (.write offset data))).write = (Completion.count r).writeCount := by
      rcases r with f | n
      · simp only [told, StagedFile.write, StagedFile.writable, h.session, hwrite, if_true, hw]
      · simp only [told, StagedFile.write, StagedFile.writable, h.session, hwrite, if_true, hw]
    refine h.after hfollows hnotes.settings (Stage.write_same hw).adapter ?_ ⟨direct, ?_, ?_⟩
    · intro hread
      rw [hwrite] at hread
      cases hread
    · simpa only [told, Nat.zero_add] using hdirect
    · rw [htold]
      have hsum : t.write + t.large + (Completion.count r).writeCount =
          (Completion.count r).writeCount + t.write + (0 + t.large) := by omega
      rw [hsum] at hnew
      exact hnew

theorem flush (h : Audited A c t s) :
    A.Void (c.ask .flush).store ∨
      ∃ s', Audited A (c.ask .flush) ((c.told (.ask .flush)).plus t) s' := by
  obtain ⟨_, hnotes⟩ := ask_notes h.session .flush
  obtain ⟨direct, hdirect, hold⟩ := h.agrees
  have hfollows : Follows c s ((c.client s).step .flush).2 (c.ask .flush) :=
    ask_follows_reading h.session rfl
  rcases hf : s.stage.flush c.store with ⟨r, stage, store⟩
  simp only [Client.step, client, hf] at hfollows
  rcases hold.flush hf with hv | hnew
  · left
    rw [hfollows.store]
    exact hv
  · right
    refine h.after hfollows hnotes.settings (Stage.flush_same hf).adapter
      (fun hw => Stage.flush_clean (h.unstaged hw) hf) ⟨direct, ?_, ?_⟩
    · simpa only [told, Nat.zero_add] using hdirect
    · simpa only [told, Nat.zero_add] using hnew

theorem readAio (h : Audited A c t s) (offset len : Nat) :
    A.Void (c.ask (.readAio offset len)).store ∨
      ∃ s', Audited A (c.ask (.readAio offset len))
        ((c.told (.ask (.readAio offset len))).plus t) s' := by
  obtain ⟨_, hnotes⟩ := ask_notes h.session (.readAio offset len)
  obtain ⟨direct, hdirect, hold⟩ := h.agrees
  have hfollows :
      Follows c s ((c.client s).step (.readAio offset len)).2 (c.ask (.readAio offset len)) :=
    ask_follows_reading h.session rfl
  rcases hr : s.stage.readAio offset len c.store with ⟨r, stage, store⟩
  simp only [Client.step, client, hr] at hfollows
  rcases hold.readAio hr with hv | ⟨hnew, hnone⟩
  · left
    rw [hfollows.store]
    exact hv
  · right
    have htold : c.told (.ask (.readAio offset len)) = .ofStart r := by
      simp only [told, StagedFile.readAio, StagedFile.opened, h.session, hr]
    have hcalls : (Tally.ofStart r).write = 0 ∧ (Tally.ofStart r).large = 0 := Tally.ofStart_calls r
    refine h.after hfollows hnotes.settings (Stage.readAio_adapter hr)
      (fun hw => Stage.readAio_clean (h.unstaged hw) hr) ⟨direct, ?_, ?_⟩
    · rw [htold, hnone, hcalls.2, Nat.zero_add, Nat.zero_add]
      exact hdirect
    · rw [htold, hcalls.1, hcalls.2, Nat.zero_add, Nat.zero_add]
      exact hnew

/-- The bytes of a request larger than the buffer count as taken in. -/
theorem writeAio (h : Audited A c t s) (offset : Nat) (data : Bytes) :
    A.Void (c.ask (.writeAio offset data)).store ∨
      ∃ s', Audited A (c.ask (.writeAio offset data))
        ((c.told (.ask (.writeAio offset data))).plus t) s' := by
  rcases hwrite : s.access.write with _ | _
  · exact .inr (h.refused hwrite rfl)
  obtain ⟨_, hnotes⟩ := ask_notes h.session (.writeAio offset data)
  obtain ⟨direct, hdirect, hold⟩ := h.agrees
  have hfollows :
      Follows c s ((c.client s).step (.writeAio offset data)).2 (c.ask (.writeAio offset data)) :=
    ask_follows h.session fun _ => hwrite
  rcases hw : s.stage.writeAio offset data c.store with ⟨r, stage, store⟩
  simp only [Client.step, client, hw] at hfollows
  rcases hold.writeAio hw with hv | ⟨direct', large, hlarge, hsum, hnew⟩
  · left
    rw [hfollows.store]
    exact hv
  · right
    have htold : c.told (.ask (.writeAio offset data)) = { Tally.ofStart r with large } := by
      simp only [told, StagedFile.writeAio, StagedFile.writable, h.session, hwrite, if_true, hw]
      rw [hlarge, h.capacity]
    have hcalls : (Tally.ofStart r).write = 0 := (Tally.ofStart_calls r).1
    refine h.after hfollows hnotes.settings (Stage.writeAio_adapter hw) ?_ ⟨direct', ?_, ?_⟩
    · intro hread
      rw [hwrite] at hread
      cases hread
    · rw [htold]
      show (Tally.ofStart r).writeAio + t.writeAio = large + t.large + direct'
      omega
    · rw [htold]
      show stage.Agrees A store ((Tally.ofStart r).write + t.write + (large + t.large)) direct' _
      have htaken : t.write + t.large + large = 0 + t.write + (large + t.large) := by omega
      rw [hcalls, ← htaken]
      exact hnew

theorem deliver (h : Audited A c t s) :
    A.Void (c.ask .deliver).store ∨
      ∃ s', Audited A (c.ask .deliver) ((c.told (.ask .deliver)).plus t) s' := by
  obtain ⟨_, hnotes⟩ := ask_notes h.session .deliver
  obtain ⟨direct, hdirect, hold⟩ := h.agrees
  rcases hdue : c.due with _ | ⟨ticket, asked⟩
  · simp only [FileClient.ask, told, toldOnDelivery, hdue, Tally.nothing_plus]
    exact .inr ⟨s, h⟩
  · rw [hdue] at hold
    have hfollows : Follows c s ((c.client s).step .deliver).2 (c.ask .deliver) :=
      ask_follows_reading h.session rfl
    rcases ha : ObjectStore.await ticket c.store with ⟨done, store⟩
    rcases hold.deliver ha with hv | ⟨done, request, rfl, hreq, hnew⟩
    · left
      have hstore : ((c.client s).step .deliver).2.store = store := by
        cases done with
        | none => simp only [Client.step, client, hdue, ha]
        | some done => simp only [Client.step, client, hdue, ha]
      rw [hfollows.store, hstore]
      exact hv
    · right
      rcases hc : s.stage.complete done with ⟨answer, stage⟩
      simp only [Client.step, client, hdue, ha, hc] at hfollows
      have hbusy : s.stage.outstanding ≠ 0 := by
        have hone : s.stage.outstanding = 1 := congrArg List.length hreq
        omega
      have htold : c.told (.ask .deliver) = .ofCompletion answer := by
        simp only [told, toldOnDelivery, hdue, h.session, ha, hc, if_neg hbusy]
      refine h.after hfollows hnotes.settings (Stage.complete_adapter hreq hc)
        (fun hw => (Stage.complete_dirty hreq hc).trans (h.unstaged hw))
        ⟨direct + answer.writeCount, ?_, ?_⟩
      · rw [htold]
        show answer.writeCount + t.writeAio = 0 + t.large + (direct + answer.writeCount)
        omega
      · rw [htold]
        show stage.Agrees A store (0 + t.write + (0 + t.large)) _ none
        rw [Nat.zero_add, Nat.zero_add]
        exact hnew answer stage hc

/-- What is asked of the stage settles a session that agreed, unless the books are void. -/
theorem ask (h : Audited A c t s) (act : Act) :
    A.Void (c.ask act).store ∨
      ∃ s', Audited A (c.ask act) ((c.told (.ask act)).plus t) s' := by
  cases act with
  | read offset len => exact h.read offset len
  | write offset data => exact h.write offset data
  | flush => exact h.flush
  | readAio offset len => exact h.readAio offset len
  | writeAio offset data => exact h.writeAio offset data
  | deliver => exact h.deliver

/-! ## Past the stage -/

/-- Only the store went on, without a write. -/
theorem move (h : Audited A c t s) (hsession : c'.file.session = c.file.session)
    (hraw : c'.file.raw = c.file.raw) (hsettings : c'.file.settings = c.file.settings)
    (hdue : c'.due = c.due) (hwrite : now.write = 0) (hwriteAio : now.writeAio = 0)
    (hlarge : now.large = 0) (hlight : Leads StoreCall.Light c.store c'.store) :
    ∃ s', Audited A c' (now.plus t) s' := by
  have hfollows : Follows c s { stage := s.stage, store := c'.store, due := c.due } c' :=
    ⟨hsession.trans h.session, hraw, rfl, hdue⟩
  obtain ⟨direct, hdirect, hold⟩ := h.agrees
  refine h.after hfollows hsettings (.refl _) h.unstaged ⟨direct, ?_, ?_⟩
  · rw [hwriteAio, hlarge, Nat.zero_add, Nat.zero_add]
    exact hdirect
  · rw [hwrite, hlarge, Nat.zero_add, Nat.zero_add]
    exact hold.light hlight

/-- A call on the raw file that writes nothing and hands nothing in. -/
theorem pass {α : Type} (h : Audited A c t s) (call : RawFile → σ → Except Failure α × σ)
    (hlight : ∀ r st, call c.file.raw c.store = (r, st) → Leads StoreCall.Light c.store st) :
    ∃ s', Audited A (c.pass call) (Tally.plus {} t) s' := by
  rcases hcall : call c.file.raw c.store with ⟨r, st⟩
  have hpass : c.pass call = { c with store := st } := by
    simp only [FileClient.pass, StagedFile.pass, h.session, hcall]
  rw [hpass]
  exact h.move rfl rfl rfl rfl rfl rfl rfl (hlight r st hcall)

theorem readv (h : Audited A c t s) (extents : List Extent) :
    ∃ s', Audited A (c.step (.readv extents)) ((c.told (.readv extents)).plus t) s' := by
  rcases hr : c.file.raw.readv extents c.store with ⟨r, st⟩
  have hlight := (RawFile.readv_reads hr).light
  cases r with
  | error f =>
    simp only [FileClient.step, told, StagedFile.readv, StagedFile.pass, h.session, hr]
    exact h.move rfl rfl rfl rfl rfl rfl rfl hlight
  | ok pieces =>
    simp only [FileClient.step, told, StagedFile.readv, StagedFile.pass, h.session, hr]
    exact h.move h.session.symm rfl rfl rfl rfl rfl rfl hlight

/-- Every act settles a session that agreed, unless the books are void. -/
theorem step {act : FileAct σ} (h : Audited A c t s) (hothers : ∀ f, act = .others f → A.Admits f) :
    A.Void (c.step act).store ∨ ∃ s', Audited A (c.step act) ((c.told act).plus t) s' := by
  cases act with
  | ask act => exact h.ask act
  | readRaw offset len =>
    exact .inr (h.pass (fun raw st => raw.read offset len st) fun _ _ hr => (RawFile.read_reads hr).light)
  | readv extents => exact .inr (h.readv extents)
  | stat => exact .inr (h.pass (fun raw st => raw.stat st) fun _ _ hr => RawFile.stat_light hr)
  | sync => exact .inr (h.pass (fun raw st => raw.sync st) fun _ _ hr => RawFile.sync_light hr)
  | truncate len => exact .inr (h.pass (fun raw st => raw.truncate len st) fun _ _ hr => RawFile.truncate_light hr)
  | others f =>
    have hadmits := hothers f rfl
    have hfollows : Follows c s { stage := s.stage, store := f c.store, due := c.due }
        (c.step (.others f)) := ⟨h.session, rfl, rfl, rfl⟩
    obtain ⟨direct, hdirect, hold⟩ := h.agrees
    refine .inr (h.after hfollows rfl (.refl _) h.unstaged ⟨direct, ?_, ?_⟩)
    · simpa only [told, Nat.zero_add] using hdirect
    · simpa only [told, Nat.zero_add] using hold.move hadmits.books

end Audited

end FileClient

end StagedFiles
