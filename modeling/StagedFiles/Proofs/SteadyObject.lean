-- An object whose content stands still while it is read. A read may be short, but
-- before the end of the object it brings something. A stage that reads it holds
-- nothing but its bytes, so that every read through the stage brings a piece of
-- the object again, and nothing only at its end.
import StagedFiles.Proofs.FlatStage

namespace StagedFiles

/-! ## Pieces -/

/-- These bytes stand in the run at an offset; before its end they are some. -/
structure Bytes.Piece (content : Bytes) (offset : Nat) (bytes : Bytes) : Prop where
  here : HasAt content offset bytes
  ne_nil : offset < content.length → bytes ≠ []

variable {content bytes : Bytes} {offset count : Nat}

theorem Bytes.Piece.take (h : content.Piece offset bytes) (hcount : 0 < count) :
    content.Piece offset (bytes.take count) := by
  refine ⟨h.here.take count, ?_⟩
  intro hbefore hnil
  rcases List.take_eq_nil_iff.mp hnil with hzero | hnone
  · omega
  · exact h.ne_nil hbefore hnone

/-- A piece with nothing in it stands at the end. -/
theorem Bytes.Piece.at_end (h : content.Piece offset []) (hle : offset ≤ content.length) :
    offset = content.length := by
  by_contra hne
  exact h.ne_nil (Nat.lt_of_le_of_ne hle hne) rfl

/-- What stands in a run ends inside it. -/
theorem Bytes.HasAt.stop_le (h : content.HasAt offset bytes) (hle : offset ≤ content.length) :
    offset + bytes.length ≤ content.length := by
  have := h.length_le
  omega

/-! ## Objects that stand still -/

/-- The object under a path, while no call on it fails and nobody changes it. A
read that is handed in may bring more than it was asked for. -/
structure SteadyObject (σ : Type) [ObjectStore σ] (path : String) (content : Bytes) where
  /-- The store at rest. -/
  Rests : σ → Prop
  /-- The object is open to be read. -/
  Opened : Fd → σ → Prop
  statPath {st : σ} : Rests st →
    ∃ st', ObjectStore.statPath path st = (.ok content.length, st') ∧ Rests st'
  openPath {st : σ} : Rests st →
    ∃ fd st', ObjectStore.openPath path .readOnly st = (.ok fd, st') ∧ Opened fd st'
  readAt {fd : Fd} {st : σ} {offset len : Nat} : Opened fd st → offset ≤ content.length → 0 < len →
    ∃ bytes st', ObjectStore.readAt fd offset len st = (.ok bytes, st') ∧ Opened fd st' ∧
      content.Piece offset bytes ∧ bytes.length ≤ len
  submitRead {fd : Fd} {st : σ} {offset len : Nat} : Opened fd st → offset ≤ content.length →
    0 < len →
    ∃ ticket bytes st1 st2, ObjectStore.submitRead fd offset len st = (.ok ticket, st1) ∧
      ObjectStore.await ticket st1 = (some (.bytes (.ok bytes)), st2) ∧ Opened fd st2 ∧
      content.Piece offset bytes
  close {fd : Fd} {st : σ} : Opened fd st →
    ∃ st', ObjectStore.close fd st = (.ok (), st')

variable {σ : Type} [ObjectStore σ] {path : String} {fd : Fd} {st st' : σ}

/-! ## The adapter -/

namespace Adapter

variable {a : Adapter}

/-- The ways in which a read of a steady object starts: a piece is the image already,
or it is out and becomes the image when it is waited for. -/
inductive Fetching (O : SteadyObject σ path content) (fd : Fd) (a : Adapter) (offset count : Nat) :
    Except Failure (Started (Except Failure Nat)) × Adapter × σ → Prop where
  | finished {bytes : Bytes} {a' : Adapter} {st : σ} : a'.Shown offset bytes →
      content.Piece offset bytes → O.Opened fd st →
      Fetching O fd a offset count (.ok (.finished (.ok bytes.length)), a', st)
  | out {ticket : Ticket} {done : Completion} {bytes : Bytes} {a' : Adapter} {st st' : σ} :
      ObjectStore.await ticket st = (some done, st') →
      a.finish offset count done = (.ok bytes.length, a') → a'.Shown offset bytes →
      content.Piece offset bytes → O.Opened fd st' →
      Fetching O fd a offset count (.ok (.submitted ticket), a, st)

theorem submitRead_steady (O : SteadyObject σ path content) (hfd : a.fd = fd) (hpos : 0 < count)
    (hcap : count ≤ a.buffer.capacity) (h : O.Opened fd st) (hle : offset ≤ content.length) :
    Fetching O fd a offset count (a.submitRead offset count st) := by
  unfold submitRead
  rw [checkCount_ok hcap]
  dsimp only
  split
  · obtain ⟨bytes, st', hread, hopened, hpiece, hlen⟩ := O.readAt h hle hpos
    obtain ⟨a', hinstall, hshown⟩ := install_shown offset (Nat.le_trans hlen hcap)
    unfold readNow
    rw [hfd, hread]
    dsimp only
    rw [hinstall]
    exact .finished hshown hpiece hopened
  · obtain ⟨ticket, bytes, st1, st2, hs, hwait, hopened, hpiece⟩ := O.submitRead h hle hpos
    -- what comes on top of what was asked for is not taken
    have hlen : (bytes.take count).length ≤ a.buffer.capacity :=
      Nat.le_trans (List.length_take_le ..) hcap
    obtain ⟨a', hinstall, hshown⟩ := install_shown offset hlen
    rw [hfd, hs]
    exact .out hwait hinstall hshown (hpiece.take hpos) hopened

/-- A read that the caller waits for makes a piece of the object the image. -/
theorem read_steady (O : SteadyObject σ path content) (hfd : a.fd = fd) (hpos : 0 < count)
    (hcap : count ≤ a.buffer.capacity) (h : O.Opened fd st) (hle : offset ≤ content.length) :
    ∃ bytes a' st', a.read offset count st = (.ok bytes.length, a', st') ∧
      a'.Shown offset bytes ∧ content.Piece offset bytes ∧ O.Opened fd st' := by
  have hfetching := submitRead_steady O hfd hpos hcap h hle
  unfold read
  generalize a.submitRead offset count st = started at hfetching
  cases hfetching with
  | @finished bytes a' st' hshown hpiece hopened =>
    exact ⟨bytes, a', st', rfl, hshown, hpiece, hopened⟩
  | @out ticket done bytes a' st1 st2 hwait hfinish hshown hpiece hopened =>
    refine ⟨bytes, a', st2, ?_, hshown, hpiece, hopened⟩
    simp only [settle, hwait, hfinish]

end Adapter

/-! ## The stage -/

namespace Stage

variable {s s' : Stage} {O : SteadyObject σ path content} {pos want : Nat}

/-- A stage with nothing staged and nothing out, whose image is bytes of the object. -/
structure Mirrors (O : SteadyObject σ path content) (fd : Fd) (s : Stage) (st : σ) : Prop where
  fd_eq : s.fd = fd
  opened : O.Opened fd st
  clean : s.dirty = false
  idle : s.outstanding = 0
  image : s.buffer.valid = true → Bytes.HasAt content s.buffer.start s.buffer.image

/-- A stage that was just built mirrors the object. -/
theorem mirrors_of_build {settings : Settings} (hbuild : build settings fd = .ok s)
    (h : O.Opened fd st) : Mirrors O fd s st := by
  obtain ⟨hpos, rfl⟩ := build_eq_ok_iff.mp hbuild
  refine ⟨rfl, h, rfl, rfl, ?_⟩
  intro hvalid
  cases hvalid

/-- What the adapter shows is bytes of the object. -/
theorem mirrors_of_shown {a : Adapter} (hfd : s.fd = fd) (hd : s.dirty = false)
    (hidle : s.outstanding = 0) (hsame : s.adapter.Same a) (hopened : O.Opened fd st)
    (hshown : a.Shown offset bytes) (hpiece : content.Piece offset bytes) :
    Mirrors O fd { s with adapter := a } st := by
  refine ⟨hsame.fd.trans hfd, hopened, hd, hidle, ?_⟩
  intro _
  show Bytes.HasAt content a.buffer.start a.buffer.image
  rw [hshown.start, hshown.image]
  exact hpiece.here

/-- What is counted does not matter. -/
theorem Mirrors.counted (h : Mirrors O fd s st) (stats : CacheStats) :
    Mirrors O fd { s with stats } st := ⟨h.fd_eq, h.opened, h.clean, h.idle, h.image⟩

/-- A read into the buffer, as a miss makes it. -/
theorem Mirrors.missed {n : Nat} {r : Except Failure Nat} {s1 : Stage} {st1 st2 : σ} {a : Adapter}
    (h : Mirrors O fd s st) (hle : pos ≤ content.length) (hf : s.flushNow st = (.ok n, s1, st1))
    (hr : s1.countMiss.adapter.read pos s1.countMiss.capacity st1 = (r, a, st2)) :
    ∃ bytes, r = .ok bytes.length ∧ a.Shown pos bytes ∧ content.Piece pos bytes ∧
      Mirrors O fd { s1.countMiss with adapter := a } st2 := by
  rw [flushNow_clean st h.clean] at hf
  cases hf
  obtain ⟨bytes, a', st', hread, hshown, hpiece, hopened⟩ :=
    Adapter.read_steady O h.fd_eq s.buffer.capacity_pos (Nat.le_refl _) h.opened hle
  have hsame := Adapter.read_same hread
  replace hread : s.adapter.read pos s.capacity st = _ := hread
  replace hr : s.adapter.read pos s.capacity st = _ := hr
  rw [hread] at hr
  cases hr
  exact ⟨bytes, rfl, hshown, hpiece,
    mirrors_of_shown (s := s.countMiss) h.fd_eq h.clean h.idle hsame hopened hshown hpiece⟩

/-- A read through the stage adds a piece of the object to the pieces read before it. -/
theorem Mirrors.readFrom (h : Mirrors O fd s st) (hlast : content.length ≤ Offset.last)
    (hle : pos ≤ content.length) (pieces : List Bytes) :
    ∃ got bytes s' st', s.readFrom st pos want pieces = (.ok got, s', st') ∧
      Mirrors O fd s' st' ∧ got.reverse.flatten = pieces.reverse.flatten ++ bytes ∧
      Bytes.HasAt content pos bytes ∧ (0 < want → content.Piece pos bytes) := by
  fun_induction Stage.readFrom s st pos want pieces with
  | case1 s st pos pieces =>
    refine ⟨pieces, [], s, st, rfl, h, (List.append_nil _).symm, Bytes.hasAt_nil .., ?_⟩
    intro hpos
    exact absurd hpos (Nat.lt_irrefl 0)
  | case2 s st pos want pieces hw hit hh =>
    rename_i ih
    have hat : Bytes.HasAt content pos hit := StagingBuffer.hasAt_copyOut h.image pos want
    obtain ⟨got, bytes, s', st', hr, hmirrors, hgot, hrest, _⟩ :=
      ih (h.counted _) (hat.stop_le hle)
    have hall : Bytes.HasAt content pos (hit ++ bytes) := hat.append hrest
    have hsome : hit ++ bytes ≠ [] := by
      intro hnil
      exact hh (congrArg List.length (List.append_eq_nil_iff.mp hnil).1)
    refine ⟨got, hit ++ bytes, s', st', hr, hmirrors, ?_, hall, fun _ => ⟨hall, fun _ => hsome⟩⟩
    rw [hgot, flatten_piece, List.append_assoc]
  | case3 s st pos want pieces hw hit hh f s1 st1 =>
    rename_i hf
    rw [flushNow_clean st h.clean] at hf
    cases hf
  | case4 s st pos want pieces hw hit hh n s1 st1 hf missed f a st2 =>
    rename_i hr
    obtain ⟨bytes, hok, _⟩ := h.missed hle hf hr
    cases hok
  | case5 s st pos want pieces hw hit hh n s1 st1 hf missed a st2 filled =>
    rename_i hr
    obtain ⟨bytes, hok, _, hpiece, hmirrors⟩ := h.missed hle hf hr
    have hnil : bytes = [] := List.length_eq_zero_iff.mp (Except.ok.inj hok).symm
    subst hnil
    exact ⟨pieces, [], filled, st2, rfl, hmirrors, (List.append_nil _).symm, hpiece.here,
      fun _ => hpiece⟩
  | case6 s st pos want pieces hw hit hh n s1 st1 hf missed count a st2 hr filled hn got hg =>
    obtain ⟨bytes, hok, hshown, hpiece, hmirrors⟩ := h.missed hle hf hr
    have hne : bytes ≠ [] := by
      rintro rfl
      exact hn (Except.ok.inj hok)
    have hpos : 0 < bytes.length := List.length_pos_iff.mpr hne
    have hinside := hpiece.here.stop_le hle
    have hgot : got = bytes.take want := hshown.copyOut hne (by omega) want
    have hpart : content.Piece pos got := hgot ▸ hpiece.take (Nat.pos_of_ne_zero hw)
    exact ⟨got :: pieces, got, filled, st2, rfl, hmirrors, flatten_piece got pieces, hpart.here,
      fun _ => hpart⟩
  | case7 s st pos want pieces hw hit hh n s1 st1 hf missed count a st2 hr filled hn got hg =>
    rename_i ih
    obtain ⟨bytes, hok, hshown, hpiece, hmirrors⟩ := h.missed hle hf hr
    have hat : Bytes.HasAt content pos got :=
      StagingBuffer.hasAt_copyOut (b := filled.buffer) hmirrors.image pos want
    obtain ⟨all, rest, s', st', hrest, hmirrors', hall, hbehind, _⟩ :=
      ih hmirrors (hat.stop_le hle)
    have hboth : Bytes.HasAt content pos (got ++ rest) := hat.append hbehind
    have hsome : got ++ rest ≠ [] := by
      intro hnil
      exact hg (.inr (congrArg List.length (List.append_eq_nil_iff.mp hnil).1))
    refine ⟨all, got ++ rest, s', st', hrest, hmirrors', ?_, hboth,
      fun _ => ⟨hboth, fun _ => hsome⟩⟩
    rw [hall, flatten_piece, List.append_assoc]

/-- A read that the caller waits for brings a piece of the object. -/
theorem Mirrors.readBytes (h : Mirrors O fd s st) (hlast : content.length ≤ Offset.last)
    (hle : offset ≤ content.length) (hwant : 0 < want) :
    ∃ bytes s' st', s.readBytes st offset want = (.ok bytes, s', st') ∧ Mirrors O fd s' st' ∧
      content.Piece offset bytes := by
  obtain ⟨got, bytes, s', st', hr, hmirrors, hgot, _, hpiece⟩ := h.readFrom hlast hle []
  refine ⟨bytes, s', st', ?_, hmirrors, hpiece hwant⟩
  unfold Stage.readBytes
  rw [hr]
  dsimp only
  rw [hgot]
  rfl

/-! ## Reads that are handed in -/

/-- The ways in which a read of a steady object can start through a stage: it is over
with a piece of the object, or it is out and comes to that when it is waited for. -/
inductive Brings (O : SteadyObject σ path content) (fd : Fd) (offset : Nat) :
    Except Failure (Started Completion) × Stage × σ → Prop where
  | finished {bytes : Bytes} {s' : Stage} {st' : σ} : content.Piece offset bytes →
      Mirrors O fd s' st' → Brings O fd offset (.ok (.finished (.bytes (.ok bytes))), s', st')
  | out {ticket : Ticket} {done : Completion} {bytes : Bytes} {s1 s' : Stage} {st1 st' : σ} :
      ObjectStore.await ticket st1 = (some done, st') →
      s1.complete done = (.bytes (.ok bytes), s') → content.Piece offset bytes →
      Mirrors O fd s' st' → Brings O fd offset (.ok (.submitted ticket), s1, st1)

/-- The end of a read that made a piece of the object the image. -/
theorem answerRead_steady {a : Adapter} {len : Nat} (h : Mirrors O fd s st)
    (hlast : content.length ≤ Offset.last) (hle : offset ≤ content.length) (hlen : 0 < len)
    (hsame : s.adapter.Same a) (hshown : a.Shown offset bytes) (hpiece : content.Piece offset bytes)
    (hopened : O.Opened fd st') :
    ∃ got s', ((s.asked offset len).released a).answerRead offset len (.ok bytes.length) =
        (.bytes (.ok got), s') ∧ content.Piece offset got ∧ Mirrors O fd s' st' := by
  have hgot : content.Piece offset (a.buffer.copyOut offset len) := by
    by_cases hnil : bytes = []
    · subst hnil
      have hend := hpiece.at_end hle
      have himage : a.buffer.valid = true → Bytes.HasAt content a.buffer.start a.buffer.image := by
        intro _
        rw [hshown.image]
        exact Bytes.hasAt_nil ..
      exact ⟨StagingBuffer.hasAt_copyOut himage offset len, fun hlt => by omega⟩
    · have hpos : 0 < bytes.length := List.length_pos_iff.mpr hnil
      have hinside := hpiece.here.stop_le hle
      rw [hshown.copyOut hnil (by omega) len]
      exact hpiece.take hlen
  have hmirrors : Mirrors O fd ((s.asked offset len).released a) st' :=
    (mirrors_of_shown (s := (s.asked offset len).released s.adapter) h.fd_eq h.clean rfl hsame
      hopened hshown hpiece)
  exact ⟨_, _, rfl, hgot, hmirrors.counted _⟩

theorem Mirrors.readAio {len : Nat} (h : Mirrors O fd s st) (hlast : content.length ≤ Offset.last)
    (hle : offset ≤ content.length) (hlen : 0 < len) (hrange : offset + len ≤ Offset.last) :
    Brings O fd offset (s.readAio offset len st) := by
  have hclean : s.flushNow st = (.ok 0, s, st) := flushNow_clean st h.clean
  have hfetching : Adapter.Fetching O fd s.adapter offset s.capacity
      (s.adapter.submitRead offset s.capacity st) :=
    Adapter.submitRead_steady O h.fd_eq s.buffer.capacity_pos (Nat.le_refl _) h.opened hle
  rcases hstart : s.readAio offset len st with ⟨r, s', st'⟩
  cases readAio_cases hstart with
  | beyond hbeyond => omega
  | busy _ hbusy => exact absurd h.idle hbusy
  | hit _ hcovers =>
    have hlength := StagingBuffer.length_copyOut_of_covers hcovers
    refine .finished ⟨StagingBuffer.hasAt_copyOut h.image offset len, ?_⟩ (h.counted _)
    intro _ hnil
    rw [hnil] at hlength
    exact Nat.ne_of_lt hlen hlength
  | @large q s1 _ _ _ _ hr hs' =>
    obtain ⟨bytes, s2, st2, hr2, hmirrors, hpiece⟩ := h.readBytes hlast hle hlen
    rw [hr2] at hr
    cases hr
    subst hs'
    exact .finished hpiece (hmirrors.counted _)
  | unflushed _ hf =>
    rw [hclean] at hf
    cases hf
  | refused _ hf hs =>
    rw [hclean] at hf
    cases hf
    rw [hs] at hfetching
    cases hfetching
  | @submitted n ticket s1 a st1 _ _ hf hs =>
    rw [hclean] at hf
    cases hf
    have hsame := Adapter.submitRead_same hs
    rw [hs] at hfetching
    cases hfetching with
    | @out _ done bytes a' _ st2 hwait hfinish hshown hpiece hopened =>
      obtain ⟨got, s', hanswer, hgot, hmirrors⟩ :=
        answerRead_steady h hlast hle hlen (Adapter.finish_same hfinish) hshown hpiece hopened
      refine .out hwait ?_ hgot hmirrors
      rw [← hanswer]
      exact complete_read rfl hfinish
  | @inline n q s1 a st1 _ _ hf hs =>
    rw [hclean] at hf
    cases hf
    have hsame := Adapter.submitRead_same hs
    rw [hs] at hfetching
    cases hfetching with
    | @finished bytes _ _ hshown hpiece hopened =>
      obtain ⟨got, s', hanswer, hgot, hmirrors⟩ :=
        answerRead_steady h hlast hle hlen hsame hshown hpiece hopened
      rw [hanswer]
      exact .finished hgot hmirrors

end Stage

end StagedFiles
