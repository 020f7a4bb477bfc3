-- Whole transfers, whatever the calls they are made of do. The calls that a transfer makes
-- are noted, and a run of notes is described once, for both directions: each call is made
-- where the bytes before it stop, asks for all that is left, and only the last may bring
-- nothing. What a transfer answers is read off its notes.
import StagedFiles.Proofs.Overlay
import StagedFiles.Store.Directory

namespace StagedFiles

/-! ## Notes of calls -/

def Attempt.map {α β : Type} (f : α → β) : Attempt α → Attempt β
  | .moved x => .moved (f x)
  | .interrupted => .interrupted
  | .failed why => .failed why

/-- A call as it was made: where, for how many bytes, and which ones it moved. -/
structure CallNote where
  offset : Nat
  len : Nat
  outcome : Attempt Bytes
  deriving DecidableEq, Repr

namespace CallNote

/-- The bytes that a call moved. -/
def bytes (note : CallNote) : Bytes :=
  match note.outcome with
  | .moved bytes => bytes
  | _ => []

/-- The transfer goes on after the call. -/
def GoesOn (note : CallNote) : Prop :=
  note.outcome = .interrupted ∨ ∃ bytes : Bytes, bytes ≠ [] ∧ note.outcome = .moved bytes

/-- All bytes that calls passed on. -/
def passed (notes : List CallNote) : Bytes := notes.flatMap bytes

/-- How many calls were interrupted. -/
def interruptions (notes : List CallNote) : Nat := notes.countP (·.outcome = .interrupted)

@[simp] theorem passed_nil : passed [] = [] := rfl

@[simp] theorem passed_cons (note : CallNote) (notes : List CallNote) :
    passed (note :: notes) = note.bytes ++ passed notes := rfl

end CallNote

/-! ## Runs of calls -/

/-- How a run of calls stopped. -/
inductive Stopped where
  /-- All bytes were moved. -/
  | full
  /-- A call moved none. -/
  | dry
  | failed (why : SystemFault)
  /-- No more calls were allowed. -/
  | spent
  deriving DecidableEq, Repr

open CallNote

/-- A run of at most `calls` calls for the bytes from `done` on, of `len` bytes at an offset. -/
inductive CallRun (offset len : Nat) : Nat → Nat → List CallNote → Stopped → Prop
  | full {calls done : Nat} : len ≤ done → CallRun offset len calls done [] .full
  | spent {done : Nat} : done < len → CallRun offset len 0 done [] .spent
  | dry {calls done : Nat} : done < len →
      CallRun offset len (calls + 1) done [⟨offset + done, len - done, .moved []⟩] .dry
  | failed {calls done : Nat} {why : SystemFault} : done < len →
      CallRun offset len (calls + 1) done [⟨offset + done, len - done, .failed why⟩] (.failed why)
  | interrupted {calls done : Nat} {notes : List CallNote} {stopped : Stopped} : done < len →
      CallRun offset len calls done notes stopped →
      CallRun offset len (calls + 1) done
        (⟨offset + done, len - done, .interrupted⟩ :: notes) stopped
  | moved {calls done : Nat} {bytes : Bytes} {notes : List CallNote} {stopped : Stopped} :
      done < len → bytes ≠ [] → bytes.length ≤ len - done →
      CallRun offset len calls (done + bytes.length) notes stopped →
      CallRun offset len (calls + 1) done
        (⟨offset + done, len - done, .moved bytes⟩ :: notes) stopped

/-- Calls that follow each other from `done` bytes on: each is made where the bytes before
it stop and asks for all that is left, and after one that does not go on there is none. -/
def InOrderFrom (offset len done : Nat) (notes : List CallNote) : Prop :=
  ∀ before note after, notes = before ++ note :: after →
    note.offset = offset + (done + (passed before).length) ∧
      note.len = len - (done + (passed before).length) ∧
      done + (passed before).length < len ∧
      done + (passed before).length + note.bytes.length ≤ len ∧
      (after ≠ [] → note.GoesOn)

namespace CallRun

variable {offset len calls done : Nat} {notes : List CallNote} {stopped : Stopped}

/-- Calls in order, with one in front of them that is made at `done`. -/
theorem inOrder_cons {note : CallNote} (hoffset : note.offset = offset + done)
    (hlen : note.len = len - done) (hdone : done < len)
    (hbytes : done + note.bytes.length ≤ len) (hon : notes ≠ [] → note.GoesOn)
    (h : InOrderFrom offset len (done + note.bytes.length) notes) :
    InOrderFrom offset len done (note :: notes) := by
  intro before each after hsplit
  cases before with
  | nil =>
    obtain ⟨rfl, rfl⟩ := List.cons.inj hsplit
    exact ⟨hoffset, hlen, hdone, hbytes, hon⟩
  | cons first before =>
    rw [List.cons_append] at hsplit
    obtain ⟨rfl, hrest⟩ := List.cons.inj hsplit
    have hnext := h before each after hrest
    rw [Nat.add_assoc done] at hnext
    rw [passed_cons, List.length_append]
    exact hnext

/-- The calls of a run are in order. -/
theorem inOrder (h : CallRun offset len calls done notes stopped) :
    InOrderFrom offset len done notes := by
  have hnone : ∀ done, InOrderFrom offset len done [] := by
    intro done before note after hsplit
    cases before with
    | nil => cases hsplit
    | cons _ _ => cases hsplit
  induction h with
  | full _ => exact hnone _
  | spent _ => exact hnone _
  | dry hlt => exact inOrder_cons rfl rfl hlt (Nat.le_of_lt hlt) (absurd rfl) (hnone _)
  | failed hlt => exact inOrder_cons rfl rfl hlt (Nat.le_of_lt hlt) (absurd rfl) (hnone _)
  | interrupted hlt _ ih =>
    exact inOrder_cons rfl rfl hlt (Nat.le_of_lt hlt) (fun _ => Or.inl rfl) ih
  | @moved _ done bytes _ _ hlt hne hle _ ih =>
    have hsum : done + bytes.length ≤ len := by omega
    exact inOrder_cons rfl rfl hlt hsum (fun _ => Or.inr ⟨_, hne, rfl⟩) ih

/-- What stopped a run is its last call, unless all bytes were moved or no more calls were
allowed. -/
theorem stopped_eq (h : CallRun offset len calls done notes stopped) :
    match stopped with
    | .full => len ≤ done + (passed notes).length
    | .dry => ∃ note ∈ notes.getLast?, note.outcome = .moved []
    | .failed why => ∃ note ∈ notes.getLast?, note.outcome = .failed why
    | .spent => notes.length = calls ∧ (∀ note ∈ notes, note.GoesOn) ∧
        done + (passed notes).length < len ∧
        calls ≤ (passed notes).length + interruptions notes := by
  have hlast : ∀ {note : CallNote} {notes : List CallNote} {P : CallNote → Prop},
      (∃ last ∈ notes.getLast?, P last) → ∃ last ∈ (note :: notes).getLast?, P last := by
    rintro note notes P ⟨last, hmem, hp⟩
    refine ⟨last, ?_, hp⟩
    rw [List.getLast?_cons]
    rw [Option.mem_def] at hmem
    rw [hmem]
    rfl
  induction h with
  | full hle => exact hle
  | spent hlt => exact ⟨rfl, fun _ hmem => absurd hmem List.not_mem_nil, hlt, Nat.zero_le _⟩
  | dry _ => exact ⟨_, rfl, rfl⟩
  | failed _ => exact ⟨_, rfl, rfl⟩
  | @interrupted _ _ _ stopped hlt _ ih =>
    cases stopped with
    | full => exact ih
    | dry => exact hlast ih
    | failed why => exact hlast ih
    | spent =>
      obtain ⟨hcalls, hon, hshort, hcount⟩ := ih
      refine ⟨congrArg (· + 1) hcalls, List.forall_mem_cons.mpr ⟨Or.inl rfl, hon⟩, hshort, ?_⟩
      have hmore : ∀ note : CallNote, note.outcome = .interrupted → ∀ notes,
          interruptions (note :: notes) = interruptions notes + 1 := by
        intro note hnote notes
        exact List.countP_cons_of_pos (by simpa using hnote)
      rw [hmore _ rfl]
      exact Nat.succ_le_succ hcount
  | @moved _ _ bytes notes stopped hlt hne hle _ ih =>
    have hall : ∀ first : CallNote, first.bytes = bytes →
        (passed (first :: notes)).length = bytes.length + (passed notes).length := by
      intro first hfirst
      rw [passed_cons, List.length_append, hfirst]
    cases stopped with
    | full =>
      dsimp only at ih ⊢
      rw [hall _ rfl, ← Nat.add_assoc]
      exact ih
    | dry => exact hlast ih
    | failed why => exact hlast ih
    | spent =>
      obtain ⟨hcalls, hon, hshort, hcount⟩ := ih
      have hsame : ∀ note : CallNote, note.outcome = .moved bytes → ∀ notes,
          interruptions (note :: notes) = interruptions notes := by
        intro note hnote notes
        exact List.countP_cons_of_neg (by simp [hnote])
      have hpos := List.length_pos_iff.mpr hne
      dsimp only
      rw [hall _ rfl, hsame _ rfl]
      refine ⟨congrArg (· + 1) hcalls,
        List.forall_mem_cons.mpr ⟨Or.inr ⟨_, hne, rfl⟩, hon⟩, ?_, ?_⟩
      · omega
      · omega

/-- A call that moved none is the last of its run. -/
theorem dry_of_mem (h : CallRun offset len calls done notes stopped) {note : CallNote}
    (hmem : note ∈ notes) (hnone : note.outcome = .moved []) : stopped = .dry := by
  induction h with
  | full _ => cases hmem
  | spent _ => cases hmem
  | dry _ => rfl
  | failed _ =>
    rw [List.mem_singleton.mp hmem] at hnone
    cases hnone
  | interrupted _ _ ih =>
    rcases List.mem_cons.mp hmem with rfl | hrest
    · cases hnone
    · exact ih hrest
  | moved _ hne _ _ ih =>
    rcases List.mem_cons.mp hmem with rfl | hrest
    · cases hnone
      exact absurd rfl hne
    · exact ih hrest

/-- A run never moves more than it was asked to. -/
theorem passed_le (h : CallRun offset len calls done notes stopped) (hdone : done ≤ len) :
    done + (passed notes).length ≤ len := by
  induction h with
  | full _ => exact hdone
  | spent _ => exact hdone
  | dry _ => exact hdone
  | failed _ => exact hdone
  | interrupted _ _ ih => exact ih hdone
  | @moved _ done bytes notes _ hlt _ hle _ ih =>
    have hrest := ih (by omega)
    rw [passed_cons, List.length_append]
    show done + (bytes.length + _) ≤ len
    omega

/-- Nothing to move takes no call. -/
theorem no_calls (h : CallRun offset len calls done notes stopped) (hdone : len ≤ done) :
    notes = [] := by
  cases h with
  | full _ => rfl
  | spent hlt => rfl
  | dry hlt => exact absurd hdone (Nat.not_le.mpr hlt)
  | failed hlt => exact absurd hdone (Nat.not_le.mpr hlt)
  | interrupted hlt _ => exact absurd hdone (Nat.not_le.mpr hlt)
  | moved hlt _ _ _ => exact absurd hdone (Nat.not_le.mpr hlt)

/-- What was moved is laid call by call where it belongs. -/
theorem laid {buffer : Bytes} (h : CallRun offset len calls done notes stopped)
    (hbuffer : len ≤ buffer.length) (hdone : done ≤ len) :
    notes.foldl (fun b note => Bytes.overlay b (note.offset - offset) note.bytes) buffer =
      Bytes.overlay buffer done (passed notes) := by
  have hnothing : ∀ (b : Bytes) {i : Nat}, i ≤ b.length → Bytes.overlay b i [] = b := by
    intro b i hi
    unfold Bytes.overlay Bytes.resize
    simp [hi]
  induction h generalizing buffer with
  | full _ => exact (hnothing buffer (Nat.le_trans hdone hbuffer)).symm
  | spent _ => exact (hnothing buffer (Nat.le_trans hdone hbuffer)).symm
  | @dry _ done _ =>
    show Bytes.overlay buffer (offset + done - offset) [] = _
    rw [Nat.add_sub_cancel_left]
    rfl
  | @failed _ done _ _ =>
    show Bytes.overlay buffer (offset + done - offset) [] = _
    rw [Nat.add_sub_cancel_left]
    rfl
  | @interrupted _ done notes _ _ _ ih =>
    rw [List.foldl_cons]
    show List.foldl _ (Bytes.overlay buffer (offset + done - offset) []) notes = _
    rw [Nat.add_sub_cancel_left, hnothing buffer (Nat.le_trans hdone hbuffer)]
    exact ih hbuffer hdone
  | @moved _ done bytes notes _ hlt _ hle _ ih =>
    rw [List.foldl_cons]
    show List.foldl _ (Bytes.overlay buffer (offset + done - offset) bytes) notes =
      Bytes.overlay buffer done (bytes ++ passed notes)
    rw [Nat.add_sub_cancel_left, Bytes.overlay_append]
    refine ih ?_ (by omega)
    rw [Bytes.length_overlay]
    omega

end CallRun

/-! ## The calls of a transfer, noted -/

namespace FullTransfer

variable {α β τ : Type}

/-- The calls are made and noted. -/
def noted (size : β → Nat) (went : β → α → Bytes) (call : Nat → β → τ → Attempt α × τ)
    (offset : Nat) (asked : β) (t : τ × List CallNote) : Attempt α × (τ × List CallNote) :=
  let (outcome, inner) := call offset asked t.1
  (outcome, inner, t.2 ++ [⟨offset, size asked, outcome.map (went asked)⟩])

/-- The calls of a read, noted with the bytes that they brought. -/
def notedRead (call : Nat → Nat → τ → Attempt Bytes × τ) :
    Nat → Nat → τ × List CallNote → Attempt Bytes × (τ × List CallNote) :=
  noted id (fun _ bytes => bytes) call

/-- The calls of a write, noted with the bytes that they took of what they were handed. -/
def notedWrite (call : Nat → Bytes → τ → Attempt Nat × τ) :
    Nat → Bytes → τ × List CallNote → Attempt Nat × (τ × List CallNote) :=
  noted List.length (fun data n => data.take n) call

theorem noted_eq (size : β → Nat) (went : β → α → Bytes) {call : Nat → β → τ → Attempt α × τ}
    {offset : Nat} {asked : β} {t t' : τ} {outcome : Attempt α} (seen : List CallNote)
    (h : call offset asked t = (outcome, t')) :
    noted size went call offset asked (t, seen) =
      (outcome, t', seen ++ [⟨offset, size asked, outcome.map (went asked)⟩]) := by
  unfold noted
  rw [h]

/-- What a read answers after its calls. -/
def readAnswer (bytes : Bytes) : Stopped → Option (Except Broken Bytes)
  | .full | .dry => some (.ok bytes)
  | .failed why => some (.error ⟨bytes, why⟩)
  | .spent => none

/-- What a write answers after its calls. -/
def writeAnswer (n : Nat) : Stopped → Option (Except SystemFault Nat)
  | .full => some (.ok n)
  | .dry => some (.error .nothingWritten)
  | .failed why => some (.error why)
  | .spent => none

/-- A read answers what its run of calls comes to. -/
theorem readFrom_run {call : Nat → Nat → τ → Attempt Bytes × τ}
    (hcall : ∀ offset len t bytes t', call offset len t = (.moved bytes, t') → bytes.length ≤ len)
    {calls offset len : Nat} {done : Bytes} {t t' : τ} {r : Option (Except Broken Bytes)}
    (seen : List CallNote) (h : readFrom call calls offset len done t = (r, t')) :
    ∃ notes stopped, CallRun offset len calls done.length notes stopped ∧
      r = readAnswer (done ++ passed notes) stopped ∧
      readFrom (notedRead call) calls offset len done (t, seen) = (r, t', seen ++ notes) := by
  induction calls generalizing done t seen with
  | zero =>
    unfold readFrom at h ⊢
    split
    · rename_i hfull
      rw [if_pos hfull] at h
      cases h
      exact ⟨[], .full, .full hfull, by rw [passed_nil, List.append_nil]; rfl,
        by rw [List.append_nil]⟩
    · rename_i hshort
      rw [if_neg hshort] at h
      cases h
      exact ⟨[], .spent, .spent (Nat.lt_of_not_le hshort), rfl, by rw [List.append_nil]⟩
  | succ calls ih =>
    unfold readFrom at h ⊢
    split
    · rename_i hfull
      rw [if_pos hfull] at h
      cases h
      exact ⟨[], .full, .full hfull, by rw [passed_nil, List.append_nil]; rfl,
        by rw [List.append_nil]⟩
    · rename_i hshort
      have hlt := Nat.lt_of_not_le hshort
      rw [if_neg hshort] at h
      dsimp only at h ⊢
      rcases hc : call (offset + done.length) (len - done.length) t with ⟨outcome, t1⟩
      have hnote := noted_eq id (fun _ bytes => bytes) seen hc
      rw [notedRead, hnote]
      rw [hc] at h
      rcases outcome with bytes | _ | why
      · cases bytes with
        | nil =>
          cases h
          exact ⟨_, .dry, .dry hlt, by simp [passed, bytes, readAnswer], rfl⟩
        | cons b bytes =>
          have hle := hcall _ _ _ _ _ hc
          obtain ⟨notes, stopped, hrun, hr, hread⟩ := ih _ h
          rw [List.length_append] at hrun
          refine ⟨_, stopped, .moved hlt (List.cons_ne_nil b bytes) hle hrun, ?_, ?_⟩
          · rw [hr, List.append_assoc]
            rfl
          · rw [← List.append_cons] at hread
            exact hread
      · obtain ⟨notes, stopped, hrun, hr, hread⟩ := ih _ h
        refine ⟨_, stopped, .interrupted hlt hrun, hr, ?_⟩
        rw [← List.append_cons] at hread
        exact hread
      · cases h
        exact ⟨_, .failed why, .failed hlt, by simp [passed, bytes, readAnswer], rfl⟩

/-- A write answers what its run of calls comes to, and what was taken is a front of what
is left of the data. -/
theorem writeFrom_run {call : Nat → Bytes → τ → Attempt Nat × τ}
    (hcall : ∀ offset data t n t', call offset data t = (.moved n, t') → n ≤ data.length)
    {calls offset done : Nat} {data : Bytes} {t t' : τ} {r : Option (Except SystemFault Nat)}
    (seen : List CallNote) (h : writeFrom call calls offset (data.drop done) done t = (r, t')) :
    ∃ notes stopped, CallRun offset data.length calls done notes stopped ∧
      r = writeAnswer (done + (passed notes).length) stopped ∧
      passed notes <+: data.drop done ∧
      writeFrom (notedWrite call) calls offset (data.drop done) done (t, seen) =
        (r, t', seen ++ notes) := by
  induction calls generalizing done t seen with
  | zero =>
    unfold writeFrom at h ⊢
    split
    · rename_i hfull
      rw [if_pos hfull] at h
      cases h
      exact ⟨[], .full, .full (List.drop_eq_nil_iff.mp hfull), rfl, List.nil_prefix,
        by rw [List.append_nil]⟩
    · rename_i hshort
      rw [if_neg hshort] at h
      cases h
      exact ⟨[], .spent, .spent (Nat.lt_of_not_le (mt List.drop_eq_nil_iff.mpr hshort)), rfl,
        List.nil_prefix, by rw [List.append_nil]⟩
  | succ calls ih =>
    unfold writeFrom at h ⊢
    split
    · rename_i hfull
      rw [if_pos hfull] at h
      cases h
      exact ⟨[], .full, .full (List.drop_eq_nil_iff.mp hfull), rfl, List.nil_prefix,
        by rw [List.append_nil]⟩
    · rename_i hshort
      have hlt := Nat.lt_of_not_le (mt List.drop_eq_nil_iff.mpr hshort)
      rw [if_neg hshort] at h
      dsimp only at h ⊢
      rcases hc : call (offset + done) (data.drop done) t with ⟨outcome, t1⟩
      have hnote := noted_eq List.length (fun data n => data.take n) seen hc
      rw [notedWrite, hnote, List.length_drop]
      rw [hc] at h
      rcases outcome with n | _ | why
      · cases n with
        | zero =>
          cases h
          exact ⟨_, .dry, .dry hlt, rfl, List.nil_prefix, rfl⟩
        | succ n =>
          have htaken : ((data.drop done).take (n + 1)).length = n + 1 :=
            List.length_take_of_le (hcall _ _ _ _ _ hc)
          have hrest : (data.drop done).drop (n + 1) = data.drop (done + (n + 1)) :=
            List.drop_drop
          have h' : writeFrom call calls offset ((data.drop done).drop (n + 1)) (done + (n + 1)) t1 =
            (r, t') := h
          rw [hrest] at h'
          obtain ⟨notes, stopped, hrun, hr, hfront, hwrite⟩ := ih (seen ++ [⟨offset + done,
            data.length - done, .moved ((data.drop done).take (n + 1))⟩]) h'
          have hne : (data.drop done).take (n + 1) ≠ [] := by
            rw [← List.length_pos_iff, htaken]
            exact Nat.succ_pos n
          have hle : ((data.drop done).take (n + 1)).length ≤ data.length - done := by
            rw [← List.length_drop]
            exact List.length_take_le' ..
          refine ⟨_, stopped, .moved hlt hne hle (by rw [htaken]; exact hrun), ?_, ?_, ?_⟩
          · rw [hr, passed_cons]
            show _ = writeAnswer (done + ((data.drop done).take (n + 1) ++ passed notes).length) _
            rw [List.length_append, htaken, Nat.add_assoc]
          · rw [passed_cons]
            show (data.drop done).take (n + 1) ++ passed notes <+: data.drop done
            have hall := (List.prefix_append_right_inj ((data.drop done).take (n + 1))).mpr hfront
            rwa [← hrest, List.take_append_drop] at hall
          · rw [← hrest, ← List.append_cons] at hwrite
            exact hwrite
      · obtain ⟨notes, stopped, hrun, hr, hfront, hwrite⟩ := ih (seen ++ [⟨offset + done,
          data.length - done, .interrupted⟩]) h
        refine ⟨_, stopped, .interrupted hlt hrun, hr, hfront, ?_⟩
        rw [← List.append_cons] at hwrite
        exact hwrite
      · cases h
        exact ⟨_, .failed why, .failed hlt, rfl, List.nil_prefix, rfl⟩

/-! ## What a transfer comes to -/

/-- A read of `len` bytes: it has what its calls brought, all of it or up to a call that
brought nothing or failed, and without an answer it has used up its calls. Each call landed
in the buffer behind the ones before it. -/
structure ReadExactly (offset len calls : Nat) (notes : List CallNote)
    (r : Option (Except Broken Bytes)) : Prop where
  inOrder : InOrderFrom offset len 0 notes
  whole : ∀ bytes, r = some (.ok bytes) → bytes = passed notes ∧
    (bytes.length = len ∨ ∃ note ∈ notes.getLast?, note.outcome = .moved [])
  broken : ∀ b, r = some (.error b) → b.landed = passed notes ∧
    ∃ note ∈ notes.getLast?, note.outcome = .failed b.why
  going : r = none → notes.length = calls ∧ (∀ note ∈ notes, note.GoesOn) ∧
    (passed notes).length < len ∧ calls ≤ (passed notes).length + interruptions notes
  laid : ∀ buffer : Bytes, buffer.length = len →
    notes.foldl (fun b note => Bytes.overlay b (note.offset - offset) note.bytes) buffer =
      passed notes ++ buffer.drop (passed notes).length
  idle : len = 0 → notes = []

/-- A write of data: its calls took a front of the data, all of it when it comes out well,
and it fails where a call fails or takes nothing. -/
structure WroteExactly (offset calls : Nat) (data : Bytes) (notes : List CallNote)
    (r : Option (Except SystemFault Nat)) : Prop where
  inOrder : InOrderFrom offset data.length 0 notes
  front : passed notes <+: data
  whole : ∀ n, r = some (.ok n) → n = data.length ∧ passed notes = data
  broken : ∀ why, r = some (.error why) → ∃ note ∈ notes.getLast?,
    note.outcome = .failed why ∨ note.outcome = .moved [] ∧ why = .nothingWritten
  dry : ∀ note ∈ notes, note.outcome = .moved [] → r = some (.error .nothingWritten)
  going : r = none → notes.length = calls ∧ (∀ note ∈ notes, note.GoesOn) ∧
    (passed notes).length < data.length ∧ calls ≤ (passed notes).length + interruptions notes
  idle : data = [] → notes = []

theorem read_exactly {offset len calls : Nat} {notes : List CallNote} {stopped : Stopped}
    (h : CallRun offset len calls 0 notes stopped) :
    ReadExactly offset len calls notes (readAnswer (passed notes) stopped) := by
  have hstop := h.stopped_eq
  have hle := h.passed_le (Nat.zero_le _)
  rw [Nat.zero_add] at hle
  refine ⟨h.inOrder, ?_, ?_, ?_, ?_, fun hzero => h.no_calls (Nat.le_of_eq hzero)⟩
  · intro bytes hr
    cases stopped with
    | full =>
      cases hr
      dsimp only at hstop
      exact ⟨rfl, Or.inl (by omega)⟩
    | dry =>
      cases hr
      exact ⟨rfl, Or.inr hstop⟩
    | failed why => cases hr
    | spent => cases hr
  · intro b hr
    cases stopped with
    | failed why =>
      cases hr
      exact ⟨rfl, hstop⟩
    | full => cases hr
    | dry => cases hr
    | spent => cases hr
  · intro hr
    cases stopped with
    | spent =>
      dsimp only at hstop
      rwa [Nat.zero_add] at hstop
    | full => cases hr
    | dry => cases hr
    | failed why => cases hr
  · intro buffer hbuffer
    rw [h.laid (Nat.le_of_eq hbuffer.symm) (Nat.zero_le _)]
    unfold Bytes.overlay Bytes.resize
    rw [Nat.zero_add]
    rfl

theorem wrote_exactly {offset calls : Nat} {data : Bytes} {notes : List CallNote}
    {stopped : Stopped} (h : CallRun offset data.length calls 0 notes stopped)
    (hfront : passed notes <+: data) :
    WroteExactly offset calls data notes (writeAnswer (passed notes).length stopped) := by
  have hstop := h.stopped_eq
  refine ⟨h.inOrder, hfront, ?_, ?_, ?_, ?_, ?_⟩
  · intro n hr
    cases stopped with
    | full =>
      cases hr
      dsimp only at hstop
      rw [Nat.zero_add] at hstop
      have hall := hfront.eq_of_length_le hstop
      exact ⟨congrArg List.length hall, hall⟩
    | dry => cases hr
    | failed why => cases hr
    | spent => cases hr
  · intro why hr
    cases stopped with
    | dry =>
      cases hr
      obtain ⟨note, hmem, hnone⟩ := hstop
      exact ⟨note, hmem, Or.inr ⟨hnone, rfl⟩⟩
    | failed why =>
      cases hr
      obtain ⟨note, hmem, hfailed⟩ := hstop
      exact ⟨note, hmem, Or.inl hfailed⟩
    | full => cases hr
    | spent => cases hr
  · intro note hmem hnone
    rw [h.dry_of_mem hmem hnone]
    rfl
  · intro hr
    cases stopped with
    | spent =>
      dsimp only at hstop
      rwa [Nat.zero_add] at hstop
    | full => cases hr
    | dry => cases hr
    | failed why => cases hr
  · rintro rfl
    exact h.no_calls (Nat.zero_le _)

/-- Whatever calls move, none, some or all of what they are asked for, and however often they
are interrupted or fail, a read brings exactly what its calls brought and a write passes on
exactly a front of its data, each byte once and in its place. The notes do not touch the
transfer. -/
theorem a_whole_transfer_is_exact (calls offset : Nat) (t : τ) :
    (∀ (call : Nat → Nat → τ → Attempt Bytes × τ) (len : Nat),
      (∀ offset len t bytes t', call offset len t = (.moved bytes, t') → bytes.length ≤ len) →
      ∃ r t' notes, read call calls offset len t = (r, t') ∧
        read (notedRead call) calls offset len (t, []) = (r, t', notes) ∧
        ReadExactly offset len calls notes r) ∧
    (∀ (call : Nat → Bytes → τ → Attempt Nat × τ) (data : Bytes),
      (∀ offset data t n t', call offset data t = (.moved n, t') → n ≤ data.length) →
      ∃ r t' notes, write call calls offset data t = (r, t') ∧
        write (notedWrite call) calls offset data (t, []) = (r, t', notes) ∧
        WroteExactly offset calls data notes r) := by
  constructor
  · intro call len hcall
    rcases hr : read call calls offset len t with ⟨r, t'⟩
    obtain ⟨notes, stopped, hrun, rfl, hnoted⟩ := readFrom_run hcall [] hr
    rw [List.nil_append] at hnoted
    exact ⟨_, t', notes, rfl, hnoted, read_exactly hrun⟩
  · intro call data hcall
    rcases hw : write call calls offset data t with ⟨r, t'⟩
    have hwrite : writeFrom call calls offset (data.drop 0) 0 t = (r, t') := hw
    obtain ⟨notes, stopped, hrun, rfl, hfront, hnoted⟩ := writeFrom_run hcall [] hwrite
    rw [List.drop_zero] at hfront hnoted
    rw [List.nil_append, Nat.zero_add] at hnoted
    rw [Nat.zero_add]
    exact ⟨_, t', notes, rfl, hnoted, wrote_exactly hrun hfront⟩

/-! ## Calls that follow a script -/

/-- A read that comes out as the script says, as far as it was asked for. -/
def scriptedRead (_ len : Nat) : List (Attempt Bytes) → Attempt Bytes × List (Attempt Bytes)
  | [] => (.moved [], [])
  | next :: script => (next.map (·.take len), script)

/-- A write that comes out as the script says, as far as it was asked to. -/
def scriptedWrite (_ : Nat) (data : Bytes) :
    List (Attempt Nat) → Attempt Nat × List (Attempt Nat)
  | [] => (.moved 0, [])
  | next :: script => (next.map (min · data.length), script)

/-- A read of five bytes at 10 that is interrupted and cut, and a write of four that is cut
and then fails. -/
theorem five_bytes_in_four_calls_and_three_before_a_fault :
    (∃ notes, read (notedRead scriptedRead) 4 10 5
        ([.moved [1, 2], .interrupted, .moved [3], .moved [4, 5, 6]], []) =
          (some (.ok [1, 2, 3, 4, 5]), [], notes) ∧
      ReadExactly 10 5 4 notes (some (.ok [1, 2, 3, 4, 5]))) ∧
    ∃ notes, write (notedWrite scriptedWrite) 9 10 [1, 2, 3, 4]
        ([.moved 1, .moved 2, .failed (.errno 28)], []) =
          (some (.error (.errno 28)), [], notes) ∧
      WroteExactly 10 9 [1, 2, 3, 4] notes (some (.error (.errno 28))) := by
  constructor
  · obtain ⟨r, t', notes, hr, hnoted, hexact⟩ :=
      (a_whole_transfer_is_exact 4 10
        [.moved [1, 2], .interrupted, .moved [3], .moved [4, 5, 6]]).1 scriptedRead 5
        (by
          intro offset len script bytes script' h
          rcases script with _ | ⟨_ | _ | _, script⟩
          · cases h
            exact Nat.zero_le _
          · cases h
            exact List.length_take_le ..
          · cases h
          · cases h)
    have hanswer : read scriptedRead 4 10 5
        [.moved [1, 2], .interrupted, .moved [3], .moved [4, 5, 6]] =
          (some (.ok [1, 2, 3, 4, 5]), []) := by decide
    cases hr.symm.trans hanswer
    exact ⟨notes, hnoted, hexact⟩
  · obtain ⟨r, t', notes, hw, hnoted, hexact⟩ :=
      (a_whole_transfer_is_exact 9 10 [.moved 1, .moved 2, .failed (.errno 28)]).2
        scriptedWrite [1, 2, 3, 4]
        (by
          intro offset data script n script' h
          rcases script with _ | ⟨_ | _ | _, script⟩
          · cases h
            exact Nat.zero_le _
          · cases h
            exact Nat.min_le_right ..
          · cases h
          · cases h)
    have hanswer : write scriptedWrite 9 10 [1, 2, 3, 4]
        [.moved 1, .moved 2, .failed (.errno 28)] = (some (.error (.errno 28)), []) := by decide
    cases hw.symm.trans hanswer
    exact ⟨notes, hnoted, hexact⟩

end FullTransfer

end StagedFiles
