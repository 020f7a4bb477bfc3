-- What a vectored read costs. Every extent that asks for a byte pays for one read at most,
-- however the extents are grouped. A group in which none asks for a byte still costs a read
-- when its extents lie apart and near enough for one: its span is looked at, not its bytes.
import StagedFiles.Proofs.GroupCalls
import StagedFiles.Proofs.GroupCuts
import StagedFiles.Proofs.VectoredReads

namespace StagedFiles.RawFile

/-! ## What is counted -/

/-- How many extents ask for a byte. -/
def wanted (es : List Extent) : Nat := es.countP fun e => e.len ≠ 0

/-- None of the group asks for a byte, and yet the group has a span that one read covers. -/
def Hollow (group : List Extent) : Prop :=
  wanted group = 0 ∧ Extent.span group ≠ 0 ∧ Extent.span group ≤ maxGroupSpan

instance (group : List Extent) : Decidable (Hollow group) :=
  inferInstanceAs (Decidable (_ ∧ _ ∧ _))

def hollows (groups : List (List Extent)) : Nat := groups.countP fun g => Hollow g

theorem wanted_eq_zero_iff {es : List Extent} : wanted es = 0 ↔ ∀ e ∈ es, e.len = 0 := by
  simp [wanted, List.countP_eq_zero]

theorem wanted_flatten_cons (group : List Extent) (groups : List (List Extent)) :
    wanted (group :: groups).flatten = wanted group + wanted groups.flatten := by
  simp [wanted]

theorem hollows_cons (group : List Extent) (groups : List (List Extent)) :
    hollows (group :: groups) = (if Hollow group then 1 else 0) + hollows groups := by
  by_cases h : Hollow group
  · simp [hollows, h, Nat.add_comm]
  · simp [hollows, h]

/-- An extent alone has a span only when it asks for a byte. -/
theorem not_hollow_of_short {group : List Extent} (h : group.length ≤ 1) : ¬ Hollow group := by
  rintro ⟨hwanted, hspan, -⟩
  apply hspan
  match group with
  | [] => simp [Extent.span, Extent.highest, Extent.lowest]
  | [e] =>
    have hlen := wanted_eq_zero_iff.mp hwanted e (by simp)
    simp only [Extent.span, Extent.highest, Extent.lowest, List.foldl_cons, List.foldl_nil,
      Extent.stop, Offset.clampedEnd, hlen]
    omega
  | _ :: _ :: _ => simp at h

/-! ## The price of the calls that are asked for -/

variable (fd : Fd)

theorem length_extentsCalls (es : List Extent) :
    (es.flatMap (extentCalls fd)).length = wanted es := by
  induction es with
  | nil => simp [wanted]
  | cons e es ih =>
    rw [List.flatMap_cons, List.length_append, ih]
    by_cases hempty : e.len = 0
    · simp [extentCalls, wanted, hempty]
    · simp [extentCalls, wanted, hempty, Nat.add_comm]

/-- A group that no one read covers asks for a read an extent, one without a span for none,
and every other one for a single read. -/
theorem length_groupCalls_le (group : List Extent) :
    (groupCalls fd group).length ≤ wanted group + if Hollow group then 1 else 0 := by
  unfold groupCalls
  by_cases hfar : maxGroupSpan < Extent.span group
  · rw [if_pos hfar, length_extentsCalls]
    omega
  · by_cases hspan : Extent.span group = 0
    · simp [hspan]
    · by_cases hwanted : wanted group = 0
      · have hhollow : Hollow group := ⟨hwanted, hspan, by omega⟩
        simp [hfar, hspan, hhollow]
      · simp only [hfar, hspan, if_false, List.length_singleton]
        omega

/-- Where none asks for a byte, a hollow group asks for one read and any other for none. -/
theorem length_groupCalls_of_unwanted {group : List Extent} (h : wanted group = 0) :
    (groupCalls fd group).length = if Hollow group then 1 else 0 := by
  unfold groupCalls
  by_cases hfar : maxGroupSpan < Extent.span group
  · have hsolid : ¬ Hollow group := fun hhollow => absurd hhollow.2.2 (by omega)
    rw [if_pos hfar, length_extentsCalls, if_neg hsolid, h]
  · by_cases hspan : Extent.span group = 0
    · have hsolid : ¬ Hollow group := fun hhollow => hhollow.2.1 hspan
      simp [hspan, hsolid]
    · have hhollow : Hollow group := ⟨h, hspan, by omega⟩
      simp [hfar, hspan, hhollow]

theorem length_groupsCalls_le (groups : List (List Extent)) :
    (groups.flatMap (groupCalls fd)).length ≤ wanted groups.flatten + hollows groups := by
  induction groups with
  | nil => simp
  | cons group groups ih =>
    have hgroup := length_groupCalls_le fd group
    rw [List.flatMap_cons, List.length_append, wanted_flatten_cons, hollows_cons]
    omega

theorem length_groupsCalls_of_unwanted {groups : List (List Extent)}
    (h : wanted groups.flatten = 0) : (groups.flatMap (groupCalls fd)).length = hollows groups := by
  induction groups with
  | nil => simp [hollows]
  | cons group groups ih =>
    rw [wanted_flatten_cons] at h
    have hgroup : (groupCalls fd group).length = if Hollow group then 1 else 0 :=
      length_groupCalls_of_unwanted fd (by omega)
    have hrest := ih (by omega)
    rw [List.flatMap_cons, List.length_append, hollows_cons, hgroup, hrest]

/-- A call that asks the descriptor for bytes. -/
def AsksForBytes (c : StoreCall) : Prop := ∃ offset len, len ≠ 0 ∧ c = .readAt fd offset len

variable {fd}

theorem reads_of_mem_extentCalls {e : Extent} {c : StoreCall} (h : c ∈ extentCalls fd e) :
    AsksForBytes fd c := by
  unfold extentCalls at h
  by_cases hempty : e.len = 0
  · simp [hempty] at h
  · simp only [hempty, if_false, List.mem_singleton] at h
    exact ⟨e.start, e.len, hempty, h⟩

theorem reads_of_mem_groupCalls {group : List Extent} {c : StoreCall}
    (h : c ∈ groupCalls fd group) : AsksForBytes fd c := by
  unfold groupCalls at h
  by_cases hfar : maxGroupSpan < Extent.span group
  · rw [if_pos hfar] at h
    obtain ⟨e, -, he⟩ := List.mem_flatMap.mp h
    exact reads_of_mem_extentCalls he
  · by_cases hspan : Extent.span group = 0
    · simp [hspan] at h
    · simp only [hfar, hspan, if_false, List.mem_singleton] at h
      exact ⟨_, _, hspan, h⟩

/-! ## Reads of nothing -/

section Nothing

variable {σ : Type} [ObjectStore σ] (fd : Fd) (st : σ)

theorem readEach_of_unwanted {es : List Extent} (h : ∀ e ∈ es, e.len = 0) :
    readEach fd st es = (.ok (es.map fun _ => []), st) := by
  induction es with
  | nil => simp [readEach]
  | cons e es ih =>
    have hrest := ih fun x hx => h x (List.mem_cons_of_mem _ hx)
    have hempty := h e (List.mem_cons_self ..)
    simp [readEach, hempty, hrest]

theorem readGroup_of_unwanted {group : List Extent} (h : ∀ e ∈ group, e.len = 0)
    (hsolid : ¬ Hollow group) : readGroup fd group st = (.ok (group.map fun _ => []), st) := by
  unfold readGroup
  by_cases hfar : maxGroupSpan < Extent.span group
  · simp [hfar, readEach_of_unwanted fd st h]
  · have hspan : Extent.span group = 0 := by
      by_contra hspan
      exact hsolid ⟨wanted_eq_zero_iff.mpr h, hspan, by omega⟩
    simp [hspan, scatter, Bytes.slice]

theorem readGroups_of_unwanted {groups : List (List Extent)}
    (h : ∀ e ∈ groups.flatten, e.len = 0) (hsolid : hollows groups = 0) :
    readGroups fd st groups = (.ok (groups.flatten.map fun _ => []), st) := by
  induction groups with
  | nil => simp [readGroups]
  | cons group groups ih =>
    rw [hollows_cons] at hsolid
    have hgroup : ¬ Hollow group := by
      intro hhollow
      simp [hhollow] at hsolid
    have hhere := readGroup_of_unwanted fd st (fun e he => h e (by simp [he])) hgroup
    have hrest := ih (fun e he => h e (List.mem_append_right _ he)) (by omega)
    simp [readGroups, hhere, hrest]

end Nothing

/-! ## Vectored reads -/

variable {σ : Type} [ObjectStore σ] {f : RawFile} {es : List Extent} {t t' : Recorded σ}
  {r : Except Failure (List Bytes)}

/-- What a vectored read of some extents costs. -/
structure Priced (f : RawFile) (fd : Fd) (es : List Extent) (t : Recorded σ)
    (r : Except Failure (List Bytes)) (t' : Recorded σ) (done : List StoreCall) : Prop where
  made : t'.made = t.made ++ done
  reads : ∀ c ∈ done, AsksForBytes fd c
  bound : done.length ≤ wanted es + hollows (f.grouping.groups es)
  /-- Where no byte is asked for, the hollow groups are the whole price. -/
  price : wanted es = 0 → ∀ pieces, r = .ok pieces → done.length = hollows (f.grouping.groups es)
  /-- Without them nothing is called and nothing can fail. -/
  free : wanted es = 0 → hollows (f.grouping.groups es) = 0 →
    done = [] ∧ t' = t ∧ r = .ok (es.map fun _ => [])

/-- One extent a group leaves no group hollow. -/
theorem hollows_of_singles {n : Nat} (hn : n ≤ 1) (es : List Extent) :
    hollows ((Grouping.fixedCount n).groups es) = 0 := by
  unfold hollows
  rw [List.countP_eq_zero]
  intro g hg
  have hshort : g.length ≤ max n 1 - 1 + 1 := Grouping.length_le_of_mem_chunks hg
  have hsolid : ¬ Hollow g := not_hollow_of_short (by omega)
  simpa using hsolid

/-- A vectored read asks the store for one read at most for each extent that asks for a byte,
and for one more for each hollow group. -/
theorem a_vectored_read_costs_its_extents_and_hollow_groups (hfd : f.fd = some fd)
    (hfits : ∀ e ∈ es, e.Fits) (h : f.readv es t = (r, t')) :
    (∃ done, Priced f fd es t r t' done) ∧
      (∀ n, n ≤ 1 → f.grouping = .fixedCount n → hollows (f.grouping.groups es) = 0) := by
  have hflat := (Grouping.cuts_groups f.grouping es).flatten_eq
  have hmade := readv_made hfd h
  obtain ⟨done, hstarts, hdone⟩ := hmade.starts
  have hbound := length_groupsCalls_le fd (f.grouping.groups es)
  rw [hflat] at hbound
  refine ⟨⟨done, hdone, ?reads, ?bound, ?price, ?free⟩, ?singles⟩
  case reads =>
    intro c hc
    obtain ⟨group, -, hgroup⟩ := List.mem_flatMap.mp (hstarts.subset hc)
    exact reads_of_mem_groupCalls hgroup
  case bound => exact hstarts.length_le.trans hbound
  case price =>
    rintro hwanted pieces rfl
    cases hmade with
    | all hall =>
      obtain rfl := List.append_cancel_left (hdone.symm.trans hall)
      exact length_groupsCalls_of_unwanted fd (by rw [hflat, hwanted])
  case free =>
    intro hwanted hsolid
    have hempty : ∀ e ∈ (f.grouping.groups es).flatten, e.len = 0 := by
      rw [hflat]
      exact wanted_eq_zero_iff.mp hwanted
    have hnone := readGroups_of_unwanted fd t hempty hsolid
    have hrun : f.readv es t = (.ok (es.map fun _ => []), t) := by
      simp only [readv, requireFd_eq hfd, checkExtents_of_fits hfits, hnone, hflat]
    rw [hrun] at h
    cases h
    refine ⟨?_, by simp, by simp⟩
    simpa using hdone
  case singles =>
    intro n hn hgrouping
    rw [hgrouping]
    exact hollows_of_singles hn es

/-- Pairs from an object of three bytes. The first two extents ask for nothing at one place,
and the last two lie apart. -/
theorem four_extents_in_pairs_cost_one_read :
    let es : List Extent := [⟨2, 0⟩, ⟨2, 0⟩, ⟨0, 1⟩, ⟨40, 2⟩]
    let f : RawFile := { grouping := .fixedCount 2, fd := some .first }
    let t : Recorded MemoryStore := { inner := .single .threaded .readOnly [1, 2, 3] }
    ∃ done, Priced f .first es t (f.readv es t).1 (f.readv es t).2 done ∧ done.length ≤ 2 := by
  intro es f t
  have hfd : f.fd = some .first := by simp [f]
  have hfits : ∀ e ∈ es, e.Fits := by decide
  have hread : f.readv es t = ((f.readv es t).1, (f.readv es t).2) := by simp
  obtain ⟨⟨done, hpriced⟩, -⟩ :=
    a_vectored_read_costs_its_extents_and_hollow_groups hfd hfits hread
  have hgroups : f.grouping.groups es = [[⟨2, 0⟩, ⟨2, 0⟩], [⟨0, 1⟩, ⟨40, 2⟩]] := by
    simp [f, es, Grouping.groups, Grouping.chunks]
  have hbound := hpriced.bound
  rw [hgroups] at hbound
  exact ⟨done, hpriced, hbound⟩

/-- Two empty extents apart cost a read, and fail where that read fails. -/
theorem two_empty_extents_apart_cost_a_read :
    let es : List Extent := [⟨0, 0⟩, ⟨10, 0⟩]
    let f : RawFile := { grouping := .default, fd := some .first }
    let shelf : MemoryStore := .single .threaded .readOnly [1, 2, 3]
    let t : Recorded MemoryStore := { inner := shelf.failNext .reads 1 5 }
    wanted es = 0 ∧ (∀ e ∈ es, e.Fits) ∧
      (f.readv es t).2.made = [.readAt .first 0 10] ∧
      (f.readv es t).1 = .error (.refused .reading 5) := by
  intro es f shelf t
  have hgroups : f.grouping.groups es = [[⟨0, 0⟩, ⟨10, 0⟩]] := by
    simp [f, es, Grouping.default, Grouping.defaultMaxExtents, Grouping.groups, Grouping.chunks]
  have hfits : ∀ e ∈ es, e.Fits := by decide
  have hfd : f.fd = some .first := by simp [f]
  have hrun : f.readv es t = readGroups .first t [[⟨0, 0⟩, ⟨10, 0⟩]] := by
    rw [readv, requireFd_eq hfd, checkExtents_of_fits hfits, hgroups]
  rw [hrun]
  exact ⟨by decide, hfits, by rfl, by rfl⟩

end StagedFiles.RawFile
