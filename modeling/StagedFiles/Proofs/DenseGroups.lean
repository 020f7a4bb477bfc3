-- Groups that are made greedily. A group takes each extent that it accepts and is closed
-- by the first one that it rejects, and there is one way only to cut a list like that.
-- The bound that a dense group keeps as it grows is a bound on its span, so a group of
-- more than one extent is within reach of one read.
import StagedFiles.Proofs.GroupCalls
import StagedFiles.Proofs.GroupCuts
import StagedFiles.Proofs.MemoryKeeper

namespace StagedFiles

namespace Grouping

/-! ## Greedy groups -/

/-- Each extent of a group, after the first, was accepted by those before it. -/
def Grown (accept : List Extent → Extent → Bool) (g : List Extent) : Prop :=
  ∀ before e after, g = before ++ e :: after → before ≠ [] → accept before e = true

/-- Each group grew by what it accepted, up to the extent that the next one starts with,
which it rejected. -/
structure Greedy (accept : List Extent → Extent → Bool) (groups : List (List Extent)) : Prop where
  grown : ∀ g ∈ groups, Grown accept g
  closed : ∀ early g e h late, groups = early ++ g :: (e :: h) :: late → accept g e = false

variable {accept : List Extent → Extent → Bool} {group es g : List Extent} {e : Extent}
  {groups : List (List Extent)}

theorem greedy_nil (accept : List Extent → Extent → Bool) : Greedy accept [] := by
  refine ⟨fun g hg => (List.not_mem_nil hg).elim, ?_⟩
  intro early g e h late hsplit
  exact absurd hsplit.symm (List.append_ne_nil_of_right_ne_nil _ (List.cons_ne_nil _ _))

theorem grown_singleton (accept : List Extent → Extent → Bool) (e : Extent) : Grown accept [e] := by
  intro before e' after h hne
  obtain ⟨first, before, rfl⟩ := List.exists_cons_of_ne_nil hne
  rw [List.cons_append] at h
  have hnone := (List.cons_eq_cons.mp h).2
  exact absurd hnone.symm (List.append_ne_nil_of_right_ne_nil _ (List.cons_ne_nil _ _))

/-- A group that accepts one more extent. -/
theorem Grown.append_singleton (h : Grown accept group) (he : accept group e = true) :
    Grown accept (group ++ [e]) := by
  intro before e' after hsplit hne
  rcases List.eq_nil_or_concat after with rfl | ⟨after, last, rfl⟩
  · obtain ⟨rfl, hlast⟩ := List.append_inj' hsplit rfl
    cases hlast
    exact he
  · -- the new extent is the last, and `e'` one of those before
    rw [List.concat_eq_append, ← List.cons_append, ← List.append_assoc] at hsplit
    exact h before e' after (List.append_inj' hsplit rfl).1 hne

/-- The last extent of a group of several was accepted by the others. -/
theorem Grown.last (h : Grown accept g) (hlen : 2 ≤ g.length) :
    ∃ before last, g = before ++ [last] ∧ before ≠ [] ∧ accept before last = true := by
  rcases List.eq_nil_or_concat g with rfl | ⟨before, last, rfl⟩
  · cases hlen
  · rw [List.concat_eq_append] at h hlen ⊢
    have hne : before ≠ [] := by
      rintro rfl
      simp at hlen
    exact ⟨before, last, rfl, hne, h before last [] rfl hne⟩

theorem Greedy.tail (h : Greedy accept (g :: groups)) : Greedy accept groups := by
  refine ⟨fun g' hg' => h.grown g' (List.mem_cons_of_mem _ hg'), ?_⟩
  intro early g' e h' late hsplit
  exact h.closed (g :: early) g' e h' late (by rw [hsplit, List.cons_append])

/-! ### The groups that are made -/

/-- The open group starts the first of the groups. -/
theorem grow_starts (accept : List Extent → Extent → Bool) (group es : List Extent) :
    ∃ more late, grow accept group es = (group ++ more) :: late := by
  induction es generalizing group with
  | nil => exact ⟨[], [], by rw [grow, List.append_nil]⟩
  | cons e es ih =>
    unfold grow
    split
    · obtain ⟨more, late, hgrow⟩ := ih (group ++ [e])
      exact ⟨e :: more, late, by rw [hgrow, List.append_assoc, List.singleton_append]⟩
    · exact ⟨[], _, by rw [List.append_nil]⟩

/-- What grows from a group that grew itself is greedy. -/
theorem greedy_grow (es : List Extent) (h : Grown accept group) :
    Greedy accept (grow accept group es) := by
  induction es generalizing group with
  | nil =>
    refine ⟨?_, ?_⟩
    · intro g hg
      rw [List.mem_singleton.mp hg]
      exact h
    · intro early g e h late hsplit
      have hlen := congrArg List.length hsplit
      rw [grow, List.length_singleton, List.length_append, List.length_cons,
        List.length_cons] at hlen
      omega
  | cons e es ih =>
    unfold grow
    split
    · rename_i haccept
      exact ih (h.append_singleton haccept)
    · rename_i hreject
      have hrest := ih (grown_singleton accept e)
      refine ⟨?_, ?_⟩
      · intro g hg
        rcases List.mem_cons.mp hg with rfl | hg
        · exact h
        · exact hrest.grown g hg
      · intro early g e' h' late hsplit
        rcases early with _ | ⟨first, early⟩
        · -- the group behind the open one starts with `e`
          obtain ⟨rfl, htail⟩ := List.cons_eq_cons.mp hsplit
          obtain ⟨more, late', hgrow⟩ := grow_starts accept [e] es
          rw [hgrow] at htail
          obtain ⟨hfirst, -⟩ := List.cons_eq_cons.mp htail
          obtain ⟨rfl, -⟩ := List.cons_eq_cons.mp hfirst
          exact Bool.not_eq_true _ |>.mp hreject
        · exact hrest.closed early g e' h' late (List.cons_eq_cons.mp hsplit).2

/-! ### The only way -/

/-- Greedy groups of which the first starts with the open group are those that are made. -/
theorem Greedy.eq_grow {x : List Extent} {rest : List (List Extent)} (hne : group ≠ [])
    (h : Greedy accept ((group ++ x) :: rest)) (hall : x ++ rest.flatten = es)
    (hrest : ∀ g ∈ rest, g ≠ []) : (group ++ x) :: rest = grow accept group es := by
  induction es generalizing group x rest with
  | nil =>
    obtain ⟨rfl, hnone⟩ := List.append_eq_nil_iff.mp hall
    obtain rfl := Cuts.eq_nil ⟨hnone, hrest⟩
    rw [grow, List.append_nil]
  | cons e es ih =>
    unfold grow
    rcases x with _ | ⟨first, x⟩
    · -- the open group is closed, and the next one starts with `e`
      rw [List.append_nil] at h ⊢
      rcases rest with _ | ⟨next, late⟩
      · cases hall
      · obtain ⟨first, next, rfl⟩ :=
          List.exists_cons_of_ne_nil (hrest next (List.mem_cons_self ..))
        rw [List.nil_append, List.flatten_cons, List.cons_append] at hall
        obtain ⟨rfl, hbehind⟩ := List.cons_eq_cons.mp hall
        rw [h.closed [] group first next late rfl]
        have hnext : ([first] ++ next) :: late = grow accept [first] es :=
          ih (List.cons_ne_nil _ _) h.tail hbehind fun g hg => hrest g (List.mem_cons_of_mem _ hg)
        exact congrArg (group :: ·) hnext
    · -- the group goes on with `e`, so it accepted it
      rw [List.cons_append] at hall
      obtain ⟨rfl, hbehind⟩ := List.cons_eq_cons.mp hall
      have haccept : accept group first = true :=
        h.grown _ (List.mem_cons_self ..) group first x rfl hne
      have hmore : group ++ first :: x = (group ++ [first]) ++ x := by
        rw [List.append_assoc, List.singleton_append]
      rw [haccept]
      rw [hmore] at h ⊢
      exact ih (List.append_ne_nil_of_left_ne_nil hne _) h hbehind hrest

/-! ## Dense groups -/

/-- What a group of several extents holds of its span while it may grow. -/
def Dense (minSpan maxSpan : Nat) (minDensity : Float) (g : List Extent) : Prop :=
  Extent.span g < max minSpan maxSpan ∧
    (Extent.span g < minSpan ∨ Extent.span g = 0 ∨
      minDensity < Float.ofNat (Extent.bytes g) / Float.ofNat (Extent.span g))

/-- The span with one more extent is the one that was looked at before it was accepted. -/
theorem span_append_singleton (hne : group ≠ []) (e : Extent) :
    Extent.span (group ++ [e]) =
      max (Extent.highest group) e.stop - min (Extent.lowest group) e.start := by
  obtain ⟨first, rest, rfl⟩ := List.exists_cons_of_ne_nil hne
  unfold Extent.span
  rw [Extent.highest_append_singleton, Extent.lowest_append_singleton]

theorem dense_of_accepts {minSpan maxSpan : Nat} {minDensity : Float} (hne : group ≠ [])
    (h : accepts minSpan maxSpan minDensity group e = true) :
    Dense minSpan maxSpan minDensity (group ++ [e]) := by
  have hbytes : Extent.bytes (group ++ [e]) = Extent.bytes group + e.len := by
    rw [Extent.bytes_append, Extent.bytes_cons, Extent.bytes_nil, Nat.add_zero]
  unfold accepts at h
  dsimp only at h
  rw [← span_append_singleton hne] at h
  unfold Dense
  split at h
  · rename_i hshort
    exact ⟨by omega, .inl hshort⟩
  · split at h
    · cases h
    · rename_i hbelow
      refine ⟨by omega, ?_⟩
      split at h
      · rename_i hzero
        exact .inr (.inl hzero)
      · refine .inr (.inr ?_)
        rw [hbytes]
        exact of_decide_eq_true h

/-- A check of the thresholds does not let them cross. -/
theorem spans_of_check {minSpan maxSpan : Nat} {minDensity : Float}
    (h : (density minSpan maxSpan minDensity).check = .ok ()) : minSpan ≤ maxSpan := by
  unfold check at h
  dsimp only at h
  split at h
  · cases h
  · split at h
    · cases h
    · omega

end Grouping

/-- A group within reach is read with one call, or with none. -/
theorem RawFile.groupCalls_of_near {g : List Extent} (fd : Fd)
    (h : Extent.span g ≤ RawFile.maxGroupSpan) :
    groupCalls fd g = [] ∨
      groupCalls fd g = [.readAt fd (Extent.lowest g) (Extent.span g)] := by
  unfold groupCalls
  rw [if_neg (Nat.not_lt.mpr h)]
  split
  · exact .inl rfl
  · exact .inr rfl

namespace Grouping

variable {σ : Type} [ObjectStore σ]

/-- Whatever the thresholds and the extents: the groups of a density policy are cut
greedily, and no other cut of the extents is greedy. A group of several extents has a span
below the greater of the two bounds, and is short, without a span, or dense enough.
Thresholds that pass the check do not cross. If they do not, and the greater is no more
than what is read with one call, then a vectored read makes the calls of its groups in
their order, up to one that fails, and these are one read at most for a group of several
extents, over its span. -/
theorem dense_groups_are_the_greedy_ones (minSpan maxSpan : Nat) (minDensity : Float)
    (es : List Extent) :
    let accept := accepts minSpan maxSpan minDensity
    let policy := density minSpan maxSpan minDensity
    (Cuts es (policy.groups es) ∧ Greedy accept (policy.groups es)) ∧
      (∀ groups, Cuts es groups → Greedy accept groups → groups = policy.groups es) ∧
      (∀ g ∈ policy.groups es, 2 ≤ g.length → Dense minSpan maxSpan minDensity g) ∧
      (policy.check = .ok () → minSpan ≤ maxSpan) ∧
      (minSpan ≤ maxSpan → maxSpan ≤ RawFile.maxGroupSpan →
        (∀ fd, ∀ g ∈ policy.groups es, 2 ≤ g.length →
          RawFile.groupCalls fd g = [] ∨
            RawFile.groupCalls fd g = [.readAt fd (Extent.lowest g) (Extent.span g)]) ∧
        ∀ (fd : Fd) (t : Recorded σ), ∃ done,
          done <+: (policy.groups es).flatMap (RawFile.groupCalls fd) ∧
            (RawFile.readv { grouping := policy, fd := some fd } es t).2.made =
              t.made ++ done) := by
  intro accept policy
  have hgreedy : Greedy accept (policy.groups es) := by
    cases es with
    | nil => exact greedy_nil accept
    | cons e rest => exact greedy_grow rest (grown_singleton accept e)
  have hdense : ∀ g ∈ policy.groups es, 2 ≤ g.length → Dense minSpan maxSpan minDensity g := by
    intro g hg hlen
    obtain ⟨before, last, rfl, hne, haccept⟩ := (hgreedy.grown g hg).last hlen
    exact dense_of_accepts hne haccept
  refine ⟨⟨cuts_groups policy es, hgreedy⟩, ?_, hdense, spans_of_check, ?_⟩
  · intro groups hcuts hgroups
    cases es with
    | nil => exact hcuts.eq_nil
    | cons e rest =>
      rcases groups with _ | ⟨g, groups⟩
      · cases hcuts.flatten_eq
      · obtain ⟨first, g, rfl⟩ :=
          List.exists_cons_of_ne_nil (hcuts.ne_nil g (List.mem_cons_self ..))
        obtain ⟨rfl, hall⟩ := List.cons_eq_cons.mp hcuts.flatten_eq
        exact Greedy.eq_grow (List.cons_ne_nil first []) hgroups hall
          fun g hg => hcuts.ne_nil g (List.mem_cons_of_mem _ hg)
  · intro hspans hreach
    refine ⟨?_, ?_⟩
    · intro fd g hg hlen
      have hbound := (hdense g hg hlen).1
      exact RawFile.groupCalls_of_near fd (by omega)
    · intro fd t
      exact (RawFile.readv_made (f := { grouping := policy, fd := some fd }) rfl rfl).starts

/-- An extent that reaches over the end of another, one that is too far from both, and
one that is too far from that. -/
def apart : List Extent := [⟨0, 4⟩, ⟨3, 2⟩, ⟨40, 4⟩, ⟨60, 1⟩]

/-- They make three groups, and a store in memory is asked for three ranges at most. -/
theorem four_extents_are_grouped_greedily :
    let policy := density 8 16 defaultMinDensity
    let t : Recorded MemoryStore := { inner := .single .threaded .readWrite [1, 2, 3, 4, 5] }
    policy.groups apart = [[⟨0, 4⟩, ⟨3, 2⟩], [⟨40, 4⟩], [⟨60, 1⟩]] ∧
      Greedy (accepts 8 16 defaultMinDensity) [[⟨0, 4⟩, ⟨3, 2⟩], [⟨40, 4⟩], [⟨60, 1⟩]] ∧
      Dense 8 16 defaultMinDensity [⟨0, 4⟩, ⟨3, 2⟩] ∧
      ∃ done, done <+: [.readAt .first 0 5, .readAt .first 40 4, .readAt .first 60 1] ∧
        (RawFile.readv { grouping := policy, fd := some .first } apart t).2.made = done := by
  intro policy t
  have hgroups : policy.groups apart = [[⟨0, 4⟩, ⟨3, 2⟩], [⟨40, 4⟩], [⟨60, 1⟩]] := rfl
  obtain ⟨⟨-, hgreedy⟩, -, hdense, -, hserved⟩ :=
    dense_groups_are_the_greedy_ones (σ := MemoryStore) 8 16 defaultMinDensity apart
  rw [show (density 8 16 defaultMinDensity).groups apart = _ from hgroups] at hgreedy hdense hserved
  obtain ⟨-, hcalls⟩ := hserved (by decide) (by decide)
  obtain ⟨done, hprefix, hmade⟩ := hcalls .first t
  exact ⟨hgroups, hgreedy, hdense _ (by decide) (by decide), done, hprefix, hmade⟩

end Grouping

end StagedFiles
