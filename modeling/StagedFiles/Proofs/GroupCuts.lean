-- Where a policy cuts a list of extents. Whatever it decides about each extent,
-- it closes the open group or lets it grow and does nothing else, so the groups
-- in a row are the extents that came in. Groups of a fixed count are full but
-- for the last one.
import StagedFiles.Grouping

namespace StagedFiles.Grouping

/-- The groups come from cuts between the extents: none is empty, and in a row
they are all of the extents in their order. -/
structure Cuts (es : List Extent) (groups : List (List Extent)) : Prop where
  flatten_eq : groups.flatten = es
  ne_nil : ∀ g ∈ groups, g ≠ []

theorem cuts_nil : Cuts [] [] := ⟨rfl, by simp⟩

/-- One more cut behind a group. -/
theorem Cuts.cons {group es : List Extent} {groups : List (List Extent)} (hne : group ≠ [])
    (h : Cuts es groups) : Cuts (group ++ es) (group :: groups) := by
  refine ⟨?_, ?_⟩
  · rw [List.flatten_cons, h.flatten_eq]
  · intro g hg
    rcases List.mem_cons.mp hg with rfl | hg
    · exact hne
    · exact h.ne_nil g hg

/-- Of no extents there are no groups, as one would be empty. -/
theorem Cuts.eq_nil {groups : List (List Extent)} (h : Cuts [] groups) : groups = [] := by
  cases groups with
  | nil => rfl
  | cons g groups =>
    have hempty := List.append_eq_nil_iff.mp h.flatten_eq
    exact absurd hempty.1 (h.ne_nil g (List.mem_cons_self ..))

/-! ## Dense groups -/

/-- The open group goes on in front, whatever is accepted. -/
theorem cuts_grow (accept : List Extent → Extent → Bool) (es : List Extent) {group : List Extent}
    (hne : group ≠ []) : Cuts (group ++ es) (grow accept group es) := by
  induction es generalizing group with
  | nil => exact cuts_nil.cons hne
  | cons e es ih =>
    unfold grow
    split
    · have hlarger : group ++ [e] ≠ [] := List.append_ne_nil_of_right_ne_nil _ (by simp)
      have hgrown := ih hlarger
      rwa [List.append_assoc] at hgrown
    · exact (ih (List.cons_ne_nil e [])).cons hne

/-! ## Groups of a fixed count -/

theorem cuts_chunks (n : Nat) (es : List Extent) : Cuts es (chunks n es) := by
  fun_induction chunks n es with
  | case1 => exact cuts_nil
  | case2 e rest ih =>
    have hcut := ih.cons (List.cons_ne_nil e (rest.take n))
    rwa [List.cons_append, List.take_append_drop] at hcut

/-- As many groups as it takes. -/
theorem length_chunks (n : Nat) (es : List Extent) :
    (chunks n es).length = (es.length + n) / (n + 1) := by
  fun_induction chunks n es with
  | case1 => exact (Nat.div_eq_of_lt (by rw [List.length_nil]; omega)).symm
  | case2 e rest ih =>
    rw [List.length_cons, ih, List.length_drop, List.length_cons]
    rcases Nat.le_total n rest.length with hle | hle
    · rw [Nat.sub_add_cancel hle, Nat.add_right_comm, Nat.add_assoc,
        Nat.add_div_right _ (Nat.succ_pos n)]
    · -- the last group takes all that is left
      have hlast : rest.length + 1 + n = rest.length + (n + 1) := by omega
      rw [Nat.sub_eq_zero_of_le hle, Nat.zero_add, hlast, Nat.add_div_right _ (Nat.succ_pos n),
        Nat.div_eq_of_lt (Nat.lt_succ_self n), Nat.div_eq_of_lt (Nat.lt_succ_of_le hle)]

theorem length_le_of_mem_chunks {n : Nat} {es g : List Extent} (h : g ∈ chunks n es) :
    g.length ≤ n + 1 := by
  fun_induction chunks n es with
  | case1 => cases h
  | case2 e rest ih =>
    rcases List.mem_cons.mp h with rfl | hg
    · rw [List.length_cons, List.length_take]
      omega
    · exact ih hg

/-- Only the last group may have room left. -/
theorem length_eq_of_mem_dropLast_chunks {n : Nat} {es g : List Extent}
    (h : g ∈ (chunks n es).dropLast) : g.length = n + 1 := by
  fun_induction chunks n es with
  | case1 => cases h
  | case2 e rest ih =>
    by_cases hmore : rest.drop n = []
    · rw [hmore, chunks] at h
      cases h
    · have hne : chunks n (rest.drop n) ≠ [] := by
        intro hnil
        have hall := (cuts_chunks n (rest.drop n)).flatten_eq
        rw [hnil] at hall
        exact hmore hall.symm
      rw [List.dropLast_cons_of_ne_nil hne] at h
      rcases List.mem_cons.mp h with rfl | hg
      · have hlong : n < rest.length := Nat.lt_of_not_le fun hle => hmore (List.drop_eq_nil_of_le hle)
        rw [List.length_cons, List.length_take]
        omega
      · exact ih hg

/-! ## The groups of a policy -/

theorem cuts_groups (policy : Grouping) (es : List Extent) : Cuts es (policy.groups es) := by
  cases policy with
  | fixedCount n => exact cuts_chunks _ es
  | density minSpan maxSpan minDensity =>
    cases es with
    | nil => exact cuts_nil
    | cons e rest => exact cuts_grow (accepts minSpan maxSpan minDensity) rest (List.cons_ne_nil e [])

/-- The groups of a policy, in a row, are the extents that came in, each once, whole and in
its place, and no group is empty. A policy with a fixed count makes as many groups as it
takes and fills all of them but the last; a count of 0 counts as 1. -/
theorem groups_are_an_ordered_partition (policy : Grouping) (es : List Extent) :
    (policy.groups es).flatten = es ∧ (∀ g ∈ policy.groups es, g ≠ []) ∧
      (∀ n, policy = .fixedCount n →
        (policy.groups es).length = (es.length + (max n 1 - 1)) / max n 1 ∧
          (∀ g ∈ (policy.groups es).dropLast, g.length = max n 1) ∧
          ∀ g ∈ policy.groups es, g.length ≤ max n 1) ∧
      policy.groups [] = [] := by
  have hcuts := cuts_groups policy es
  refine ⟨hcuts.flatten_eq, hcuts.ne_nil, ?_, ?_⟩
  · rintro n rfl
    have hcount : max n 1 - 1 + 1 = max n 1 := by omega
    refine ⟨?_, ?_, ?_⟩
    · rw [← hcount]
      exact length_chunks _ es
    · intro g hg
      rw [← hcount]
      exact length_eq_of_mem_dropLast_chunks hg
    · intro g hg
      rw [← hcount]
      exact length_le_of_mem_chunks hg
  · exact (cuts_groups policy []).eq_nil

/-- Five extents in any order, an empty one and a repeated one among them, in pairs: three
groups, of which the last has one extent. -/
theorem five_extents_in_pairs :
    let five : List Extent := [⟨40, 10⟩, ⟨0, 0⟩, ⟨7, 3⟩, ⟨7, 3⟩, ⟨100, 1⟩]
    ((fixedCount 2).groups five).flatten = five ∧ ((fixedCount 2).groups five).length = 3 ∧
      ∀ g ∈ ((fixedCount 2).groups five).dropLast, g.length = 2 := by
  intro five
  obtain ⟨hall, -, hfixed, -⟩ := groups_are_an_ordered_partition (fixedCount 2) five
  obtain ⟨hcount, hfull, -⟩ := hfixed 2 rfl
  exact ⟨hall, hcount.trans (by decide), hfull⟩

end StagedFiles.Grouping
