-- Where paths lead in a tree that changes. A walk looks at directories alone, so
-- what a file holds is of no account to it, and a node that is added under a new
-- name leaves every walk that came to an end. After an open that creates or cuts,
-- the path leads to the open file and the file is empty.
import Mathlib.Data.List.Basic
import StagedFiles.Store.FileTree

namespace StagedFiles.FileTree

variable {t t' : FileTree} {id dir here : NodeId} {name : String} {names : List String}

@[simp] theorem node?_setNode_self (t : FileTree) (id : NodeId) (n : TreeNode) :
    (t.setNode id n).node? id = some n := Table.find?_insert_self ..

theorem node?_setNode_of_ne (t : FileTree) {id other : NodeId} (n : TreeNode) (h : other ≠ id) :
    (t.setNode id n).node? other = t.node? other := Table.find?_insert_of_ne _ _ h

/-! ## Walks that stay -/

/-- A walk in the first tree leads to the same node in the second. -/
structure Preserves (t t' : FileTree) : Prop where
  working : t'.working = t.working
  directory {id : NodeId} : t.isDirectory id = true → t'.isDirectory id = true
  enter {dir id : NodeId} {name : String} : t.enter dir name = .ok id → t'.enter dir name = .ok id

theorem Preserves.walk (h : Preserves t t') (hw : t.walk here names = .ok id) :
    t'.walk here names = .ok id := by
  induction names generalizing here with
  | nil => exact hw
  | cons name names ih =>
    unfold FileTree.walk at hw ⊢
    split at hw
    · rename_i next hnext
      rw [h.enter hnext]
      exact ih hw
    · cases hw

theorem Preserves.find {path : String} (h : Preserves t t') (hf : t.find path = .ok id) :
    t'.find path = .ok id := by
  unfold FileTree.find at hf ⊢
  split at hf
  · cases hf
  · rename_i r hroute
    have horigin : t'.origin r = t.origin r := by
      unfold FileTree.origin
      rw [h.working]
    split at hf
    · cases hf
    · rename_i hwalk
      rw [horigin, h.walk hwalk]
      dsimp only
      split at hf
      · cases hf
      · rename_i hslash
        cases hf
        refine if_neg ?_
        rintro ⟨hslashed, hnot⟩
        rcases hdir : t.isDirectory id with _ | _
        · exact hslash ⟨hslashed, by rw [hdir]; rfl⟩
        · rw [h.directory hdir] at hnot
          cases hnot

/-- A walk to a directory, and one name more. -/
theorem walk_append_singleton {last : String} (hw : t.walk here names = .ok dir)
    (he : t.enter dir last = .ok id) : t.walk here (names ++ [last]) = .ok id := by
  induction names generalizing here with
  | nil =>
    cases hw
    rw [List.nil_append]
    unfold FileTree.walk
    rw [he]
    rfl
  | cons name names ih =>
    rw [List.cons_append]
    unfold FileTree.walk at hw ⊢
    split at hw
    · rename_i next hnext
      exact ih hw
    · cases hw

/-- What is entered is a directory. -/
theorem isDirectory_of_enter (h : t.enter dir name = .ok id) :
    ∃ parent entries, t.node? dir = some (.directory parent entries) := by
  unfold FileTree.enter at h
  split at h
  · rename_i parent entries hnode
    exact ⟨parent, entries, hnode⟩
  · cases h

/-- Entering looks at one node. -/
theorem enter_congr (name : String) (h : t'.node? dir = t.node? dir) :
    t'.enter dir name = t.enter dir name := by
  unfold FileTree.enter
  rw [h]

theorem isDirectory_congr (h : t'.node? id = t.node? id) : t'.isDirectory id = t.isDirectory id := by
  unfold FileTree.isDirectory
  rw [h]

theorem isDirectory_iff :
    t.isDirectory id = true ↔ ∃ parent entries, t.node? id = some (.directory parent entries) := by
  unfold FileTree.isDirectory
  constructor
  · intro h
    split at h
    · rename_i parent entries hnode
      exact ⟨parent, entries, hnode⟩
    · cases h
  · rintro ⟨parent, entries, hnode⟩
    rw [hnode]

/-- What a file holds is of no account to a walk. -/
theorem preserves_setNode {old : SparseBytes} (new : SparseBytes)
    (h : t.node? id = some (.file old)) : Preserves t (t.setNode id (.file new)) := by
  have hother : ∀ other parent entries, t.node? other = some (.directory parent entries) →
      (t.setNode id (.file new)).node? other = t.node? other := by
    intro other parent entries hnode
    refine node?_setNode_of_ne t _ ?_
    rintro rfl
    rw [h] at hnode
    cases hnode
  refine ⟨rfl, ?_, ?_⟩
  · intro other hdir
    obtain ⟨parent, entries, hnode⟩ := isDirectory_iff.mp hdir
    rw [isDirectory_congr (hother _ _ _ hnode)]
    exact hdir
  · intro dir got name henter
    obtain ⟨parent, entries, hnode⟩ := isDirectory_of_enter henter
    rw [enter_congr name (hother _ _ _ hnode)]
    exact henter

/-! ## New nodes -/

/-- No node has a number that is still to be given. -/
def Fresh (t : FileTree) : Prop := ∀ id, t.nextNode ≤ id → t.node? id = none

theorem fresh_empty : Fresh {} := by
  intro id hid
  have hpos : 1 ≤ id := hid
  have hne : ¬ 0 = id := Nat.ne_of_lt hpos
  show (Table.find? (⟨[(0, .directory 0 {})]⟩ : Table NodeId TreeNode) id) = none
  unfold Table.find?
  simp [hne]

/-- A name that is missing is missing in a directory, and is a name that could be there. -/
theorem enter_noEntry (h : t.enter dir name = .error (.errno Errno.noEntry)) :
    ∃ parent entries, t.node? dir = some (.directory parent entries) ∧
      name ≠ "." ∧ name ≠ ".." ∧ ¬ maxName < name.utf8ByteSize ∧ entries.find? name = none := by
  unfold FileTree.enter at h
  split at h
  · rename_i parent entries hnode
    refine ⟨parent, entries, hnode, ?_⟩
    by_cases hdot : name = "."
    · rw [if_pos hdot] at h
      cases h
    · by_cases hdots : name = ".."
      · rw [if_neg hdot, if_pos hdots] at h
        cases h
      · by_cases hlong : maxName < name.utf8ByteSize
        · rw [if_neg hdot, if_neg hdots, if_pos hlong] at h
          cases h
        · rw [if_neg hdot, if_neg hdots, if_neg hlong] at h
          split at h
          · cases h
          · rename_i hnone
            exact ⟨hdot, hdots, hlong, hnone⟩
  · cases h

/-- Entering a directory, spelled out. -/
theorem enter_directory {parent : NodeId} {entries : Table String NodeId}
    (hnode : t.node? dir = some (.directory parent entries)) (hdot : name ≠ ".")
    (hdots : name ≠ "..") (hlong : ¬ maxName < name.utf8ByteSize)
    (hsome : entries.find? name = some id) : t.enter dir name = .ok id := by
  unfold FileTree.enter
  rw [hnode]
  dsimp only
  rw [if_neg hdot, if_neg hdots, if_neg hlong, hsome]

/-- The nodes of a tree with one more: the directory has a new name for it. -/
theorem node?_addNode {parent : NodeId} {entries : Table String NodeId} (n : TreeNode)
    (hnode : t.node? dir = some (.directory parent entries)) (other : NodeId) :
    (t.addNode dir name n).2.node? other =
      if other = t.nextNode then some n
      else if other = dir then some (.directory parent (entries.insert name t.nextNode))
      else t.node? other := by
  have hadd : (t.addNode dir name n).2.node? other =
      ((t.setNode dir (.directory parent (entries.insert name t.nextNode))).setNode t.nextNode
        n).node? other := by
    unfold addNode
    rw [hnode]
    rfl
  rw [hadd]
  by_cases hnew : other = t.nextNode
  · subst hnew
    rw [node?_setNode_self, if_pos rfl]
  · rw [node?_setNode_of_ne _ _ hnew, if_neg hnew]
    by_cases hdir : other = dir
    · subst hdir
      rw [node?_setNode_self, if_pos rfl]
    · rw [node?_setNode_of_ne _ _ hdir, if_neg hdir]

theorem addNode_fst (t : FileTree) (dir : NodeId) (name : String) (n : TreeNode) :
    (t.addNode dir name n).1 = t.nextNode := by
  unfold addNode
  split <;> rfl

theorem Fresh.ne_nextNode (h : t.Fresh) {n : TreeNode} (hnode : t.node? id = some n) :
    id ≠ t.nextNode := by
  rintro rfl
  rw [h _ (Nat.le_refl _)] at hnode
  cases hnode

/-- Under a name that was missing, a directory has room for a new node. -/
theorem Fresh.addNode (h : t.Fresh) (n : TreeNode)
    (hnone : t.enter dir name = .error (.errno Errno.noEntry)) :
    (t.addNode dir name n).2.Fresh := by
  obtain ⟨parent, entries, hnode, _⟩ := enter_noEntry hnone
  have hnext : (t.addNode dir name n).2.nextNode = t.nextNode + 1 := by
    unfold FileTree.addNode
    rw [hnode]
    rfl
  have hdir : dir < t.nextNode := by
    apply Nat.lt_of_not_le
    intro hle
    rw [h dir hle] at hnode
    cases hnode
  intro id hid
  rw [hnext] at hid
  have hnew : t.nextNode < id := hid
  rw [node?_addNode n hnode, if_neg (Nat.ne_of_gt hnew),
    if_neg (Nat.ne_of_gt (Nat.lt_trans hdir hnew))]
  exact h id (Nat.le_of_lt hnew)

/-- The node that was added is under its name. -/
theorem enter_addNode (n : TreeNode) (hfresh : t.Fresh)
    (hnone : t.enter dir name = .error (.errno Errno.noEntry)) :
    (t.addNode dir name n).2.enter dir name = .ok t.nextNode ∧
      (t.addNode dir name n).2.node? t.nextNode = some n := by
  obtain ⟨parent, entries, hnode, hdot, hdots, hlong, _⟩ := enter_noEntry hnone
  have hdir : (t.addNode dir name n).2.node? dir =
      some (.directory parent (entries.insert name t.nextNode)) := by
    rw [node?_addNode n hnode, if_neg (hfresh.ne_nextNode hnode), if_pos rfl]
  refine ⟨enter_directory hdir hdot hdots hlong (Table.find?_insert_self ..), ?_⟩
  rw [node?_addNode n hnode, if_pos rfl]

/-- A node under a name that was missing leaves every walk. -/
theorem preserves_addNode (n : TreeNode) (hfresh : t.Fresh)
    (hnone : t.enter dir name = .error (.errno Errno.noEntry)) :
    Preserves t (t.addNode dir name n).2 := by
  obtain ⟨parent, entries, hnode, _, _, _, hmissing⟩ := enter_noEntry hnone
  have hdir : (t.addNode dir name n).2.node? dir =
      some (.directory parent (entries.insert name t.nextNode)) := by
    rw [node?_addNode n hnode, if_neg (hfresh.ne_nextNode hnode), if_pos rfl]
  have hother : ∀ {other m}, other ≠ dir → t.node? other = some m →
      (t.addNode dir name n).2.node? other = t.node? other := by
    intro other m hne hm
    rw [node?_addNode n hnode, if_neg (hfresh.ne_nextNode hm), if_neg hne]
  refine ⟨?_, ?_, ?_⟩
  · unfold addNode
    rw [hnode]
    rfl
  · intro other hd
    obtain ⟨_, _, hm⟩ := isDirectory_iff.mp hd
    by_cases hne : other = dir
    · rw [hne]
      exact isDirectory_iff.mpr ⟨_, _, hdir⟩
    · rw [isDirectory_congr (hother hne hm)]
      exact hd
  · intro other got entered he
    obtain ⟨_, _, hm⟩ := isDirectory_of_enter he
    by_cases hne : other = dir
    · subst hne
      -- the new name was missing, so what is entered has another one
      have hname : entered ≠ name := by
        rintro rfl
        rw [hnone] at he
        cases he
      unfold FileTree.enter at he ⊢
      rw [hnode] at he
      rw [hdir]
      dsimp only at he ⊢
      rw [Table.find?_insert_of_ne _ _ hname]
      exact he
    · rw [enter_congr entered (hother hne hm)]
      exact he

/-! ## Directories above a path -/

theorem Fresh.makeDirectory {path : String} (h : t.Fresh) (hm : t.makeDirectory path = .ok t') :
    t'.Fresh := by
  unfold FileTree.makeDirectory at hm
  split at hm
  · cases hm
  · split at hm
    · cases hm
    · cases hm
    · split at hm
      · cases hm
      · rename_i hnone
        split at hm
        · rename_i he
          cases hm
          rw [he] at hnone
          exact h.addNode _ hnone
        · cases hm

theorem Fresh.ensureDirectory {path : String} {r : Except SystemFault Unit} (h : t.Fresh)
    (he : t.ensureDirectory path = (r, t')) : t'.Fresh := by
  unfold FileTree.ensureDirectory at he
  split at he
  · rename_i hm
    cases he
    exact h.makeDirectory hm
  · cases he
    exact h

theorem Fresh.makeDirectories {paths : List String} {r : Except SystemFault Unit} (h : t.Fresh)
    (hm : t.makeDirectories paths = (r, t')) : t'.Fresh := by
  induction paths generalizing r t' with
  | nil =>
    cases hm
    exact h
  | cons path above ih =>
    unfold FileTree.makeDirectories at hm
    split at hm
    · rename_i hmade
      cases hm
      exact h.makeDirectory hmade
    · split at hm
      · split at hm
        · rename_i habove
          exact (ih habove).ensureDirectory hm
        · rename_i habove
          cases hm
          exact ih habove
      · exact h.ensureDirectory hm

/-! ## Open -/

theorem place_named {r : Route} (h : t.place r = .ok (.named dir name)) :
    ∃ above, r.names = above ++ [name] ∧ t.walk (t.origin r) above = .ok dir := by
  unfold FileTree.place at h
  split at h
  · cases h
  · rename_i last hlast
    have hnames := List.dropLast_append_getLast? last hlast
    split at h
    · cases h
    · rename_i hwalk
      split at h
      · cases h
      · split at h
        · cases h
        · cases h
          exact ⟨r.names.dropLast, hnames.symm, hwalk⟩

/-- A path leads to what its last name leads to in the directory where that name stands. -/
theorem find_of_place {path : String} {r : Route} (hroute : route path = .ok r)
    (hslash : ¬ r.slashed = true) (hplace : t.place r = .ok (.named dir name))
    (h : Preserves t t') (henter : t'.enter dir name = .ok id) : t'.find path = .ok id := by
  obtain ⟨above, hnames, hwalk⟩ := place_named hplace
  have horigin : t'.origin r = t.origin r := by
    unfold FileTree.origin
    rw [h.working]
  have hall : t'.walk (t'.origin r) r.names = .ok id := by
    rw [hnames, horigin]
    exact walk_append_singleton (h.walk hwalk) henter
  unfold FileTree.find
  rw [hroute]
  dsimp only
  rw [hall]
  exact if_neg fun hboth => hslash hboth.1

/-- Opening a node to cut it leaves a file empty, and every walk as it was. -/
theorem openNode_cut {a : Access} {f : OpenNode} {bytes : SparseBytes}
    (hcut : a.truncate = true) (hopen : t.openNode id a = .ok (f, t'))
    (hfile : t'.node? f.node = some (.file bytes)) :
    f = ⟨id, a⟩ ∧ bytes = {} ∧ Preserves t t' := by
  unfold FileTree.openNode at hopen
  split at hopen
  · rename_i hnode
    split at hopen
    · cases hopen
    · cases hopen
      rw [hnode] at hfile
      cases hfile
  · rename_i old hnode
    rw [if_pos hcut] at hopen
    cases hopen
    rw [node?_setNode_self] at hfile
    cases hfile
    exact ⟨rfl, rfl, preserves_setNode {} hnode⟩
  · rename_i hnot
    cases hopen
    exact absurd hfile (hnot bytes)

/-- After an open that may create and that cuts, the path leads to the node that
is open, and a file is empty there. -/
theorem openPath_leads {path : String} {a : Access} {f : OpenNode} {bytes : SparseBytes}
    (hfresh : t.Fresh) (hcreate : a.create = true) (hcut : a.truncate = true)
    (hopen : t.openPath path a = .ok (f, t')) (hfile : t'.node? f.node = some (.file bytes)) :
    f.access = a ∧ bytes = {} ∧ t'.find path = .ok f.node := by
  unfold FileTree.openPath at hopen
  split at hopen
  · cases hopen
  · cases hopen
  · cases hopen
  · rename_i r hroute _
    rw [if_pos hcreate] at hopen
    split at hopen
    · cases hopen
    · cases hopen
    · rename_i dir name hplace
      split at hopen
      · cases hopen
      · rename_i hslash
        split at hopen
        · rename_i id henter
          obtain ⟨rfl, hempty, hpreserves⟩ := openNode_cut hcut hopen hfile
          exact ⟨rfl, hempty, find_of_place hroute hslash hplace hpreserves (hpreserves.enter henter)⟩
        · rename_i e hnone
          split at hopen
          · rename_i he
            rw [he] at hnone
            obtain ⟨henter, hnew⟩ := enter_addNode (.file {}) hfresh hnone
            have hpreserves := preserves_addNode (.file {}) hfresh hnone
            have hfst := addNode_fst t dir name (.file {})
            generalize t.addNode dir name (.file {}) = added at hopen henter hnew hpreserves hfst
            cases hopen
            rw [hfst, hnew] at hfile
            cases hfile
            refine ⟨rfl, rfl, ?_⟩
            rw [hfst]
            exact find_of_place hroute hslash hplace hpreserves henter
          · cases hopen

end StagedFiles.FileTree
