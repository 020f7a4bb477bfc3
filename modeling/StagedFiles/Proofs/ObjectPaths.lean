-- Object paths stay below the root of a directory store. Wherever a walk along the text of
-- a resolved path has come to, past the parts of the root it is below the place that the
-- root leads to. A path that is refused is refused before the store does anything.
import Mathlib.Data.List.Infix
import StagedFiles.Store.Directory

namespace StagedFiles.ObjectPath

/-! ## Parts of joined texts -/

theorem segments_ne_nil (path : List Char) : segments path ≠ [] := by
  cases path with
  | nil => exact List.cons_ne_nil _ _
  | cons c cs =>
    unfold segments
    split
    · exact List.cons_ne_nil _ _
    · split
      · exact List.cons_ne_nil _ _
      · exact List.cons_ne_nil _ _

/-- A slash between two paths is one between their parts. -/
theorem segments_append_slash (a b : List Char) :
    segments (a ++ '/' :: b) = segments a ++ segments b := by
  induction a with
  | nil =>
    show segments ('/' :: b) = _
    simp [segments]
  | cons c cs ih =>
    rw [List.cons_append, segments, segments, ih]
    split
    · rfl
    · rcases hcs : segments cs with _ | ⟨s, ss⟩
      · exact absurd hcs (segments_ne_nil cs)
      · rfl

/-- Slashes in front of a path add empty parts only. -/
theorem wayUp_mem_segments_slash {path : List Char} :
    wayUp ∈ segments ('/' :: path) ↔ wayUp ∈ segments path := by
  have hcons : segments ('/' :: path) = [] :: segments path := by simp [segments]
  rw [hcons, List.mem_cons]
  exact or_iff_right (by decide)

theorem wayUp_mem_segments_dropWhile (path : List Char) :
    wayUp ∈ segments (path.dropWhile (· = '/')) ↔ wayUp ∈ segments path := by
  induction path with
  | nil => rfl
  | cons c cs ih =>
    by_cases hc : c = '/'
    · subst hc
      rw [List.dropWhile_cons_of_pos (by simp), ih, wayUp_mem_segments_slash]
    · rw [List.dropWhile_cons_of_neg (by simpa using hc)]

/-- As many slashes as one likes in front of a path leave what is relative. -/
theorem relative_slashes (n : Nat) (path : List Char) :
    relative (String.ofList (List.replicate n '/' ++ path)) = relative (String.ofList path) := by
  unfold relative
  rw [String.toList_ofList, String.toList_ofList]
  induction n with
  | zero => rfl
  | succ n ih =>
    rw [List.replicate_succ, List.cons_append, List.dropWhile_cons_of_pos (by simp), ih]

/-! ## Walks along a text -/

/-- The names on the way down to a place, innermost first. -/
abbrev Position := List (List Char)

/-- Where one part leads. Above the top there is nothing. -/
def enter (here : Position) (part : List Char) : Position :=
  if part = [] ∨ part = noWay then here
  else if part = wayUp then here.tail
  else part :: here

/-- Where parts lead, one after the other. -/
def walk (here : Position) (parts : List (List Char)) : Position := parts.foldl enter here

/-- Where a path starts: at the top after a slash, else in the working directory. -/
def origin (working : Position) (path : List Char) : Position :=
  if path.head? = some '/' then [] else working

/-- Where a path leads. -/
def position (working : Position) (path : String) : Position :=
  walk (origin working path.toList) (segments path.toList)

theorem walk_append (here : Position) (a b : List (List Char)) :
    walk here (a ++ b) = walk (walk here a) b := List.foldl_append

/-- A part that is not the way up leads below, or nowhere. -/
theorem suffix_enter {here : Position} {part : List Char} (h : part ≠ wayUp) :
    here <:+ enter here part := by
  unfold enter
  rw [if_neg h]
  split
  · exact List.suffix_refl _
  · exact List.suffix_cons _ _

/-- Parts without a way up never lead above the start. -/
theorem suffix_walk {here : Position} {parts : List (List Char)} (h : wayUp ∉ parts) :
    here <:+ walk here parts := by
  induction parts generalizing here with
  | nil => exact List.suffix_refl _
  | cons part parts ih =>
    obtain ⟨hpart, hparts⟩ := List.ne_and_not_mem_of_not_mem_cons h
    exact (suffix_enter hpart.symm).trans (ih hparts)

/-! ## The root and what is behind it -/

/-- The ways in which a relative path comes behind a root: the root is empty, ends in a slash,
or gets one. -/
inductive Joined (root rel : List Char) : List Char → Prop where
  | alone : root = [] → Joined root rel rel
  | slashed {init : List Char} : root = init ++ ['/'] → Joined root rel (init ++ '/' :: rel)
  | parted : root ≠ [] → Joined root rel (root ++ '/' :: rel)

theorem join_joined {root : String} {rel : List Char} (h : rel.head? ≠ some '/') :
    Joined root.toList rel (join root rel).toList := by
  unfold join
  rw [if_neg h]
  split
  · rename_i hnone
    rw [String.toList_ofList]
    exact .alone (List.getLast?_eq_none_iff.mp hnone)
  · rename_i hslash
    obtain ⟨init, hroot⟩ := List.getLast?_eq_some_iff.mp hslash
    have htext : (root ++ String.ofList rel).toList = init ++ '/' :: rel := by
      rw [String.toList_append, String.toList_ofList, hroot, List.append_assoc]
      rfl
    rw [htext]
    exact .slashed hroot
  · rename_i last _ hlast
    have htext : (root ++ "/" ++ String.ofList rel).toList = root.toList ++ '/' :: rel := by
      simp
    rw [htext]
    refine .parted ?_
    intro hnil
    rw [hnil] at hlast
    cases hlast

/-- The parts of a joined path lead to the root and then go on with those of the relative
path. -/
theorem Joined.parts {root rel text : List Char} (h : Joined root rel text)
    (hrel : rel.head? ≠ some '/') (working : Position) :
    root <+: text ∧ ∃ front, segments text = front ++ segments rel ∧
      front.length ≤ (segments root).length ∧
      walk (origin working text) front = walk (origin working root) (segments root) := by
  cases h with
  | alone hroot =>
    subst hroot
    refine ⟨List.nil_prefix, [], rfl, Nat.zero_le _, ?_⟩
    show origin working rel = working
    exact if_neg hrel
  | @slashed init hroot =>
    subst hroot
    have hsegs : segments (init ++ ['/']) = segments init ++ [[]] := segments_append_slash ..
    have hstart : origin working (init ++ '/' :: rel) = origin working (init ++ ['/']) := by
      unfold origin
      cases init with
      | nil => rfl
      | cons _ _ => rfl
    refine ⟨⟨rel, ?_⟩, segments init, segments_append_slash .., ?_, ?_⟩
    · rw [List.append_assoc]
      rfl
    · rw [hsegs, List.length_append]
      exact Nat.le_add_right _ _
    · rw [hsegs, walk_append, hstart]
      rfl
  | parted hroot =>
    have hstart : origin working (root ++ '/' :: rel) = origin working root := by
      unfold origin
      cases root with
      | nil => exact absurd rfl hroot
      | cons _ _ => rfl
    refine ⟨List.prefix_append _ _, segments root, segments_append_slash .., Nat.le_refl _, ?_⟩
    rw [hstart]

/-- Past the parts of the root, a walk along a resolved path is below the root. -/
theorem below_root {root : String} {rel : List Char} (h : rel.head? ≠ some '/')
    (hup : wayUp ∉ segments rel) (working : Position) {n : Nat}
    (hn : (segments root.toList).length ≤ n) :
    position working root <:+
      walk (origin working (join root rel).toList) ((segments (join root rel).toList).take n) := by
  obtain ⟨-, front, hparts, hfront, hwalk⟩ := (join_joined h).parts h working
  rw [hparts, List.take_append, List.take_of_length_le (Nat.le_trans hfront hn), walk_append,
    hwalk]
  exact suffix_walk fun hmem => hup (List.mem_of_mem_take hmem)

end StagedFiles.ObjectPath

/-! ## Refusals -/

namespace StagedFiles

/-- A path that is refused is refused by every call that takes one, before the store does
anything. -/
theorem DirectoryStore.refuses {st : DirectoryStore} {path : String} {f : Failure}
    (h : ObjectPath.resolve st.root path = .error f) :
    (∀ access, st.openPath path access = (.error f, st)) ∧ st.statPath path = (.error f, st) ∧
      (∀ len, st.truncatePath path len = (.error f, st)) ∧
      st.unlinkPath path = (.error f, st) := by
  unfold DirectoryStore.openPath statPath truncatePath unlinkPath
  rw [h]
  exact ⟨fun _ => rfl, rfl, fun _ => rfl, rfl⟩

namespace ObjectPath

/-- A path resolves exactly when none of its parts is the way up. It then leads to the text of
the root with the path behind it, less the slashes in front, and a walk along it that is past
the root stays below the root; how many slashes stood in front is of no account. Otherwise no
call that takes the path does anything. -/
theorem an_object_stays_below_the_root (root path : String) :
    ((∃ place, resolve root path = .ok place) ↔ wayUp ∉ segments path.toList) ∧
    (∀ place, resolve root path = .ok place →
      place = join root (relative path) ∧ root.toList <+: place.toList ∧
        ∀ (working : Position) (n : Nat), (segments root.toList).length ≤ n →
          position working root <:+
            walk (origin working place.toList) ((segments place.toList).take n)) ∧
    (∀ (n m : Nat) (rest : List Char) (place : String),
      path = String.ofList (List.replicate n '/' ++ rest) →
        (resolve root path = .ok place ↔
          resolve root (String.ofList (List.replicate m '/' ++ rest)) = .ok place)) ∧
    (∀ f, resolve root path = .error f → f = .invalidArgument (.escapesRoot path) ∧
      ∀ st : DirectoryStore, st.root = root →
        (∀ access, ObjectStore.openPath path access st = (.error f, st)) ∧
        ObjectStore.statPath path st = (.error f, st) ∧
        (∀ len, ObjectStore.truncatePath path len st = (.error f, st)) ∧
        ObjectStore.unlinkPath path st = (.error f, st)) := by
  have hrel : wayUp ∉ segments (relative path) ↔ wayUp ∉ segments path.toList :=
    not_congr (wayUp_mem_segments_dropWhile path.toList)
  refine ⟨⟨?_, ?_⟩, ?_, ?_, ?_⟩
  · rintro ⟨place, hplace⟩
    exact hrel.mp (resolve_eq_ok_iff.mp hplace).1
  · intro hnot
    exact ⟨_, resolve_eq_ok_iff.mpr ⟨hrel.mpr hnot, rfl⟩⟩
  · intro place hplace
    obtain ⟨hnot, rfl⟩ := resolve_eq_ok_iff.mp hplace
    have hhead := head?_relative path
    refine ⟨rfl, ((join_joined hhead).parts hhead []).1, ?_⟩
    intro working n hn
    exact below_root hhead hnot working hn
  · rintro n m rest place rfl
    rw [resolve_eq_ok_iff, resolve_eq_ok_iff, relative_slashes, relative_slashes]
  · intro f hf
    refine ⟨(resolve_eq_error_iff.mp hf).2, ?_⟩
    rintro st rfl
    exact DirectoryStore.refuses hf

/-- A path full of slashes and dots is found below its root, and one that goes down and up
again is refused. -/
theorem a_dotted_path_stays_and_a_way_up_is_refused :
    resolve "/srv" "//a/.//b/..." = .ok "/srv/a/.//b/..." ∧
    position [] "/srv" <:+
      walk (origin [] "/srv/a/.//b/...".toList) ((segments "/srv/a/.//b/...".toList).take 4) ∧
    resolve "/srv" "a/.//b/..." = .ok "/srv/a/.//b/..." ∧
    resolve "/srv" "/a/../b" = .error (.invalidArgument (.escapesRoot "/a/../b")) ∧
    ObjectStore.unlinkPath "/a/../b" ({ root := "/srv" } : DirectoryStore) =
      (.error (.invalidArgument (.escapesRoot "/a/../b")), { root := "/srv" }) := by
  have hok : resolve "/srv" "//a/.//b/..." = .ok "/srv/a/.//b/..." := by decide
  have hbad : resolve "/srv" "/a/../b" = .error (.invalidArgument (.escapesRoot "/a/../b")) := by
    decide
  obtain ⟨-, hstays, hslashes, -⟩ := an_object_stays_below_the_root "/srv" "//a/.//b/..."
  obtain ⟨-, -, -, hrefused⟩ := an_object_stays_below_the_root "/srv" "/a/../b"
  refine ⟨hok, (hstays _ hok).2.2 [] 4 (by decide), ?_, hbad, ?_⟩
  · exact (hslashes 2 0 "a/.//b/...".toList _ (by decide)).mp hok
  · exact ((hrefused _ hbad).2 { root := "/srv" } rfl).2.2.2

end ObjectPath

end StagedFiles
