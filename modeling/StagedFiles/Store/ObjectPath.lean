-- Object paths below a root. Slashes in front are dropped, and a path with a
-- part `..` is refused, so the result never leaves the root. What is refused is
-- decided on the components of a path and what is joined is its text; the two
-- agree, since a component that leads up is a part `..` of the text.
import StagedFiles.Failure

namespace StagedFiles.ObjectPath

/-! ## Parts and components -/

/-- The parts of a path between its slashes, empty ones included. -/
def segments : List Char → List (List Char)
  | [] => [[]]
  | c :: cs =>
    if c = '/' then [] :: segments cs
    else
      match segments cs with
      | [] => [[c]]
      | s :: ss => (c :: s) :: ss

/-- One dot alone, which leads nowhere. -/
def noWay : List Char := ['.']

/-- Two dots alone, the way up. -/
def wayUp : List Char := ['.', '.']

/-- What a path says of the way to take. -/
inductive Component where
  /-- Start at the root of all files. -/
  | top
  | here
  | up
  | name (name : List Char)
  deriving DecidableEq, Repr

/-- The component of a part; an empty part and a dot have none. -/
def Component.ofSegment? (s : List Char) : Option Component :=
  if s = [] ∨ s = noWay then none else if s = wayUp then some .up else some (.name s)

/-- It leads to the place where the path starts, or below it. -/
def Component.staysBelow : Component → Bool
  | .here | .name _ => true
  | .top | .up => false

/-- What a path begins with: the root of all files after a slash, and the place where it
starts when the first part is a dot. -/
def opening (path : List Char) : Option Component :=
  if path.head? = some '/' then some .top
  else if (segments path).head? = some noWay then some .here
  else none

def components (path : List Char) : List Component :=
  (opening path).toList ++ (segments path).filterMap Component.ofSegment?

/-! ## Resolution -/

/-- The path without the slashes in front. -/
def relative (path : String) : List Char := path.toList.dropWhile (· = '/')

/-- The root with a path behind it, one slash between them. An empty root adds none, and
a path that starts at the root of all files takes the place of the root. -/
def join (root : String) (path : List Char) : String :=
  if path.head? = some '/' then String.ofList path
  else
    match root.toList.getLast? with
    | none => String.ofList path
    | some '/' => root ++ String.ofList path
    | some _ => root ++ "/" ++ String.ofList path

/-- The place of an object below the root. -/
def resolve (root path : String) : Except Failure String :=
  let rel := relative path
  if (components rel).all Component.staysBelow then .ok (join root rel)
  else .error (.invalidArgument (.escapesRoot path))

/-! ## What is refused -/

/-- No slash is left in front. -/
theorem head?_relative (path : String) : (relative path).head? ≠ some '/' := by
  intro h
  have := List.head?_dropWhile_not (· = '/') path.toList
  rw [relative] at h
  rw [h] at this
  exact absurd this (by decide)

/-- Only the way up is a part that leads above. -/
theorem Component.ofSegment?_staysBelow {s : List Char} {c : Component}
    (h : ofSegment? s = some c) : c.staysBelow = true ↔ s ≠ wayUp := by
  unfold ofSegment? at h
  split at h
  · cases h
  · split at h
    · rename_i hup
      cases h
      simp [staysBelow, hup]
    · rename_i hup
      cases h
      simp [staysBelow, hup]

/-- The way up is a component wherever it is a part. -/
theorem Component.ofSegment?_wayUp : ofSegment? wayUp = some .up := by decide

/-- A path that does not start at the root of all files leads above its start exactly where
a part of its text does. -/
theorem components_stay_below_iff {path : List Char} (h : path.head? ≠ some '/') :
    (components path).all Component.staysBelow = true ↔ wayUp ∉ segments path := by
  rw [List.all_eq_true]
  constructor
  · intro hall hmem
    have hup : Component.up ∈ components path :=
      List.mem_append_right _ (List.mem_filterMap.mpr ⟨_, hmem, Component.ofSegment?_wayUp⟩)
    exact absurd (hall _ hup) (by decide)
  · intro hnot c hc
    rcases List.mem_append.mp hc with hopen | hpart
    · unfold opening at hopen
      rw [if_neg h] at hopen
      split at hopen
      · rw [Option.toList_some, List.mem_singleton] at hopen
        rw [hopen]
        rfl
      · cases hopen
    · obtain ⟨s, hs, hsc⟩ := List.mem_filterMap.mp hpart
      refine (Component.ofSegment?_staysBelow hsc).mpr ?_
      rintro rfl
      exact hnot hs

theorem resolve_eq_ok_iff {root path place : String} :
    resolve root path = .ok place ↔
      wayUp ∉ segments (relative path) ∧ place = join root (relative path) := by
  unfold resolve
  dsimp only
  split
  · rename_i hall
    have hnot := (components_stay_below_iff (head?_relative path)).mp hall
    simp [hnot, eq_comm]
  · rename_i hall
    have hup := mt (components_stay_below_iff (head?_relative path)).mpr hall
    simp [hup]

theorem resolve_eq_error_iff {root path : String} {f : Failure} :
    resolve root path = .error f ↔
      wayUp ∈ segments (relative path) ∧ f = .invalidArgument (.escapesRoot path) := by
  unfold resolve
  dsimp only
  split
  · rename_i hall
    have hnot := (components_stay_below_iff (head?_relative path)).mp hall
    simp [hnot]
  · rename_i hall
    have hup := Decidable.not_not.mp
      (mt (components_stay_below_iff (head?_relative path)).mpr hall)
    simp [hup, eq_comm]

end StagedFiles.ObjectPath
