-- Files of distinct names share a store in memory without faults, and whoever uses them
-- takes turns in any order. What each file is heard and seen to do, and what stands under
-- its name at the end, is as if it had been used alone: both are what comes of its deeds
-- over a cell of its own.
import Mathlib.Data.Fintype.Defs
import StagedFiles.Proofs.SeatLikeness

namespace StagedFiles

/-! ## One file after another -/

/-- What belongs to one file, in its order. -/
def own {ι α : Type} [DecidableEq ι] (i : ι) (l : List (ι × α)) : List α :=
  (l.filter (·.1 = i)).map (·.2)

section Own

variable {ι α : Type} [DecidableEq ι]

theorem own_cons_self (i : ι) (a : α) (l : List (ι × α)) : own i ((i, a) :: l) = a :: own i l := by
  unfold own
  rw [List.filter_cons_of_pos (by simp)]
  rfl

theorem own_cons_of_ne {i j : ι} (h : j ≠ i) (a : α) (l : List (ι × α)) :
    own i ((j, a) :: l) = own i l := by
  unfold own
  rw [List.filter_cons_of_neg (by simpa using h)]

end Own

/-- The deeds of one file, and what is heard and seen of it after each. -/
def FileClient.doAll {σ : Type} [ObjectStore σ] (c : FileClient σ) (path : String) :
    List Deed → List Sight × FileClient σ
  | [] => ([], c)
  | deed :: deeds =>
    let (heard, after) := c.does path deed
    let (sights, last) := after.doAll path deeds
    (after.sight heard :: sights, last)

/-- Files that share a store, and what is due to each. -/
structure Neighbours (ι : Type) where
  file : ι → StagedFile
  due : ι → Option (Ticket × Errand) := fun _ => none
  store : MemoryStore

namespace Neighbours

variable {ι : Type}

/-- One of the files, and the store. -/
def client (n : Neighbours ι) (i : ι) : FileClient MemoryStore :=
  { file := n.file i, store := n.store, due := n.due i }

/-- No file is open. -/
structure AtRest (n : Neighbours ι) : Prop where
  session : ∀ i, (n.file i).session = none
  raw : ∀ i, (n.file i).raw.fd = none
  due : ∀ i, n.due i = none

/-- What the file has out has still to run. -/
def Undelivered (n : Neighbours ι) (i : ι) : Prop := ∀ x ∈ n.due i, n.store.Waits x.1

instance (n : Neighbours ι) (i : ι) : Decidable (n.Undelivered i) :=
  inferInstanceAs (Decidable (∀ x ∈ n.due i, x.1 ∈ n.store.parked.map (·.1)))

/-- The numbers of the files in the store, and a cell for each. -/
def seats (n : Neighbours ι) (k : ι → FileClient Cell) (i : ι) : Seat :=
  ⟨(k i).store, (n.file i).raw.fd, (n.due i).map (·.1)⟩

variable [DecidableEq ι]

/-- A deed on one of the files. -/
def step (paths : ι → String) (n : Neighbours ι) (i : ι) (deed : Deed) : Sight × Neighbours ι :=
  let (heard, c) := (n.client i).does (paths i) deed
  (c.sight heard,
    { file := Function.update n.file i c.file
      due := Function.update n.due i c.due
      store := c.store })

/-- The deeds on all files in one order. -/
def run (paths : ι → String) (n : Neighbours ι) :
    List (ι × Deed) → List (ι × Sight) × Neighbours ι
  | [] => ([], n)
  | (i, deed) :: events =>
    let (sight, n) := n.step paths i deed
    let (sights, n) := n.run paths events
    ((i, sight) :: sights, n)

/-- The deliveries of a file are deeds of its own: when it is used past its stage, and at
the end, no other file has made run what it has out. -/
def OwnDeliveries (paths : ι → String) (n : Neighbours ι) : List (ι × Deed) → Prop
  | [] => ∀ i, n.Undelivered i
  | (i, deed) :: events =>
    (deed.passes = true → n.Undelivered i) ∧ (n.step paths i deed).2.OwnDeliveries paths events

instance OwnDeliveries.decidable [Fintype ι] (paths : ι → String) (n : Neighbours ι) :
    (events : List (ι × Deed)) → Decidable (n.OwnDeliveries paths events)
  | [] => inferInstanceAs (Decidable (∀ i, n.Undelivered i))
  | (i, deed) :: events =>
    have := OwnDeliveries.decidable paths (n.step paths i deed).2 events
    inferInstanceAs (Decidable (_ ∧ _))

variable {paths : ι → String} {n : Neighbours ι} {i : ι}

theorem OwnDeliveries.last {events : List (ι × Deed)} (h : n.OwnDeliveries paths events) (i : ι) :
    (n.run paths events).2.Undelivered i := by
  induction events generalizing n with
  | nil => exact h i
  | cons e events ih => exact ih h.2

end Neighbours

/-! ## Alone -/

namespace FileClient

variable {σ τ : Type} [ObjectStore σ] [ObjectStore τ] {Waits : σ → Ticket → Prop} {path : String}
  {R : Resemblance σ τ Waits path} {c : FileClient σ} {k : FileClient τ}

/-- A file that is alone does as its like over the other store. -/
theorem Resembles.doAll (h : Resembles R True c k) (deeds : List Deed) :
    (c.doAll path deeds).1 = (k.doAll path deeds).1 ∧
      Resembles R True (c.doAll path deeds).2 (k.doAll path deeds).2 := by
  induction deeds generalizing c k with
  | nil => exact ⟨rfl, h⟩
  | cons deed deeds ih =>
    obtain ⟨hnext, hsight⟩ := h.does deed fun _ => h.waits trivial
    obtain ⟨hsights, hlast⟩ := ih hnext
    refine ⟨?_, hlast⟩
    unfold FileClient.doAll
    dsimp only
    rw [hsights, hsight]

end FileClient

/-! ## Together -/

namespace FileClient

open MemoryStore

variable {ι : Type} [DecidableEq ι] {mode : Delivery} {paths : ι → String} {seats : ι → Seat} {i : ι}
  {alone : Prop} {c : FileClient MemoryStore} {k : FileClient Cell}

/-- The seat of a file that does as its like over a cell. -/
theorem Resembles.seated (h : Resembles (resemblance mode paths seats i) alone c k) :
    Seated mode paths (Function.update seats i ⟨k.store, c.file.raw.fd, c.due.map (·.1)⟩) c.store := by
  cases h with
  | shut h =>
    rw [h.raw, h.due]
    exact h.stores
  | @opened fd kind s s' h =>
    rw [h.raw]
    have howed := h.owed
    generalize s.stage.inflight.requests = requests at howed
    generalize c.due = due at howed
    generalize k.due = due' at howed
    cases howed with
    | nothing hlike => exact hlike
    | one hlike _ => exact hlike

/-- What the others do to the store and to their seats is nothing to the file. -/
theorem Resembles.elsewhere (h : Resembles (resemblance mode paths seats i) alone c k)
    {seats' : ι → Seat} {st : MemoryStore}
    (hseated : Seated mode paths
      (Function.update seats' i ⟨k.store, c.file.raw.fd, c.due.map (·.1)⟩) st) :
    Resembles (resemblance mode paths seats' i) False { c with store := st } k := by
  cases h with
  | shut h =>
    rw [h.raw, h.due] at hseated
    exact .shut ⟨h.files, h.session, h.session', h.raw, h.raw', h.due, h.due', hseated⟩
  | @opened fd kind s s' h =>
    rw [h.raw] at hseated
    have howed := h.owed
    have howed' : Owed ((resemblance mode paths seats' i).opened fd) False st k.store
        s.stage.inflight.requests c.due k.due := by
      generalize s.stage.inflight.requests = requests at howed ⊢
      generalize c.due = due at howed hseated ⊢
      generalize k.due = due' at howed ⊢
      cases howed with
      | nothing _ => exact .nothing hseated
      | one _ _ => exact .one hseated False.elim
    exact .opened ⟨h.files, h.session, h.session', h.raw, h.raw', h.sessions, howed'⟩

/-- What stands under the name is what the cell has, once nothing has run unknown to it. -/
theorem Resembles.object? (h : Resembles (resemblance mode paths seats i) alone c k)
    (hwaits : ∀ x ∈ c.due, c.store.Waits x.1) :
    c.store.object? (paths i) = k.store.content := by
  refine h.seated.seat.object? h.seated.sound fun t ht => ?_
  obtain ⟨x, hx, rfl⟩ := Option.map_eq_some_iff.mp ht
  exact hwaits x hx

end FileClient

namespace Neighbours

open MemoryStore FileClient

variable {ι : Type} [DecidableEq ι] {mode : Delivery} {paths : ι → String} {n : Neighbours ι}
  {k : ι → FileClient Cell} {i : ι}

/-- Every file does as its like over a cell of its own. -/
def Mirrored (mode : Delivery) (paths : ι → String) (n : Neighbours ι) (k : ι → FileClient Cell) :
    Prop :=
  ∀ i, Resembles (resemblance mode paths (n.seats k) i) False (n.client i) (k i)

/-- The file over a cell that has what stands under its name. -/
def overCell (n : Neighbours ι) (paths : ι → String) (objects : String → Option Bytes) (i : ι) :
    FileClient Cell :=
  { file := n.file i, store := { content := objects (paths i) }, due := none }

/-- Files that are not open, over a store with nothing under way. -/
theorem AtRest.resembles (h : n.AtRest) {objects : String → Option Bytes} {next : Fd}
    (hshelf : n.store.Shelf objects next) (hpaths : Function.Injective paths) (alone : Prop) (i : ι) :
    Resembles (resemblance n.store.delivery paths (n.seats (n.overCell paths objects)) i) alone
      (n.client i) (n.overCell paths objects i) := by
  refine .shut ⟨⟨rfl, rfl, rfl, rfl⟩, h.session i, h.session i, h.raw i, h.raw i, h.due i, rfl, ?_⟩
  have hseats : n.seats (n.overCell paths objects) =
      fun i => ⟨{ content := objects (paths i) }, none, none⟩ := by
    funext j
    unfold seats
    rw [h.raw j, h.due j]
    rfl
  have hseated := hshelf.seated hpaths
  rw [← hseats] at hseated
  show Seated _ paths (Function.update _ i ⟨{ content := objects (paths i) }, none, none⟩) n.store
  rwa [← congrFun hseats i, Function.update_eq_self]

theorem client_step_self (n : Neighbours ι) (i : ι) (deed : Deed) :
    (n.step paths i deed).2.client i = ((n.client i).does (paths i) deed).2 := by
  unfold Neighbours.client Neighbours.step
  dsimp only
  rw [Function.update_self, Function.update_self]
  rfl

theorem client_step_of_ne (n : Neighbours ι) {i j : ι} (hne : j ≠ i) (deed : Deed) :
    (n.step paths i deed).2.client j =
      { n.client j with store := (n.step paths i deed).2.store } := by
  unfold Neighbours.client Neighbours.step
  dsimp only
  rw [Function.update_of_ne hne, Function.update_of_ne hne]

/-- A deed on one file moves its cell, and the others stay as they are. -/
theorem Mirrored.step (h : n.Mirrored mode paths k) (i : ι) (deed : Deed)
    (hwaits : deed.passes = true → n.Undelivered i) :
    (n.step paths i deed).2.Mirrored mode paths
        (Function.update k i ((k i).does (paths i) deed).2) ∧
      (n.step paths i deed).1 =
        ((k i).does (paths i) deed).2.sight ((k i).does (paths i) deed).1 := by
  obtain ⟨hnext, hsight⟩ := (h i).does deed hwaits
  refine ⟨?_, hsight.symm⟩
  generalize hk : ((k i).does (paths i) deed).2 = k' at hnext
  rw [← client_step_self] at hnext
  have hother : ∀ j, j ≠ i → (n.step paths i deed).2.client j =
      { n.client j with store := (n.step paths i deed).2.store } :=
    fun j hj => client_step_of_ne n hj deed
  generalize (n.step paths i deed).2 = after at hnext hother
  have hseats : after.seats (Function.update k i k') = Function.update (n.seats k) i
      ⟨k'.store, (after.client i).file.raw.fd, (after.client i).due.map (·.1)⟩ := by
    funext j
    show Seat.mk _ (after.client j).file.raw.fd ((after.client j).due.map (·.1)) = _
    by_cases hj : j = i
    · subst hj
      rw [Function.update_self, Function.update_self]
    · rw [Function.update_of_ne hj, Function.update_of_ne hj, hother j hj]
      rfl
  have hseated : Seated mode paths (after.seats (Function.update k i k')) after.store :=
    hseats ▸ hnext.seated
  intro j
  have hthere := hseated
  rw [← Function.update_eq_self j (after.seats (Function.update k i k'))] at hthere
  by_cases hj : j = i
  · subst hj
    have hself : Function.update k j k' j = k' := Function.update_self ..
    unfold seats at hthere
    rw [hself] at hthere ⊢
    exact hnext.elsewhere hthere
  · have hsame : Function.update k i k' j = k j := Function.update_of_ne hj ..
    have hseat : after.seats (Function.update k i k') j = n.seats k j := by
      rw [hseats, Function.update_of_ne hj]
    rw [hseat] at hthere
    rw [hsame, hother j hj]
    exact (h j).elsewhere hthere

/-- In a store that runs each transfer on its own nothing runs before it is waited for. -/
theorem Mirrored.undelivered (h : n.Mirrored .threaded paths k) (i : ι) : n.Undelivered i := by
  intro x hx
  have hseated := (h i).seated
  have hticket : (n.due i).map (·.1) = some x.1 := by
    rw [show n.due i = some x from hx]
    rfl
  obtain ⟨_, _, _, _, _, -, hopen⟩ := hseated.seat.transfer hticket
  cases hopen.out with
  | parked _ hmem => exact List.mem_map_of_mem hmem
  | ran _ hdeferred _ =>
    rw [hseated.sound.delivery] at hdeferred
    cases hdeferred

theorem Mirrored.ownDeliveries (h : n.Mirrored .threaded paths k) (events : List (ι × Deed)) :
    n.OwnDeliveries paths events := by
  induction events generalizing n k with
  | nil => exact h.undelivered
  | cons e events ih =>
    have hwaits : e.2.passes = true → n.Undelivered e.1 := fun _ => h.undelivered e.1
    exact ⟨hwaits, ih (h.step e.1 e.2 hwaits).1⟩

/-- After any deeds in any order each file has done what its own deeds do over its cell. -/
theorem Mirrored.run (h : n.Mirrored mode paths k) {events : List (ι × Deed)}
    (hown : n.OwnDeliveries paths events) :
    ∃ k', (n.run paths events).2.Mirrored mode paths k' ∧
      ∀ i, (own i (n.run paths events).1, k' i) = (k i).doAll (paths i) (own i events) := by
  induction events generalizing n k with
  | nil => exact ⟨k, h, fun _ => rfl⟩
  | cons e events ih =>
    obtain ⟨j, deed⟩ := e
    obtain ⟨hnext, hsight⟩ := h.step j deed hown.1
    obtain ⟨k', hlast, hall⟩ := ih hnext hown.2
    refine ⟨k', hlast, fun i => ?_⟩
    have hrest := hall i
    unfold Neighbours.run
    dsimp only
    by_cases hj : j = i
    · subst hj
      rw [Function.update_self] at hrest
      rw [own_cons_self, own_cons_self]
      unfold FileClient.doAll
      dsimp only
      rw [← hrest, hsight]
    · rw [Function.update_of_ne (Ne.symm hj)] at hrest
      rw [own_cons_of_ne hj, own_cons_of_ne hj]
      exact hrest

/-! ## Each as if alone -/

/-- Files of distinct names share a store in memory without faults, and deeds are done on
them in any order; in a store that parks what is handed in, each file takes what it has
out by deeds of its own. Then each file is heard and seen to do, but for numbers, what
it does when its deeds alone are done, and the same stands under its name at the end. -/
theorem files_are_independent {objects : String → Option Bytes} {next : Fd}
    (hpaths : Function.Injective paths) (hshelf : n.store.Shelf objects next) (hrest : n.AtRest)
    {events : List (ι × Deed)}
    (hown : n.store.delivery = .deferred → n.OwnDeliveries paths events) (i : ι) :
    own i (n.run paths events).1 = ((n.client i).doAll (paths i) (own i events)).1 ∧
      (n.run paths events).2.store.object? (paths i) =
        ((n.client i).doAll (paths i) (own i events)).2.store.object? (paths i) := by
  have hstart : n.Mirrored n.store.delivery paths (n.overCell paths objects) :=
    hrest.resembles hshelf hpaths False
  have howned : n.OwnDeliveries paths events := by
    cases hmode : n.store.delivery with
    | threaded =>
      rw [hmode] at hstart
      exact hstart.ownDeliveries events
    | deferred => exact hown hmode
  obtain ⟨k', hlast, hall⟩ := hstart.run howned
  obtain ⟨hsights, hcell⟩ := Prod.mk.inj (hall i)
  obtain ⟨hsights', halone⟩ :=
    (hrest.resembles hshelf hpaths True i).doAll (own i events)
  refine ⟨hsights.trans hsights'.symm, ?_⟩
  calc (n.run paths events).2.store.object? (paths i)
      = (k' i).store.content := (hlast i).object? (howned.last i)
    _ = ((n.overCell paths objects i).doAll (paths i) (own i events)).2.store.content := by
        rw [hcell]
    _ = ((n.client i).doAll (paths i) (own i events)).2.store.object? (paths i) :=
        (halone.object? (halone.waits trivial)).symm

/-! ### Two files that face each other -/

def sides : Bool → String
  | false => "left"
  | true => "right"

theorem sides_injective : Function.Injective sides := by
  intro a b h
  cases a with
  | false =>
    cases b with
    | false => rfl
    | true => exact absurd h (by decide)
  | true =>
    cases b with
    | false => exact absurd h (by decide)
    | true => rfl

/-- Files with four bytes of stage, over a store that parks what is handed in. -/
def facing : Neighbours Bool :=
  { file := fun _ => .ofSettings { bufferSize := 4 }
    store := ({ delivery := .deferred } : MemoryStore).insert "left" [1, 2, 3, 4] }

theorem shelf_facing :
    Shelf (Function.update (fun _ => none) "left" (some [1, 2, 3, 4])) .first facing.store :=
  (shelf_empty .deferred).insert "left" [1, 2, 3, 4]

/-- The left file cuts its object while a write is out. A flush of the right file
makes that write run before the left file takes it. -/
def facingEvents : List (Bool × Deed) :=
  [ (false, .openPath .readWrite), (true, .openPath { read := true, write := true, create := true }),
    (false, .ask (.writeAio 1 [9, 9, 9, 9])), (true, .ask (.write 1 [7])), (false, .truncate 3),
    (true, .ask .flush), (false, .ask (.write 0 [5])), (false, .ask .deliver), (false, .truncate 4),
    (true, .close), (false, .close) ]

theorem files_are_independent_face_to_face :
    Function.Injective sides ∧
      Shelf (Function.update (fun _ => none) "left" (some [1, 2, 3, 4])) .first facing.store ∧
      facing.AtRest ∧
      (facing.store.delivery = .deferred → facing.OwnDeliveries sides facingEvents) ∧
      (facing.run sides facingEvents).2.store.object? "left" = some [1, 9, 9, 9] ∧
      ∀ i, own i (facing.run sides facingEvents).1 =
          ((facing.client i).doAll (sides i) (own i facingEvents)).1 ∧
        (facing.run sides facingEvents).2.store.object? (sides i) =
          ((facing.client i).doAll (sides i) (own i facingEvents)).2.store.object? (sides i) := by
  have hrest : facing.AtRest := ⟨fun _ => rfl, fun _ => rfl, fun _ => rfl⟩
  have hown : facing.OwnDeliveries sides facingEvents := by decide +kernel
  exact ⟨sides_injective, shelf_facing, hrest, fun _ => hown, by decide +kernel,
    files_are_independent sides_injective shelf_facing hrest fun _ => hown⟩

/-- Where another file made run what the left file has out, and the left file has not
taken it yet, the object tells. -/
example : ¬ facing.OwnDeliveries sides (facingEvents.take 6) ∧
    (facing.run sides (facingEvents.take 6)).2.store.object? "left" = some [1, 9, 9, 9, 9] ∧
    ((facing.client false).doAll "left" (own false (facingEvents.take 6))).2.store.object? "left" =
      some [1, 2, 3] := by
  decide +kernel

end Neighbours

end StagedFiles
