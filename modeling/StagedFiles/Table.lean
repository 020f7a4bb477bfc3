-- Finite tables kept as lists of pairs. A key stands at most once after
-- `insert`, and a look-up sees the last value put in under its key.

namespace StagedFiles

/-- A finite table from keys to values. -/
structure Table (κ α : Type) where
  entries : List (κ × α) := []
  deriving Repr

namespace Table

variable {κ α : Type} [DecidableEq κ]

def find? (t : Table κ α) (k : κ) : Option α :=
  (t.entries.find? (·.1 = k)).map (·.2)

def contains (t : Table κ α) (k : κ) : Bool := (t.find? k).isSome

/-- The table without the key. -/
def erase (t : Table κ α) (k : κ) : Table κ α :=
  ⟨t.entries.filter (·.1 ≠ k)⟩

/-- The table with `v` under `k`, in place of what stood there. -/
def insert (t : Table κ α) (k : κ) (v : α) : Table κ α :=
  ⟨(k, v) :: (t.erase k).entries⟩

def size (t : Table κ α) : Nat := t.entries.length

def keys (t : Table κ α) : List κ := t.entries.map (·.1)

/-! ## What a look-up sees -/

omit [DecidableEq κ] in
@[simp] theorem find?_empty [DecidableEq κ] (k : κ) : (({} : Table κ α)).find? k = none := rfl

theorem find?_erase (t : Table κ α) (k j : κ) :
    (t.erase k).find? j = if j = k then none else t.find? j := by
  simp only [find?, erase, List.find?_filter]
  by_cases hj : j = k
  · subst hj
    simp
  · have : (fun a : κ × α => decide (decide (a.1 ≠ k) = true ∧ decide (a.1 = j) = true)) =
        fun a => decide (a.1 = j) := by
      funext a
      by_cases h : a.1 = j
      · simp [h, hj]
      · simp [h]
    simp only [this, hj, if_false]

theorem find?_insert (t : Table κ α) (k j : κ) (v : α) :
    (t.insert k v).find? j = if j = k then some v else t.find? j := by
  by_cases h : j = k
  · subst h; simp [insert, find?]
  · have hk : ¬ k = j := fun e => h e.symm
    have := find?_erase t k j
    simp only [find?, insert, List.find?_cons, hk, decide_false] at *
    simpa [h] using this

@[simp] theorem find?_insert_self (t : Table κ α) (k : κ) (v : α) :
    (t.insert k v).find? k = some v := by simp [find?_insert]

@[simp] theorem find?_erase_self (t : Table κ α) (k : κ) : (t.erase k).find? k = none := by
  simp [find?_erase]

theorem find?_insert_of_ne (t : Table κ α) {k j : κ} (v : α) (h : j ≠ k) :
    (t.insert k v).find? j = t.find? j := by simp [find?_insert, h]

theorem find?_erase_of_ne (t : Table κ α) {k j : κ} (h : j ≠ k) :
    (t.erase k).find? j = t.find? j := by simp [find?_erase, h]

end Table

end StagedFiles
