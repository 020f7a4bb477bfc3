-- The requests of one file that were handed in and have not completed. A
-- file has at most one of them, so a second one is refused with the count.

namespace StagedFiles

/-- The requests that are out, oldest first. -/
structure InFlight (ρ : Type) where
  requests : List ρ := []

namespace InFlight

variable {ρ : Type}

def count (f : InFlight ρ) : Nat := f.requests.length

/-- Nothing is out. -/
def isIdle (f : InFlight ρ) : Bool := f.count = 0

/-- Takes a request in, or refuses it with the number already out. -/
def begin? (f : InFlight ρ) (r : ρ) : Except Nat (InFlight ρ) :=
  if f.count = 0 then .ok ⟨[r]⟩ else .error f.count

/-- Lets the oldest request go; with none out nothing changes. -/
def finish (f : InFlight ρ) : InFlight ρ := ⟨f.requests.drop 1⟩

@[simp] theorem count_finish (f : InFlight ρ) : f.finish.count = f.count - 1 := by
  simp [count, finish]

theorem begin?_eq_ok_iff (f g : InFlight ρ) (r : ρ) :
    f.begin? r = .ok g ↔ f.count = 0 ∧ g = ⟨[r]⟩ := by
  unfold begin?
  split <;> simp_all [eq_comm]

theorem begin?_eq_error_iff (f : InFlight ρ) (r : ρ) (n : Nat) :
    f.begin? r = .error n ↔ 0 < f.count ∧ n = f.count := by
  unfold begin?
  split
  · simp; omega
  · simp [eq_comm]; omega

end InFlight

end StagedFiles
