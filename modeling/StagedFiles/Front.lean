-- The front of the layer: settings that passed their checks. It hands out new
-- files, and calls by path go from it straight to the store.
import StagedFiles.File

namespace StagedFiles

structure Front where
  settings : Settings

namespace Front

/-- A front over settings that break no rule. -/
def ofSettings (settings : Settings) : Except Failure Front :=
  match settings.check with
  | .ok () => .ok { settings }
  | .error f => .error f

/-- A new file, not open. -/
def newFile (front : Front) : ObjectFile := ObjectFile.ofSettings front.settings

theorem ofSettings_eq_ok_iff {settings : Settings} {front : Front} :
    ofSettings settings = .ok front ↔ settings.check = .ok () ∧ front = { settings } := by
  unfold ofSettings
  split
  · simp_all [eq_comm]
  · simp_all

end Front

end StagedFiles
