-- A run of the program. From its words, its environment and the files it finds
-- it makes what it prints, how it exits and the files it leaves.
import StagedFiles.CommandLine
import StagedFiles.Copy
import StagedFiles.Settings.Document
import StagedFiles.Store.Directory

namespace StagedFiles

/-! ## The end of a run -/

/-- How a run ends. -/
inductive Ending where
  /-- A text was asked for. -/
  | told (text : String)
  /-- The work is done; the summaries are printed, as JSON or as lines. -/
  | copied (json : Bool) (summaries : List Summary)
  | misused (why : CommandLine.Misuse)
  | failed (why : Chain)

namespace Ending

def exitCode : Ending → UInt8
  | .told _ | .copied _ _ => 0
  | .failed _ => 1
  | .misused _ => 2

/-- What is printed, with these readings of the clock. -/
def output (times : Times) : Ending → String
  | .told text => text
  | .copied json summaries => Summary.report json times summaries
  | .failed _ | .misused _ => ""

/-- What is printed about an ending that is not good. -/
def complaint : Ending → String
  | .told _ | .copied _ _ => ""
  | .failed why => "Error: " ++ why.render ++ "\n"
  | .misused why => "error: " ++ why.text ++ "\n\nFor more information, try '--help'.\n"

end Ending

namespace Program

open CommandLine

/-! ## The settings of a run -/

/-- The settings of the file that the arguments name, or the defaults. -/
def baseSettings (a : Arguments) (tree : FileTree) : Except Chain Settings :=
  match a.config with
  | none => .ok {}
  | some path =>
    (Settings.ofFile path (tree.contents path)).mapError
      (.during s!"failed to load config {path}")

/-- The settings with those that the arguments set themselves. -/
def override (a : Arguments) (s : Settings) : Settings :=
  { s with
    bufferSize := a.bufferSize.getD s.bufferSize
    adapter := a.adapter.getD s.adapter
    enabled := s.enabled && !a.has .noBuffer }

/-- The front that a run works with. -/
def front (a : Arguments) (tree : FileTree) : Except Chain Front := do
  let base ← baseSettings a tree
  (Front.ofSettings (override a base)).mapError (.during "invalid buffering configuration")

/-! ## The work -/

/-- All bytes of the source. -/
def source (a : Arguments) (tree : FileTree) : Except Chain Bytes :=
  let path := a.source
  (tree.contents path).mapError fun e => ⟨s!"failed to read {path}", [e.text]⟩

/-- How the arguments want the copy to go. -/
def plan (a : Arguments) : Except Chain CopyPlan :=
  if h : 0 < a.chunkSize then .ok ⟨a.dest, a.chunkSize, a.has .aio, h⟩
  else .error ⟨"--chunk-size must be > 0", []⟩

/-- What a run needs before it touches the store. -/
def prepare (a : Arguments) (tree : FileTree) : Except Chain (CopyPlan × Front × Bytes) := do
  let plan ← plan a
  let front ← front a tree
  let data ← source a tree
  pure (plan, front, data)

/-- Copies the source into the object and, if asked to, compares. -/
def work (a : Arguments) (tree : FileTree) : Except Chain (List Summary) × FileTree :=
  match prepare a tree with
  | .error why => (.error why, tree)
  | .ok (plan, front, data) =>
    let store : DirectoryStore := { root := a.root, tree }
    let (r, store) := Copy.run front plan (a.has .verify) data store
    (r.mapError CopyFault.chain, store.tree)

/-- A run over the files of a tree. -/
def run (words : List String) (env : Environment) (tree : FileTree) : Ending × FileTree :=
  match CommandLine.read words env with
  | .error .help => (.told (helpText env), tree)
  | .error .version => (.told versionText, tree)
  | .error (.misuse why) => (.misused why, tree)
  | .ok a =>
    match work a tree with
    | (.ok summaries, tree) => (.copied (a.has .summaryJson) summaries, tree)
    | (.error why, tree) => (.failed why, tree)

/-- The paths that a run looks at. -/
def places (words : List String) (env : Environment) : List String :=
  match CommandLine.read words env with
  | .error _ => []
  | .ok a =>
    let object := match ObjectPath.resolve a.root a.dest with
      | .ok place => [place]
      | .error _ => []
    a.source :: a.config.toList ++ object

end Program

end StagedFiles
