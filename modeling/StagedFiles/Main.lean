-- The command. It reads the files that a run looks at, makes the run, writes
-- what has changed and prints.
import StagedFiles.Program
import Std.Time.Format

namespace StagedFiles.Command

/-- The time of day, as it stands in a summary. -/
def clockReading : IO String := do
  let now ← Std.Time.Timestamp.now
  let here := Std.Time.PlainDateTime.ofWallTime (now.toWallTime Std.Time.TimeZone.Offset.zero)
  pure (here.format "uuuu-MM-dd'T'HH:mm:ss.SSSSSSSSS'Z'")

/-- The variables of the environment that the arguments look at. -/
def environment : IO CommandLine.Environment :=
  CommandLine.variableNames.filterMapM fun name => do
    pure ((← IO.getEnv name).map (name, ·))

/-- The tree with what is found at a path. -/
def readPlace (tree : FileTree) (path : String) : IO FileTree := do
  let file := (← IO.currentDir) / path
  if !(← file.pathExists) then
    return tree
  match (← file.metadata).type with
  | .dir => pure (tree.withDirectory path)
  | .file => pure (tree.withFile path (← IO.FS.readBinFile file).toList)
  | _ => pure tree

/-- Writes a file with its bytes, or a directory. -/
def writePlace (path : String) (bytes : Option Bytes) : IO Unit :=
  match bytes with
  | none => IO.FS.createDirAll path
  | some b => IO.FS.writeBinFile path ⟨b.toArray⟩

end StagedFiles.Command

open StagedFiles in
def main (words : List String) : IO UInt32 := do
  let env ← Command.environment
  let here := (← IO.currentDir).toString
  let stations := (Program.places words env).flatMap FileTree.stations
  let before ← stations.foldlM Command.readPlace (({} : FileTree).withDevices.startingIn here)
  let start ← Command.clockReading
  let startMs ← IO.monoMsNow
  let (ending, after) := Program.run words env before
  for (path, bytes) in before.changes after do
    Command.writePlace ("/" ++ path) bytes
  let times : Times := ⟨start, ← Command.clockReading, (← IO.monoMsNow) - startMs⟩
  IO.print (ending.output times)
  IO.eprint ending.complaint
  pure ending.exitCode.toUInt32
