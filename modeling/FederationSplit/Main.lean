import FederationSplit.CommandLine.Command

namespace FederationSplit.CommandLine

open FederationSplit.Files

def variableNames : List String := ["INPUT_SCHEMA", "INPUT_TARGET", "GITHUB_ACTIONS"]

def readVariables : IO (List (String × String)) :=
  variableNames.filterMapM fun name => do
    pure ((← IO.getEnv name).map fun value => (name, Text.ofPlain value))

def readEntry (place : Place) : IO (Option Entry) := do
  let path := (← IO.currentDir) / Text.toPlain place.toText
  if ← path.isDir then pure (some .directory)
  else if ← path.pathExists then pure (some (.file (← IO.FS.readBinFile path).toList))
  else pure none

def readFiles (places : List Place) : IO FileTree :=
  places.foldlM
    (fun tree place => do
      match ← readEntry place with
      | some entry => pure (tree.set place entry)
      | none => pure tree)
    FileTree.empty

def writeEntry (place : Place) (entry : Entry) : IO Unit := do
  let path := (← IO.currentDir) / Text.toPlain place.toText
  match entry with
  | .directory => IO.FS.createDirAll path
  | .file content =>
      let temporary := (← IO.currentDir) / (Text.toPlain place.toText ++ ".tmp")
      IO.FS.writeBinFile temporary (ByteArray.mk content.toArray)
      IO.FS.rename temporary path

def runProgram (words : List String) : IO Nat := do
  let workingDirectory := (Path.ofText (Text.ofPlain (← IO.currentDir).toString)).parts
  let assignments ← readVariables
  let files ← readFiles (placesMentioned workingDirectory assignments words)
  let environment : Environment := { workingDirectory, assignments, files }
  let outcome := run environment words
  (outcome.files.changesSince files).forM fun (place, entry) => writeEntry place entry
  IO.print (Text.toPlain (outcome.standardOutput environment))
  IO.eprint (Text.toPlain outcome.standardError)
  pure outcome.exitCode

end FederationSplit.CommandLine

def main (words : List String) : IO UInt32 := do
  try
    let texts := words.map FederationSplit.Text.ofPlain
    pure (UInt32.ofNat (← FederationSplit.CommandLine.runProgram texts))
  catch error => do
    IO.eprintln s!"Error: {error}"
    pure 1
