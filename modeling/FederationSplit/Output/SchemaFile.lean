import FederationSplit.Files.FileTree
import FederationSplit.Output.SchemaText
import FederationSplit.Text.Utf8

namespace FederationSplit.Output

open FederationSplit.Files
open FederationSplit.Text

/-- How a schema is written: whether its text is checked first, and whether the file is replaced in
one step. -/
structure WriteOptions where
  isChecked : Bool
  isAtomic : Bool
  deriving DecidableEq, Repr

inductive WriteError where
  | text (error : TextError)
  | file (error : FileError)
  deriving DecidableEq, Repr

def WriteError.message (text : String) : WriteError → String
  | .text error => error.message text
  | .file error => error.message

def writeSchema (options : WriteOptions) (workingDirectory : Place) (path : Path)
    (text : String) (tree : FileTree) : Except WriteError Unit × FileTree :=
  let checked := if options.isChecked then checkText text else .ok ()
  match checked with
  | .error error => (.error (.text error), tree)
  | .ok () =>
      let change := Change.writeFile options.isAtomic workingDirectory path (Utf8.encode? text)
      let (written, changed) := change.apply tree
      (written.mapError .file, changed)

end FederationSplit.Output
