import FederationSplit.Syntax.Excerpt
import FederationSplit.Syntax.Parser

namespace FederationSplit.Federation

open FederationSplit.Syntax

inductive FieldSetError where
  | malformed (error : SyntaxError)
  | notPlain
  deriving DecidableEq, Repr

def FieldSetError.message : FieldSetError → String
  | .malformed error => error.message
  | .notPlain => "a field set must be a plain list of fields"

def bracedFieldSet (text : String) : String :=
  "\x7b" ++ text ++ "\x7d"

def FieldSetError.report (text : String) : FieldSetError → String
  | .malformed error => error.report (bracedFieldSet text)
  | .notPlain => FieldSetError.notPlain.message

/-- Reads a field set. Between braces it is to be one selection set and nothing else. -/
def parseFieldSet (text : String) : Except FieldSetError (List Selection) := do
  let document ← (Document.parse (bracedFieldSet text)).mapError .malformed
  match document.definitions with
  | [.operation definition] => pure definition.selections
  | _ => throw .notPlain

end FederationSplit.Federation
