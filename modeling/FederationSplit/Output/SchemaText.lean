import FederationSplit.Rules.Check
import FederationSplit.Syntax.Excerpt
import FederationSplit.Syntax.Parser

namespace FederationSplit.Output

open FederationSplit.Syntax
open FederationSplit.Rules

inductive TextError where
  | malformed (error : SyntaxError)
  | rules (violations : List Violation)
  | unordered (number : Text.OversizedNumber)
  deriving DecidableEq, Repr

def TextError.message (text : String) : TextError → String
  | .malformed error => "Generated schema is not valid GraphQL: " ++ error.report text
  | .rules violations =>
      "Generated schema is not valid GraphQL:\n" ++
        "\n".intercalate (violations.map Violation.message)
  | .unordered number => number.message

def checkText (text : String) : Except TextError Unit := do
  let document ← (Document.parse text).mapError .malformed
  match ← (check document).mapError .unordered with
  | [] => pure ()
  | found => throw (.rules found)

end FederationSplit.Output
