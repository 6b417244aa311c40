import FederationSplit.Text.Alphanumeric
import FederationSplit.Text.CodePoint
import FederationSplit.Text.Uppercase

namespace FederationSplit.Federation

open FederationSplit.Text

def wordCharacter : CodePoint → Char
  | .character value => if isAlphanumeric value || value == '_' then value else '_'
  | .surrogate _ => '_'

/-- The upper-case name of the graph of a service, never empty and never starting with a digit. -/
def graphName (service : String) : String :=
  let name := (codePoints service.toList).flatMap fun point => upperCase (wordCharacter point)
  match name with
  | [] => "_"
  | first :: _ => if isDigit first then String.ofList ('_' :: name) else String.ofList name

end FederationSplit.Federation
