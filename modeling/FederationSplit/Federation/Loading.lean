import FederationSplit.Federation.Composition
import FederationSplit.Settings.Config

namespace FederationSplit.Federation

open FederationSplit.Syntax
open FederationSplit.Schema
open FederationSplit.Rules
open FederationSplit.Settings

inductive LoadError where
  | malformed (error : SyntaxError)
  | rules (violations : List Violation)
  | unordered (number : Text.OversizedNumber)
  | folding (problems : List FoldingProblem)
  | composition (service : String) (problems : List CompositionProblem)
  | kindUnknown
  deriving DecidableEq, Repr

def LoadError.messages (source : String) : LoadError → List String
  | .malformed error => [error.report source]
  | .rules violations => violations.map Violation.message
  | .unordered number => [number.message]
  | .folding problems => problems.map FoldingProblem.message
  | .composition service problems => problems.map (serviceReport service source)
  | .kindUnknown => ["The kind of the input is not known."]

def LoadError.obstacle? : LoadError → Option Text.OversizedNumber
  | .unordered number => some number
  | .composition _ problems => problems.findSome? CompositionProblem.obstacle?
  | _ => none

/-- Does a document declare the marker by which composition records the keys of types? -/
def declaresSupergraph (document : Document) : Bool :=
  (directiveDefinitions document).any (·.name == typeMarker)

def effectiveKind (kind : InputKind) (document : Document) : InputKind :=
  match kind with
  | .auto => if declaresSupergraph document then .supergraph else .service
  | kind => kind

def loadSupergraph (document : Document) : Except LoadError SchemaDocument :=
  match check document, (fold document).problems with
  | .error number, _ => .error (.unordered number)
  | .ok [], [] => .ok (fold document).toSchemaDocument
  | .ok [], problems => .error (.folding problems)
  | .ok violations, _ => .error (.rules violations)

def loadDocument (kind : InputKind) (service : String) (document : Document) :
    Except LoadError SchemaDocument :=
  match effectiveKind kind document with
  | .service => (compose service document).mapError (.composition service)
  | _ => loadSupergraph document

def load (kind : InputKind) (service source : String) : Except LoadError SchemaDocument := do
  loadDocument kind service (← (Document.parse source).mapError .malformed)

end FederationSplit.Federation
