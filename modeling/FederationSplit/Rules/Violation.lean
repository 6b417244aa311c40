import FederationSplit.Syntax.Printer
import FederationSplit.Text.Suggestion

namespace FederationSplit.Rules

open FederationSplit.Syntax
open FederationSplit.Text

inductive ArgumentOwner where
  | field (type field : Name)
  | directive (name : Name)
  deriving DecidableEq, Repr

def ArgumentOwner.describe : ArgumentOwner → String
  | .field typeName fieldName => s!"{typeName}.{fieldName}"
  | .directive name => s!"@{name}"

inductive Violation where
  | repeatedSchemaDefinition
  | repeatedOperationType (operation : OperationType)
  | repeatedType (name : Name)
  | repeatedEnumValue (type value : Name)
  | repeatedField (type field : Name)
  | repeatedArgumentDefinition (owner : ArgumentOwner) (argument : Name)
  | repeatedDirective (name : Name)
  | unknownType (name : Name) (known : List Name)
  | unknownDirective (name : Name)
  | misplacedDirective (name : Name) (location : DirectiveLocation)
  | repeatedUsage (name : Name)
  | extensionOfOtherKind (kind : TypeKind) (type : Name)
  | extensionOfUndefined (type : Name) (known : List Name)
  | unknownArgument (argument directive : Name) (known : List Name)
  | repeatedArgument (name : Name)
  | repeatedInputField (name : Name)
  | missingArgument (directive argument : Name) (type : TypeRef)
  deriving DecidableEq, Repr

def Violation.obstacle? : Violation → Option OversizedNumber
  | .unknownType name known | .extensionOfUndefined name known =>
      suggestionObstacle? name known
  | .unknownArgument argument _ known => suggestionObstacle? argument known
  | _ => none

def locationLabel (location : DirectiveLocation) : String :=
  location.keyword.map fun character => if character = '_' then ' ' else character.toLower

def Violation.message : Violation → String
  | .repeatedSchemaDefinition => "Must provide only one schema definition."
  | .repeatedOperationType operation =>
      s!"There can be only one {operation.keyword} type in schema."
  | .repeatedType name => s!"There can be only one type named '{name}'."
  | .repeatedEnumValue type value => s!"Enum value '{type}.{value}' can only be defined once."
  | .repeatedField type field => s!"Field '{type}.{field}' can only be defined once."
  | .repeatedArgumentDefinition owner argument =>
      s!"Argument '{owner.describe}({argument}:)' can only be defined once."
  | .repeatedDirective name => s!"There can be only one directive named '@{name}'."
  | .unknownType name known => s!"Unknown type '{name}'." ++ didYouMean (suggestions name known)
  | .unknownDirective name => s!"Unknown directive '@{name}'."
  | .misplacedDirective name location =>
      s!"Directive '@{name}' may not be used on {locationLabel location}."
  | .repeatedUsage name => s!"The directive '@{name}' can only be used once at this location."
  | .extensionOfOtherKind kind type => s!"Cannot extend non-{kind.label} type '{type}'."
  | .extensionOfUndefined type known =>
      s!"Cannot extend type '{type}' because it is not defined." ++
        didYouMean (suggestions type known)
  | .unknownArgument argument directive known =>
      s!"Unknown argument '{argument}' on directive '@{directive}'." ++
        didYouMean (suggestions argument known)
  | .repeatedArgument name => s!"There can be only one argument named '{name}'."
  | .repeatedInputField name => s!"There can be only one input field named '{name}'."
  | .missingArgument directive argument type =>
      s!"Directive '@{directive}' argument '{argument}' of type '{type.print}' is required, " ++
        "but it was not provided."

end FederationSplit.Rules
