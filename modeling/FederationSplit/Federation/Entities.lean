import FederationSplit.Federation.Prelude
import FederationSplit.Schema.SchemaDocument
import FederationSplit.Settings.Choice

namespace FederationSplit.Federation

open FederationSplit.Syntax
open FederationSplit.Schema
open FederationSplit.Settings

/-- Names of entities in the order in which they were registered, each once. -/
structure EntityRegistry where
  names : List Name
  deriving DecidableEq, Repr, Inhabited

namespace EntityRegistry

def empty : EntityRegistry where
  names := []

def contains (registry : EntityRegistry) (name : Name) : Bool :=
  registry.names.contains name

def register (registry : EntityRegistry) (name : Name) : EntityRegistry :=
  if registry.contains name then registry else { names := registry.names ++ [name] }

def ofList (names : List Name) : EntityRegistry :=
  names.foldl register empty

def isEmpty (registry : EntityRegistry) : Bool :=
  registry.names.isEmpty

end EntityRegistry

def shareableUsage : DirectiveUsage := DirectiveUsage.of "shareable" []

def isKeyed (marker : DirectiveUsage) : Bool :=
  (marker.argument? "key").isSome

/--
The federation directive that a marker stands for: a key with the fields of the marker's key and,
when stated, whether it can be resolved; without a key, that the type may be shared.
-/
def federationUsage (marker : DirectiveUsage) : DirectiveUsage :=
  match marker.argument? "key" with
  | some key =>
      DirectiveUsage.of "key"
        (Argument.of "fields" key.value :: (marker.argument? "resolvable").toList)
  | none => shareableUsage

def classifyMarkers (selection : MarkerSelection) (markers : List DirectiveUsage) :
    List DirectiveUsage :=
  match selection, markers with
  | _, [] => []
  | .first, marker :: _ => [federationUsage marker]
  | .all, markers =>
      match markers.filter isKeyed with
      | [] => [shareableUsage]
      | keyed => keyed.map federationUsage

def classifyType (selection : MarkerSelection) (type : TypeDefinition) : List DirectiveUsage :=
  match type.kind with
  | .object => classifyMarkers selection (usagesOf typeMarker type.directives)
  | _ => []

def isEntity (selection : MarkerSelection) (type : TypeDefinition) : Bool :=
  (classifyType selection type).any (·.name == "key")

def entities (selection : MarkerSelection) (schema : SchemaDocument) : EntityRegistry :=
  EntityRegistry.ofList ((schema.types.filter (isEntity selection)).map (·.name))

def classify (selection : MarkerSelection) (schema : SchemaDocument) : SchemaDocument :=
  { schema with
    types := schema.types.map fun type =>
      { type with directives := type.directives ++ classifyType selection type } }

end FederationSplit.Federation
