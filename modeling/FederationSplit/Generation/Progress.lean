import FederationSplit.Generation.Generator

namespace FederationSplit.Generation

open FederationSplit.Syntax
open FederationSplit.Schema
open FederationSplit.Federation
open FederationSplit.Settings

inductive Event where
  | loading (kind : InputKind)
  | composing (typeCount : Nat) (service : String)
  | classified (type : Name) (directives : List Name)
  | entitiesFound (names : List Name)
  | unionAdded (members : List Name)
  | unionOmitted
  | written (target : String)
  | generated (target source : String)
  deriving DecidableEq, Repr

namespace Event

/-- Only the end of a run is of interest to somebody who does not look for details. -/
def level : Event → String
  | .generated _ _ => "INFO"
  | _ => "DEBUG"

def component : Event → String
  | .loading _ => "loader"
  | .composing _ _ => "composition.composer"
  | .classified _ _ => "passes.entity_classifier"
  | .entitiesFound _ => "generator"
  | .unionAdded _ => "passes.scaffold_assembler"
  | .unionOmitted => "passes.scaffold_assembler"
  | .written _ => "writer.atomic_writer"
  | .generated _ _ => "generator"

def listing (names : List Name) : String :=
  if names.isEmpty then "<none>" else ", ".intercalate names

def message : Event → String
  | .loading kind => "Loading schema as " ++ Choice.word kind
  | .composing typeCount service => s!"Composing {typeCount} types of service {service}"
  | .classified type directives =>
      let usages := ", ".intercalate (directives.map ("@" ++ ·))
      s!"Classified {type} as {usages}"
  | .entitiesFound names => "Entities: " ++ listing names
  | .unionAdded members => s!"{entityUnion} members: " ++ listing members
  | .unionOmitted => s!"No entity found, leaving out {entityUnion} and {entitiesField}"
  | .written target => "Wrote " ++ target
  | .generated target source => s!"Generated subgraph schema {target} from {source}"

def line (event : Event) : String :=
  s!"{event.level} {programName}.pipeline.{event.component}: {event.message}\n"

end Event

def compositionEvents (service : String) (document : Document) : List Event :=
  let definitions := serviceDefinitions document
  if (compositionProblems definitions).isEmpty then
    [.composing definitions.types.length service]
  else []

def loadingEvents (config : Config) (service : String) (document : Document) : List Event :=
  let kind := effectiveKind config.inputKind document
  .loading kind :: if kind = .service then compositionEvents service document else []

def classificationEvents (selection : MarkerSelection) (schema : SchemaDocument) : List Event :=
  schema.types.filterMap fun type =>
    match classifyType selection type with
    | [] => none
    | usages => some (.classified type.name (usages.map (·.name)))

/-- Reports on the entity union, unless adding declarations fails before it is made. -/
def unionEvents (policy : ScaffoldPolicy) (registry : EntityRegistry) (schema : SchemaDocument) :
    List Event :=
  match addScalars policy registry schema with
  | .error _ => []
  | .ok _ =>
      if emitsEntities policy.emptyEntity registry then
        match entityUnionType schema registry with
        | .error _ => []
        | .ok _ => [.unionAdded registry.names]
      else [.unionOmitted]

def transformationEvents (config : Config) (schema : SchemaDocument) : List Event :=
  let annotated := annotate config.federationUrl schema
  let registry := entities config.markerSelection annotated
  classificationEvents config.markerSelection annotated ++ [.entitiesFound registry.names] ++
    unionEvents (scaffoldPolicy config) registry (prune config schema)

def Generator.events (generator : Generator) (source : String) : List Event :=
  match Document.parse source with
  | .error _ => []
  | .ok document =>
      let loading := loadingEvents generator.config generator.service document
      match loadDocument generator.config.inputKind generator.service document with
      | .error _ => loading
      | .ok schema => loading ++ transformationEvents generator.config schema

end FederationSplit.Generation
