import FederationSplit.Federation.Entities

namespace FederationSplit.Federation

open FederationSplit.Syntax
open FederationSplit.Schema
open FederationSplit.Settings

inductive DeclarationKind where
  | type
  | queryField
  | directive
  deriving DecidableEq, Repr

def DeclarationKind.label : DeclarationKind → String
  | .type => "type"
  | .queryField => "query field"
  | .directive => "directive"

/-- Why a scaffold cannot be added. The last two do not happen to a valid supergraph. -/
inductive ScaffoldError where
  | nameTaken (kind : DeclarationKind) (name : Name)
  | noEntity
  | queryTypeMissing (root : Option Name)
  | entityUnresolved (name : Name)
  deriving DecidableEq, Repr

def ScaffoldError.message : ScaffoldError → String
  | .nameTaken kind name =>
      s!"Cannot add federation {kind.label} '{name}': the schema already declares it. " ++
        "Rename it or set collision_policy to 'replace'."
  | .noEntity => "No type declares a key: the subgraph schema would have no entity"
  | .queryTypeMissing root =>
      let name := root.getD "None"
      s!"Query type '{name}' is missing from the document"
  | .entityUnresolved name => s!"Entity '{name}' does not resolve to an object type in the document"

structure ScaffoldPolicy where
  collision : CollisionPolicy
  emptyEntity : EmptyEntityPolicy
  deriving DecidableEq, Repr

def anyScalar : Name := "_Any"

def fieldSetScalar : Name := "FieldSet"

def entityUnion : Name := "_Entity"

def entitiesField : Name := "_entities"

def entitiesFieldDefinition : FieldDefinition where
  description := none
  name := entitiesField
  arguments := [parameter "representations" (.nonNull (.list (required anyScalar)))]
  type := .nonNull (.list (.named entityUnion))
  directives := []

def scaffoldDirectives : List DirectiveDefinition := [keyDirective, shareableDirective]

def emitsEntities (policy : EmptyEntityPolicy) (registry : EntityRegistry) : Bool :=
  !registry.isEmpty || policy = .emit

/-- Refuses a declaration that exists already, unless it is to be replaced. -/
def refuse (policy : CollisionPolicy) (kind : DeclarationKind) (name : Name) (isTaken : Bool) :
    Except ScaffoldError Unit :=
  if isTaken && policy = .error then throw (.nameTaken kind name) else pure ()

def addType (policy : CollisionPolicy) (types : List TypeDefinition) (type : TypeDefinition) :
    Except ScaffoldError (List TypeDefinition) := do
  refuse policy .type type.name (findType? types type.name).isSome
  pure (setType type types)

def entityUnionType (schema : SchemaDocument) (registry : EntityRegistry) :
    Except ScaffoldError TypeDefinition := do
  let members ← registry.names.mapM fun name =>
    if (schema.type? name).any (·.kind = .object) then pure name
    else throw (.entityUnresolved name)
  pure { description := none, name := entityUnion, directives := [], body := .union members }

def withEntitiesField (policy : CollisionPolicy) (query : TypeDefinition) :
    Except ScaffoldError TypeDefinition := do
  let fields := query.body.fields
  refuse policy .queryField entitiesField (fields.any (·.name == entitiesField))
  let kept := fields.filter (·.name != entitiesField)
  pure { query with body := .object query.body.interfaces (kept ++ [entitiesFieldDefinition]) }

/-- Directive definitions with those for keys and sharing at their end, each once. -/
def withScaffoldDirectives (policy : CollisionPolicy) (directives : List DirectiveDefinition) :
    Except ScaffoldError (List DirectiveDefinition) := do
  let isScaffold (name : Name) : Bool := scaffoldDirectives.any (·.name == name)
  directives.forM fun directive =>
    refuse policy .directive directive.name (isScaffold directive.name)
  pure (directives.filter (!isScaffold ·.name) ++ scaffoldDirectives)

def addEntities (policy : CollisionPolicy) (schema : SchemaDocument) (registry : EntityRegistry)
    (query : TypeDefinition) (types : List TypeDefinition) :
    Except ScaffoldError (List TypeDefinition) := do
  let types ← addType policy types (← entityUnionType schema registry)
  pure (setType (← withEntitiesField policy query) types)

def addScalars (policy : ScaffoldPolicy) (registry : EntityRegistry) (schema : SchemaDocument) :
    Except ScaffoldError (TypeDefinition × List TypeDefinition) := do
  let some query := schema.queryType? | throw (.queryTypeMissing schema.rootTypes.query)
  if registry.isEmpty && policy.emptyEntity = .error then throw .noEntity
  let types ← addType policy.collision schema.types (scalarType anyScalar)
  pure (query, ← addType policy.collision types (scalarType fieldSetScalar))

def assemble (policy : ScaffoldPolicy) (registry : EntityRegistry) (schema : SchemaDocument) :
    Except ScaffoldError SchemaDocument := do
  let (query, types) ← addScalars policy registry schema
  let types ←
    if emitsEntities policy.emptyEntity registry then
      addEntities policy.collision schema registry query types
    else pure types
  let directives ← withScaffoldDirectives policy.collision schema.directives
  pure { schema with types, directives }

end FederationSplit.Federation
