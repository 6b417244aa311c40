import FederationSplit.Syntax.Printer
import FederationSplit.Text.Blank

namespace FederationSplit.Schema

open FederationSplit.Syntax

structure RootTypes where
  query : Option Name
  mutation : Option Name
  subscription : Option Name
  deriving DecidableEq, Repr, Inhabited

namespace RootTypes

def conventionalName : OperationType → Name
  | .query => "Query"
  | .mutation => "Mutation"
  | .subscription => "Subscription"

def get (roots : RootTypes) : OperationType → Option Name
  | .query => roots.query
  | .mutation => roots.mutation
  | .subscription => roots.subscription

/-- The operations that have a root type, with its name. An empty name counts as none. -/
def items (roots : RootTypes) : List (OperationType × Name) :=
  [OperationType.query, .mutation, .subscription].filterMap fun operation =>
    ((roots.get operation).filter (!·.isEmpty)).map (operation, ·)

def names (roots : RootTypes) : List Name :=
  roots.items.map (·.2)

end RootTypes

def setOperationType (operation : OperationType) (type : Name) :
    List (OperationType × Name) → List (OperationType × Name)
  | [] => [(operation, type)]
  | (other, old) :: rest =>
      if other = operation then (operation, type) :: rest
      else (other, old) :: setOperationType operation type rest

def findType? (types : List TypeDefinition) (name : Name) : Option TypeDefinition :=
  types.find? (·.name == name)

/-- Puts a type in the place of the one with its name, or at the end. -/
def setType (definition : TypeDefinition) : List TypeDefinition → List TypeDefinition
  | [] => [definition]
  | other :: rest =>
      if other.name = definition.name then definition :: rest
      else other :: setType definition rest

structure SchemaDocument where
  types : List TypeDefinition
  directives : List DirectiveDefinition
  schemaDirectives : List DirectiveUsage
  rootTypes : RootTypes
  deriving DecidableEq, Repr, Inhabited

namespace SchemaDocument

def type? (schema : SchemaDocument) (name : Name) : Option TypeDefinition :=
  findType? schema.types name

def directive? (schema : SchemaDocument) (name : Name) : Option DirectiveDefinition :=
  schema.directives.find? (·.name == name)

def isRootType (schema : SchemaDocument) (name : Name) : Bool :=
  schema.rootTypes.names.contains name

def queryType? (schema : SchemaDocument) : Option TypeDefinition :=
  (schema.rootTypes.query.bind schema.type?).filter (·.kind = .object)

/-- A schema definition is left out when it would only repeat what is assumed without one. -/
def needsSchemaDefinition (schema : SchemaDocument) : Bool :=
  !schema.schemaDirectives.isEmpty ||
    schema.rootTypes.items.any fun (operation, name) =>
      RootTypes.conventionalName operation != name

def schemaDefinition (schema : SchemaDocument) : SchemaDefinition where
  description := none
  directives := schema.schemaDirectives
  operationTypes := schema.rootTypes.items

def toDocument (schema : SchemaDocument) : Document where
  definitions :=
    (if schema.needsSchemaDefinition then [.schema schema.schemaDefinition] else []) ++
      schema.directives.map .directive ++ schema.types.map .type

def printDefinitions (schema : SchemaDocument) : List String :=
  (if schema.needsSchemaDefinition then [schema.schemaDefinition.print] else []) ++
    schema.directives.map DirectiveDefinition.print ++ schema.types.map TypeDefinition.print

def print (schema : SchemaDocument) : String :=
  "\n\n".intercalate schema.printDefinitions ++ "\n"

def printBelow (schema : SchemaDocument) (header : String) : String :=
  if header.isEmpty then schema.print else Text.trimRight header ++ "\n\n" ++ schema.print

end SchemaDocument

end FederationSplit.Schema
