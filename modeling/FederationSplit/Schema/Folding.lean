import FederationSplit.Schema.SchemaDocument

namespace FederationSplit.Schema

open FederationSplit.Syntax

inductive FoldingProblem where
  | duplicateType (name : Name)
  | wrongKind (kind : TypeKind) (name : Name)
  | executableOperation
  | executableFragment
  deriving DecidableEq, Repr

def FoldingProblem.message : FoldingProblem → String
  | .duplicateType name => s!"There can be only one type named \"{name}\"."
  | .wrongKind kind name => s!"Cannot extend non-{kind.label} type \"{name}\"."
  | .executableOperation =>
      "Executable definitions are not allowed in a schema: found operation_definition."
  | .executableFragment =>
      "Executable definitions are not allowed in a schema: found fragment_definition."

structure Definitions where
  types : List TypeDefinition
  directives : List DirectiveDefinition
  schemaDirectives : List DirectiveUsage
  operationTypes : List (OperationType × Name)
  problems : List FoldingProblem
  deriving Repr, Inhabited

def extendBody? : TypeBody → TypeBody → Option TypeBody
  | .scalar, .scalar => some .scalar
  | .object interfaces fields, .object moreInterfaces moreFields =>
      some (.object (interfaces ++ moreInterfaces) (fields ++ moreFields))
  | .interface interfaces fields, .interface moreInterfaces moreFields =>
      some (.interface (interfaces ++ moreInterfaces) (fields ++ moreFields))
  | .union members, .union more => some (.union (members ++ more))
  | .enum values, .enum more => some (.enum (values ++ more))
  | .inputObject fields, .inputObject more => some (.inputObject (fields ++ more))
  | _, _ => none

def extendType? (definition : TypeDefinition) (extension : TypeExtension) :
    Option TypeDefinition :=
  (extendBody? definition.body extension.body).map fun body =>
    { definition with directives := definition.directives ++ extension.directives, body }

/-- The definition that an extension stands for when its type is not defined. -/
def definitionOfExtension (extension : TypeExtension) : TypeDefinition where
  description := none
  name := extension.name
  directives := extension.directives
  body := extension.body

namespace Definitions

def empty : Definitions where
  types := []
  directives := []
  schemaDirectives := []
  operationTypes := []
  problems := []

def addProblem (definitions : Definitions) (problem : FoldingProblem) : Definitions :=
  { definitions with problems := definitions.problems ++ [problem] }

def addSchema (definitions : Definitions) (schema : SchemaDefinition) : Definitions :=
  { definitions with
    schemaDirectives := definitions.schemaDirectives ++ schema.directives
    operationTypes := schema.operationTypes.foldl
      (fun operationTypes (operation, type) => setOperationType operation type operationTypes)
      definitions.operationTypes }

/-- Groups one definition with those before it. Extensions of types wait. -/
def addDefinition (definitions : Definitions) : Definition → Definitions
  | .schema schema => definitions.addSchema schema
  | .schemaExtension schema => definitions.addSchema schema
  | .type type =>
      if (findType? definitions.types type.name).isSome then
        definitions.addProblem (.duplicateType type.name)
      else { definitions with types := definitions.types ++ [type] }
  | .typeExtension _ => definitions
  | .directive directive =>
      { definitions with directives := definitions.directives ++ [directive] }
  | .operation _ => definitions.addProblem .executableOperation
  | .fragment _ => definitions.addProblem .executableFragment

def addExtension (definitions : Definitions) (extension : TypeExtension) : Definitions :=
  match findType? definitions.types extension.name with
  | none =>
      { definitions with types := definitions.types ++ [definitionOfExtension extension] }
  | some type =>
      match extendType? type extension with
      | none => definitions.addProblem (.wrongKind extension.body.kind extension.name)
      | some extended => { definitions with types := setType extended definitions.types }

/-- Explicit root types if the schema declares any, conventional names otherwise. -/
def rootTypes (definitions : Definitions) : RootTypes :=
  let root (operation : OperationType) : Option Name :=
    if definitions.operationTypes.isEmpty then
      let name := RootTypes.conventionalName operation
      if (findType? definitions.types name).isSome then some name else none
    else definitions.operationTypes.lookup operation
  { query := root .query, mutation := root .mutation, subscription := root .subscription }

def toSchemaDocument (definitions : Definitions) : SchemaDocument where
  types := definitions.types
  directives := definitions.directives
  schemaDirectives := definitions.schemaDirectives
  rootTypes := definitions.rootTypes

end Definitions

def typeExtensions (document : Document) : List TypeExtension :=
  document.definitions.filterMap fun
    | .typeExtension extension => some extension
    | _ => none

/--
Groups the definitions of a document, then folds its extensions, wherever they stand. An extension
of a type that is never defined becomes its definition.
-/
def fold (document : Document) : Definitions :=
  (typeExtensions document).foldl Definitions.addExtension
    (document.definitions.foldl Definitions.addDefinition Definitions.empty)

end FederationSplit.Schema
