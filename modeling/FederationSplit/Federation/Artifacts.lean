import FederationSplit.Federation.Names
import FederationSplit.Schema.SchemaDocument

namespace FederationSplit.Federation

open FederationSplit.Syntax
open FederationSplit.Schema

def isArtifact (usage : DirectiveUsage) : Bool :=
  isCompositionName usage.name

def withoutArtifacts (usages : List DirectiveUsage) : List DirectiveUsage :=
  usages.filter (!isArtifact ·)

def filterInputValue (definition : InputValueDefinition) : InputValueDefinition :=
  { definition with directives := withoutArtifacts definition.directives }

def filterField (definition : FieldDefinition) : FieldDefinition :=
  { definition with
    arguments := definition.arguments.map filterInputValue
    directives := withoutArtifacts definition.directives }

def filterEnumValue (definition : EnumValueDefinition) : EnumValueDefinition :=
  { definition with directives := withoutArtifacts definition.directives }

def filterBody : TypeBody → TypeBody
  | .scalar => .scalar
  | .object interfaces fields => .object interfaces (fields.map filterField)
  | .interface interfaces fields => .interface interfaces (fields.map filterField)
  | .union members => .union members
  | .enum values => .enum (values.map filterEnumValue)
  | .inputObject fields => .inputObject (fields.map filterInputValue)

def filterType (type : TypeDefinition) : TypeDefinition :=
  { type with directives := withoutArtifacts type.directives, body := filterBody type.body }

def filterArtifacts (schema : SchemaDocument) : SchemaDocument :=
  { schema with types := schema.types.map filterType }

def hasArtifact (usages : List DirectiveUsage) : Bool :=
  usages.any isArtifact

/--
Items with those that change in their new form, unless none of them changes. What carries no usage
of composition is kept as it is.
-/
def changedItems? (change? : α → Option α) (items : List α) : Option (List α) :=
  if items.any fun item => (change? item).isSome then
    some (items.map fun item => (change? item).getD item)
  else none

def strippedUsages? (usages : List DirectiveUsage) : Option (List DirectiveUsage) :=
  if hasArtifact usages then some (withoutArtifacts usages) else none

def strippedInputValue? (definition : InputValueDefinition) : Option InputValueDefinition :=
  (strippedUsages? definition.directives).map fun directives => { definition with directives }

def strippedEnumValue? (definition : EnumValueDefinition) : Option EnumValueDefinition :=
  (strippedUsages? definition.directives).map fun directives => { definition with directives }

def strippedField? (definition : FieldDefinition) : Option FieldDefinition :=
  match strippedUsages? definition.directives,
      changedItems? strippedInputValue? definition.arguments with
  | none, none => none
  | directives?, arguments? =>
      some
        { definition with
          directives := directives?.getD definition.directives
          arguments := arguments?.getD definition.arguments }

def strippedBody? : TypeBody → Option TypeBody
  | .scalar | .union _ => none
  | .object interfaces fields => (changedItems? strippedField? fields).map (.object interfaces)
  | .interface interfaces fields =>
      (changedItems? strippedField? fields).map (.interface interfaces)
  | .enum values => (changedItems? strippedEnumValue? values).map .enum
  | .inputObject fields => (changedItems? strippedInputValue? fields).map .inputObject

def strippedType? (type : TypeDefinition) : Option TypeDefinition :=
  match strippedUsages? type.directives, strippedBody? type.body with
  | none, none => none
  | directives?, body? =>
      some
        { type with
          directives := directives?.getD type.directives
          body := body?.getD type.body }

def strip (schema : SchemaDocument) : SchemaDocument :=
  { schema with types := schema.types.map fun type => (strippedType? type).getD type }

def isRootObject (schema : SchemaDocument) (type : TypeDefinition) : Bool :=
  type.kind = .object && schema.isRootType type.name

def sanitizeRoots (schema : SchemaDocument) : SchemaDocument :=
  { schema with
    types := schema.types.map fun type =>
      if isRootObject schema type then { type with directives := [] } else type }

/-- Is a type declared for composition? Only enumerations and scalars are. -/
def isCompositionType (type : TypeDefinition) : Bool :=
  match type.kind with
  | .enum | .scalar => isCompositionName type.name
  | _ => false

def eliminate (schema : SchemaDocument) : SchemaDocument :=
  { schema with
    types := schema.types.filter (!isCompositionType ·)
    directives := schema.directives.filter (!isCompositionName ·.name) }

end FederationSplit.Federation
