import FederationSplit.Federation.Prelude

namespace FederationSplit.Rules

open FederationSplit.Syntax
open FederationSplit.Federation

def builtinScalars : List TypeDefinition :=
  ["String", "Int", "Float", "Boolean", "ID"].map scalarType

def includeDirective : DirectiveDefinition :=
  directiveOnce "include" [parameter "if" (required "Boolean")]
    [.field, .fragmentSpread, .inlineFragment]

def skipDirective : DirectiveDefinition :=
  directiveOnce "skip" [parameter "if" (required "Boolean")]
    [.field, .fragmentSpread, .inlineFragment]

def deprecatedDirective : DirectiveDefinition :=
  directiveOnce "deprecated"
    [parameterWithDefault "reason" (.named "String") (.text "No longer supported")]
    [.fieldDefinition, .argumentDefinition, .inputFieldDefinition, .enumValue]

def specifiedByDirective : DirectiveDefinition :=
  directiveOnce "specifiedBy" [parameter "url" (required "String")] [.scalar]

def oneOfDirective : DirectiveDefinition :=
  directiveOnce "oneOf" [] [.inputObject]

def builtinDirectives : List DirectiveDefinition :=
  [includeDirective, skipDirective, deprecatedDirective, specifiedByDirective, oneOfDirective]

/-! ### Types for introspection -/

def plainField (name : Name) (type : TypeRef) : FieldDefinition where
  description := none
  name := name
  arguments := []
  type := type
  directives := []

def listField (name : Name) (type : TypeRef) : FieldDefinition :=
  { plainField name type with
    arguments := [parameterWithDefault "includeDeprecated" (.named "Boolean") (.boolean false)] }

def plainObject (name : Name) (fields : List FieldDefinition) : TypeDefinition where
  description := none
  name := name
  directives := []
  body := .object [] fields

def plainEnum (name : Name) (values : List Name) : TypeDefinition where
  description := none
  name := name
  directives := []
  body := .enum (values.map (enumValue none))

def requiredList (name : Name) : TypeRef := .nonNull (.list (required name))

def optionalList (name : Name) : TypeRef := .list (required name)

def introspectionTypes : List TypeDefinition :=
  [plainObject "__Schema"
      [plainField "description" (.named "String"), plainField "types" (requiredList "__Type"),
        plainField "queryType" (required "__Type"), plainField "mutationType" (.named "__Type"),
        plainField "subscriptionType" (.named "__Type"),
        { plainField "directives" (requiredList "__Directive") with
          arguments :=
            [parameterWithDefault "includeDeprecated" (required "Boolean") (.boolean false)] }],
    plainObject "__Directive"
      [plainField "name" (required "String"), plainField "description" (.named "String"),
        plainField "isRepeatable" (required "Boolean"),
        plainField "isDeprecated" (required "Boolean"),
        plainField "deprecationReason" (.named "String"),
        plainField "locations" (requiredList "__DirectiveLocation"),
        listField "args" (requiredList "__InputValue")],
    plainEnum "__DirectiveLocation"
      ["QUERY", "MUTATION", "SUBSCRIPTION", "FIELD", "FRAGMENT_DEFINITION", "FRAGMENT_SPREAD",
        "INLINE_FRAGMENT", "VARIABLE_DEFINITION", "SCHEMA", "SCALAR", "OBJECT", "FIELD_DEFINITION",
        "ARGUMENT_DEFINITION", "INTERFACE", "UNION", "ENUM", "ENUM_VALUE", "INPUT_OBJECT",
        "INPUT_FIELD_DEFINITION", "DIRECTIVE_DEFINITION"],
    plainObject "__Type"
      [plainField "kind" (required "__TypeKind"), plainField "name" (.named "String"),
        plainField "description" (.named "String"), plainField "specifiedByURL" (.named "String"),
        listField "fields" (optionalList "__Field"),
        plainField "interfaces" (optionalList "__Type"),
        plainField "possibleTypes" (optionalList "__Type"),
        listField "enumValues" (optionalList "__EnumValue"),
        listField "inputFields" (optionalList "__InputValue"),
        plainField "ofType" (.named "__Type"), plainField "isOneOf" (.named "Boolean")],
    plainObject "__Field"
      [plainField "name" (required "String"), plainField "description" (.named "String"),
        listField "args" (requiredList "__InputValue"), plainField "type" (required "__Type"),
        plainField "isDeprecated" (required "Boolean"),
        plainField "deprecationReason" (.named "String")],
    plainObject "__InputValue"
      [plainField "name" (required "String"), plainField "description" (.named "String"),
        plainField "type" (required "__Type"), plainField "defaultValue" (.named "String"),
        plainField "isDeprecated" (required "Boolean"),
        plainField "deprecationReason" (.named "String")],
    plainObject "__EnumValue"
      [plainField "name" (required "String"), plainField "description" (.named "String"),
        plainField "isDeprecated" (required "Boolean"),
        plainField "deprecationReason" (.named "String")],
    plainEnum "__TypeKind"
      ["SCALAR", "OBJECT", "INTERFACE", "UNION", "ENUM", "INPUT_OBJECT", "LIST", "NON_NULL"]]

def builtinTypes : List TypeDefinition := builtinScalars ++ introspectionTypes

def isBuiltinType (name : Name) : Bool :=
  builtinTypes.any (·.name == name)

end FederationSplit.Rules
