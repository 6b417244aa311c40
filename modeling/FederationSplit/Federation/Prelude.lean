import FederationSplit.Federation.Names

namespace FederationSplit.Federation

open FederationSplit.Syntax

def parameter (name : Name) (type : TypeRef) : InputValueDefinition where
  description := none
  name := name
  type := type
  defaultValue := none
  directives := []

def parameterWithDefault (name : Name) (type : TypeRef) (value : Value) : InputValueDefinition :=
  { parameter name type with defaultValue := some value }

def directiveOnce (name : Name) (arguments : List InputValueDefinition)
    (locations : List DirectiveLocation) : DirectiveDefinition where
  description := none
  name := name
  arguments := arguments
  isRepeatable := false
  locations := locations

def directiveRepeatable (name : Name) (arguments : List InputValueDefinition)
    (locations : List DirectiveLocation) : DirectiveDefinition :=
  { directiveOnce name arguments locations with isRepeatable := true }

def scalarType (name : Name) : TypeDefinition where
  description := none
  name := name
  directives := []
  body := .scalar

def enumValue (description : Option StringLiteral) (name : Name) : EnumValueDefinition where
  description := description
  name := name
  directives := []

def required (name : Name) : TypeRef := .nonNull (.named name)

/-! ### What a service may use -/

def keyDirective : DirectiveDefinition :=
  directiveRepeatable "key"
    [parameter "fields" (required "FieldSet"),
      parameterWithDefault "resolvable" (.named "Boolean") (.boolean true)]
    [.object, .interface]

def shareableDirective : DirectiveDefinition :=
  directiveRepeatable "shareable" [] [.object, .fieldDefinition]

def linkImport : TypeDefinition := scalarType "link__Import"

def linkPurpose : TypeDefinition where
  description := none
  name := "link__Purpose"
  directives := []
  body := .enum [enumValue none "SECURITY", enumValue none "EXECUTION"]

def linkDirective (urlType : TypeRef) : DirectiveDefinition :=
  directiveRepeatable "link"
    [parameter "url" urlType, parameter "as" (.named "String"),
      parameter "for" (.named "link__Purpose"), parameter "import" (.list (.named "link__Import"))]
    [.schema]

def labelLocations : List DirectiveLocation :=
  [.fieldDefinition, .object, .interface, .union, .argumentDefinition, .scalar, .enum, .enumValue,
    .inputObject, .inputFieldDefinition]

def serviceDirectives : List DirectiveDefinition :=
  [keyDirective, shareableDirective,
    directiveOnce "external" [] [.object, .fieldDefinition],
    directiveOnce "requires" [parameter "fields" (required "FieldSet")] [.fieldDefinition],
    directiveOnce "provides" [parameter "fields" (required "FieldSet")] [.fieldDefinition],
    directiveOnce "extends" [] [.object, .interface],
    directiveOnce "override" [parameter "from" (required "String")] [.fieldDefinition],
    directiveOnce "inaccessible" [] labelLocations,
    directiveRepeatable "tag" [parameter "name" (required "String")] labelLocations,
    directiveOnce "interfaceObject" [] [.object],
    directiveRepeatable "composeDirective" [parameter "name" (required "String")] [.schema],
    linkDirective (required "String")]

def serviceTypes : List TypeDefinition :=
  [scalarType "FieldSet", linkImport, linkPurpose]

/-! ### What a supergraph carries -/

def supergraphDirectives : List DirectiveDefinition :=
  [directiveRepeatable "join__enumValue" [parameter "graph" (required "join__Graph")] [.enumValue],
    directiveRepeatable "join__field"
      [parameter "graph" (.named "join__Graph"), parameter "requires" (.named "join__FieldSet"),
        parameter "provides" (.named "join__FieldSet"), parameter "type" (.named "String"),
        parameter "external" (.named "Boolean"), parameter "override" (.named "String"),
        parameter "usedOverridden" (.named "Boolean")]
      [.fieldDefinition, .inputFieldDefinition],
    directiveOnce "join__graph"
      [parameter "name" (required "String"), parameter "url" (required "String")] [.enumValue],
    directiveRepeatable "join__implements"
      [parameter "graph" (required "join__Graph"), parameter "interface" (required "String")]
      [.object, .interface],
    directiveRepeatable "join__type"
      [parameter "graph" (required "join__Graph"), parameter "key" (.named "join__FieldSet"),
        parameterWithDefault "extension" (required "Boolean") (.boolean false),
        parameterWithDefault "resolvable" (required "Boolean") (.boolean true),
        parameterWithDefault "isInterfaceObject" (required "Boolean") (.boolean false)]
      [.object, .interface, .union, .enum, .inputObject, .scalar],
    directiveRepeatable "join__unionMember"
      [parameter "graph" (required "join__Graph"), parameter "member" (required "String")] [.union],
    linkDirective (.named "String")]

def blockDescription (text : String) : Option StringLiteral :=
  some { text, isBlock := true }

def describedLinkPurpose : TypeDefinition where
  description := none
  name := "link__Purpose"
  directives := []
  body := .enum
    [enumValue
        (blockDescription
          "\x60SECURITY\x60 features provide metadata necessary to securely resolve fields.")
        "SECURITY",
      enumValue
        (blockDescription
          "\x60EXECUTION\x60 features provide metadata necessary for operation execution.")
        "EXECUTION"]

def supergraphTypes : List TypeDefinition :=
  [scalarType "join__FieldSet", linkImport, describedLinkPurpose]

end FederationSplit.Federation
