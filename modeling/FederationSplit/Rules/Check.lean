import FederationSplit.Rules.Builtin
import FederationSplit.Rules.Repetition
import FederationSplit.Rules.Violation

namespace FederationSplit.Rules

open FederationSplit.Syntax

def typeDefinitions (document : Document) : List TypeDefinition :=
  document.definitions.filterMap fun
    | .type type => some type
    | _ => none

def directiveDefinitions (document : Document) : List DirectiveDefinition :=
  document.definitions.filterMap fun
    | .directive directive => some directive
    | _ => none

def typeNames (document : Document) : List Name :=
  (typeDefinitions document).map (·.name)

def builtinTypeNames : List Name := builtinTypes.map (·.name)

structure Known where
  types : List TypeDefinition
  names : List Name
  allNames : List Name
  /-- The directives of the document, the last one first, then the built-in ones. -/
  directives : List DirectiveDefinition

namespace Known

def ofDocument (document : Document) : Known where
  types := typeDefinitions document
  names := typeNames document
  allNames := builtinTypeNames ++ typeNames document
  directives := (directiveDefinitions document).reverse ++ builtinDirectives

/-- The definition of a directive that counts: the last in the document, or a built-in one. -/
def directive? (known : Known) (name : Name) : Option DirectiveDefinition :=
  known.directives.find? (·.name == name)

end Known

def requiredParameters (definition : DirectiveDefinition) : List InputValueDefinition :=
  let mandatory := definition.arguments.filter fun argument =>
    argument.type.isNonNull && argument.defaultValue.isNone
  (mandatory.map (·.name)).eraseDups.filterMap fun name =>
    mandatory.reverse.find? (·.name == name)

mutual

def checkValue : Value → List Violation
  | .list items => checkValues items
  | .object fields => checkFields [] fields
  | _ => []

def checkValues : List Value → List Violation
  | [] => []
  | value :: rest => checkValue value ++ checkValues rest

def checkFields (seen : List Name) : List (Name × Value) → List Violation
  | [] => []
  | (name, value) :: rest =>
      (if seen.contains name then [.repeatedInputField name] else []) ++ checkValue value ++
        checkFields (name :: seen) rest

end

def checkPlace (known : Known) (location : DirectiveLocation) (usage : DirectiveUsage) :
    List Violation :=
  match known.directive? usage.name with
  | none => [.unknownDirective usage.name]
  | some definition =>
      if definition.locations.contains location then []
      else [.misplacedDirective usage.name location]

def checkArgumentNames (known : Known) (usage : DirectiveUsage) : List Violation :=
  match known.directive? usage.name with
  | none => []
  | some definition =>
      let parameters := definition.arguments.map (·.name)
      (usage.arguments.filter (!parameters.contains ·.name)).map fun argument =>
        .unknownArgument argument.name usage.name parameters

def checkDistinctArguments (arguments : List Argument) : List Violation :=
  (duplicates (arguments.map (·.name))).map .repeatedArgument

def checkRequiredArguments (known : Known) (usage : DirectiveUsage) : List Violation :=
  match known.directive? usage.name with
  | none => []
  | some definition =>
      let missing := (requiredParameters definition).filter fun parameter =>
        (usage.argument? parameter.name).isNone
      missing.map fun parameter => .missingArgument usage.name parameter.name parameter.type

def checkUsage (known : Known) (location : DirectiveLocation) (usage : DirectiveUsage) :
    List Violation :=
  checkPlace known location usage ++ checkArgumentNames known usage ++
    checkDistinctArguments usage.arguments ++
    usage.arguments.flatMap (checkValue ·.value) ++ checkRequiredArguments known usage

def checkUsages (known : Known) (location : DirectiveLocation)
    (usages : List DirectiveUsage) : List Violation :=
  usages.flatMap (checkUsage known location)

/-- Names of the usages that may stand only once at a place. -/
def singularUsages (known : Known) (usages : List DirectiveUsage) : List Name :=
  (usages.map (·.name)).filter fun name =>
    (known.directive? name).any (!·.isRepeatable)

def checkRepeatedUsages (known : Known) (others usages : List DirectiveUsage) :
    List Violation :=
  (repeatsAfter (singularUsages known others) (singularUsages known usages)).map
    .repeatedUsage

def checkTypeName (known : Known) (name : Name) : List Violation :=
  if known.allNames.contains name then [] else [.unknownType name known.allNames]

/-- A type named in an executable definition must be defined in the document. -/
def checkExecutableTypeName (known : Known) (name : Name) : List Violation :=
  if known.names.contains name then [] else [.unknownType name known.names]

def checkInputValue (known : Known) (location : DirectiveLocation)
    (definition : InputValueDefinition) : List Violation :=
  checkRepeatedUsages known [] definition.directives ++
    checkTypeName known definition.type.baseName ++
    definition.defaultValue.toList.flatMap checkValue ++
    checkUsages known location definition.directives

def checkField (known : Known) (definition : FieldDefinition) : List Violation :=
  checkRepeatedUsages known [] definition.directives ++
    definition.arguments.flatMap (checkInputValue known .argumentDefinition) ++
    checkTypeName known definition.type.baseName ++
    checkUsages known .fieldDefinition definition.directives

def checkEnumValue (known : Known) (definition : EnumValueDefinition) : List Violation :=
  checkRepeatedUsages known [] definition.directives ++
    checkUsages known .enumValue definition.directives

def checkTypeParts (known : Known) (inputLocation : DirectiveLocation)
    (directives : List DirectiveUsage) (body : TypeBody) : List Violation :=
  let usages := checkUsages known body.kind.location directives
  match body with
  | .scalar => usages
  | .object interfaces fields | .interface interfaces fields =>
      interfaces.flatMap (checkTypeName known) ++ usages ++
        fields.flatMap (checkField known)
  | .union members => usages ++ members.flatMap (checkTypeName known)
  | .enum values => usages ++ values.flatMap (checkEnumValue known)
  | .inputObject fields => usages ++ fields.flatMap (checkInputValue known inputLocation)

/-! ### Executable definitions -/

mutual

def checkSelection (known : Known) : Selection → List Violation
  | .field _ _ arguments directives selections =>
      checkRepeatedUsages known [] directives ++ checkDistinctArguments arguments ++
        arguments.flatMap (checkValue ·.value) ++ checkUsages known .field directives ++
        checkSelections known selections
  | .fragmentSpread _ directives =>
      checkRepeatedUsages known [] directives ++
        checkUsages known .fragmentSpread directives
  | .inlineFragment typeCondition directives selections =>
      checkRepeatedUsages known [] directives ++
        typeCondition.toList.flatMap (checkExecutableTypeName known) ++
        checkUsages known .inlineFragment directives ++ checkSelections known selections

def checkSelections (known : Known) : List Selection → List Violation
  | [] => []
  | selection :: rest => checkSelection known selection ++ checkSelections known rest

end

def checkVariable (known : Known) (definition : VariableDefinition) : List Violation :=
  checkRepeatedUsages known [] definition.directives ++
    checkExecutableTypeName known definition.type.baseName ++
    definition.defaultValue.toList.flatMap checkValue ++
    checkUsages known .variableDefinition definition.directives

def OperationType.location : OperationType → DirectiveLocation
  | .query => .query
  | .mutation => .mutation
  | .subscription => .subscription

def checkOperation (known : Known) (definition : OperationDefinition) : List Violation :=
  checkRepeatedUsages known [] definition.directives ++
    definition.variableDefinitions.flatMap (checkVariable known) ++
    checkUsages known (OperationType.location definition.type) definition.directives ++
    checkSelections known definition.selections

def checkFragment (known : Known) (definition : FragmentDefinition) : List Violation :=
  checkRepeatedUsages known [] definition.directives ++
    checkExecutableTypeName known definition.typeCondition ++
    checkUsages known .fragmentDefinition definition.directives ++
    checkSelections known definition.selections

/-! ### Definitions among others -/

structure TypePart where
  name : Name
  directives : List DirectiveUsage
  body : TypeBody

def TypePart.ofDefinition? : Definition → Option TypePart
  | .type type => some { name := type.name, directives := type.directives, body := type.body }
  | .typeExtension extension =>
      some { name := extension.name, directives := extension.directives, body := extension.body }
  | _ => none

def partsOf (name : Name) (definitions : List Definition) : List TypePart :=
  (definitions.filterMap TypePart.ofDefinition?).filter (·.name == name)

def enumValueNames : TypeBody → List Name
  | .enum values => values.map (·.name)
  | _ => []

def fieldNames : TypeBody → List Name
  | .object _ fields | .interface _ fields => fields.map (·.name)
  | .inputObject fields => fields.map (·.name)
  | _ => []

def checkArgumentDefinitions (owner : ArgumentOwner) (definitions : List InputValueDefinition) :
    List Violation :=
  (duplicates (definitions.map (·.name))).map (.repeatedArgumentDefinition owner)

def checkMembers (known : Known) (earlier : List Definition) (part : TypePart) :
    List Violation :=
  let others := partsOf part.name earlier
  (repeatsAfter (others.flatMap (enumValueNames ·.body)) (enumValueNames part.body)).map
      (.repeatedEnumValue part.name) ++
    (repeatsAfter (others.flatMap (fieldNames ·.body)) (fieldNames part.body)).map
      (.repeatedField part.name) ++
    part.body.fields.flatMap (fun field =>
      checkArgumentDefinitions (.field part.name field.name) field.arguments) ++
    checkRepeatedUsages known (others.flatMap (·.directives)) part.directives

def schemaParts (definitions : List Definition) : List SchemaDefinition :=
  definitions.filterMap fun
    | .schema schema | .schemaExtension schema => some schema
    | _ => none

def isSchemaDefinition : Definition → Bool
  | .schema _ => true
  | _ => false

def checkSchemaPart (known : Known) (earlier : List Definition) (schema : SchemaDefinition) :
    List Violation :=
  let others := schemaParts earlier
  let operations (part : SchemaDefinition) : List OperationType := part.operationTypes.map (·.1)
  (repeatsAfter (others.flatMap operations) (operations schema)).map .repeatedOperationType ++
    checkRepeatedUsages known (others.flatMap (·.directives)) schema.directives ++
    checkUsages known .schema schema.directives ++
    schema.operationTypes.flatMap fun (_, type) => checkTypeName known type

/-- An extension must extend a defined type of its kind; the last definition of a name counts. -/
def checkExtended (known : Known) (extension : TypeExtension) : List Violation :=
  match known.types.reverse.find? (·.name == extension.name) with
  | none => [.extensionOfUndefined extension.name known.names]
  | some type =>
      if type.kind = extension.body.kind then []
      else [.extensionOfOtherKind extension.body.kind extension.name]

def checkDefinition (known : Known) (earlier : List Definition) :
    Definition → List Violation
  | .operation definition => checkOperation known definition
  | .fragment definition => checkFragment known definition
  | .schema schema =>
      (if earlier.any isSchemaDefinition then [.repeatedSchemaDefinition] else []) ++
        checkSchemaPart known earlier schema
  | .schemaExtension schema => checkSchemaPart known earlier schema
  | .type type =>
      (if (typeNames { definitions := earlier }).contains type.name then
        [.repeatedType type.name] else []) ++
        checkMembers known earlier
          { name := type.name, directives := type.directives, body := type.body } ++
        checkTypeParts known .inputFieldDefinition type.directives type.body
  | .typeExtension extension =>
      checkMembers known earlier
          { name := extension.name, directives := extension.directives, body := extension.body } ++
        checkExtended known extension ++
        checkTypeParts known .argumentDefinition extension.directives extension.body
  | .directive directive =>
      checkArgumentDefinitions (.directive directive.name) directive.arguments ++
        (if (directiveDefinitions { definitions := earlier }).any (·.name == directive.name) then
          [.repeatedDirective directive.name] else []) ++
        directive.arguments.flatMap (checkInputValue known .argumentDefinition)

/-- The violations of definitions, given those that stand before them in reverse. -/
def checkDefinitions (known : Known) (earlier : List Definition) :
    List Definition → List Violation
  | [] => []
  | definition :: rest =>
      checkDefinition known earlier.reverse definition ++
        checkDefinitions known (definition :: earlier) rest

def violations (document : Document) : List Violation :=
  checkDefinitions (Known.ofDocument document) [] document.definitions

/-- All violations of a document, if suggestions can be made for each of them. -/
def check (document : Document) : Except Text.OversizedNumber (List Violation) :=
  let found := violations document
  match found.findSome? Violation.obstacle? with
  | some number => .error number
  | none => .ok found

end FederationSplit.Rules
