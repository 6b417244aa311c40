import FederationSplit.Proofs.Rules.Narrowing
import Mathlib.Data.List.Basic

namespace FederationSplit.Syntax

def Argument.withoutOrigin (argument : Argument) : Argument :=
  { argument with origin := none }

def DirectiveUsage.withoutOrigin (usage : DirectiveUsage) : DirectiveUsage where
  name := usage.name
  arguments := usage.arguments.map Argument.withoutOrigin
  origin := none

def eraseOrigins (usages : List DirectiveUsage) : List DirectiveUsage :=
  usages.map DirectiveUsage.withoutOrigin

def DirectiveDefinition.withoutOrigins (directive : DirectiveDefinition) : DirectiveDefinition :=
  { directive with
    arguments := directive.arguments.map (InputValueDefinition.mapUsages eraseOrigins) }

def TypeDefinition.withoutOrigins (type : TypeDefinition) : TypeDefinition :=
  { type with
    directives := eraseOrigins type.directives
    body := type.body.mapUsages eraseOrigins }

@[simp] theorem TypeDefinition.kind_withoutOrigins (type : TypeDefinition) :
    type.withoutOrigins.kind = type.kind :=
  TypeBody.kind_mapUsages ..

def TypeExtension.withoutOrigins (extension : TypeExtension) : TypeExtension :=
  { extension with
    directives := eraseOrigins extension.directives
    body := extension.body.mapUsages eraseOrigins }

def SchemaDefinition.withoutOrigins (schema : SchemaDefinition) : SchemaDefinition :=
  { schema with directives := eraseOrigins schema.directives }

mutual

def Selection.withoutOrigins : Selection → Selection
  | .field responseName name arguments directives selections =>
      .field responseName name (arguments.map Argument.withoutOrigin) (eraseOrigins directives)
        (selectionsWithoutOrigins selections)
  | .fragmentSpread name directives => .fragmentSpread name (eraseOrigins directives)
  | .inlineFragment typeCondition directives selections =>
      .inlineFragment typeCondition (eraseOrigins directives)
        (selectionsWithoutOrigins selections)

def selectionsWithoutOrigins : List Selection → List Selection
  | [] => []
  | selection :: rest => selection.withoutOrigins :: selectionsWithoutOrigins rest

end

theorem selectionsWithoutOrigins_eq_map (selections : List Selection) :
    selectionsWithoutOrigins selections = selections.map Selection.withoutOrigins := by
  induction selections with
  | nil => rfl
  | cons selection rest induction => rw [selectionsWithoutOrigins, induction, List.map_cons]

def VariableDefinition.withoutOrigins (definition : VariableDefinition) : VariableDefinition :=
  { definition with directives := eraseOrigins definition.directives }

def OperationDefinition.withoutOrigins (operation : OperationDefinition) : OperationDefinition :=
  { operation with
    variableDefinitions :=
      operation.variableDefinitions.map VariableDefinition.withoutOrigins
    directives := eraseOrigins operation.directives
    selections := selectionsWithoutOrigins operation.selections }

def FragmentDefinition.withoutOrigins (fragment : FragmentDefinition) : FragmentDefinition :=
  { fragment with
    directives := eraseOrigins fragment.directives
    selections := selectionsWithoutOrigins fragment.selections }

def Definition.withoutOrigins : Definition → Definition
  | .operation definition => .operation definition.withoutOrigins
  | .fragment definition => .fragment definition.withoutOrigins
  | .schema definition => .schema definition.withoutOrigins
  | .schemaExtension extension => .schemaExtension extension.withoutOrigins
  | .type definition => .type definition.withoutOrigins
  | .typeExtension extension => .typeExtension extension.withoutOrigins
  | .directive definition => .directive definition.withoutOrigins

def Document.withoutOrigins (document : Document) : Document where
  definitions := document.definitions.map Definition.withoutOrigins

end FederationSplit.Syntax

namespace FederationSplit.Rules

open FederationSplit.Syntax

def Known.withoutOrigins (known : Known) : Known :=
  { known with
    types := known.types.map TypeDefinition.withoutOrigins
    directives := known.directives.map DirectiveDefinition.withoutOrigins }

private theorem typeDefinitions_withoutOrigins (definitions : List Definition) :
    typeDefinitions { definitions := definitions.map Definition.withoutOrigins } =
      (typeDefinitions { definitions := definitions }).map TypeDefinition.withoutOrigins := by
  rw [typeDefinitions, typeDefinitions, List.filterMap_map, List.map_filterMap]
  congr 1
  funext definition
  cases definition <;> rfl

theorem directiveDefinitions_withoutOrigins (definitions : List Definition) :
    directiveDefinitions { definitions := definitions.map Definition.withoutOrigins } =
      (directiveDefinitions { definitions := definitions }).map
        DirectiveDefinition.withoutOrigins := by
  rw [directiveDefinitions, directiveDefinitions, List.filterMap_map, List.map_filterMap]
  congr 1
  funext definition
  cases definition <;> rfl

private theorem typeNames_withoutOrigins (definitions : List Definition) :
    typeNames { definitions := definitions.map Definition.withoutOrigins } =
      typeNames { definitions := definitions } := by
  rw [typeNames, typeNames, typeDefinitions_withoutOrigins, List.map_map]
  rfl

private theorem ofDocument_withoutOrigins (document : Document) :
    Known.ofDocument document.withoutOrigins = (Known.ofDocument document).withoutOrigins := by
  have builtin : builtinDirectives.map DirectiveDefinition.withoutOrigins = builtinDirectives := rfl
  simp only [Known.ofDocument, Known.withoutOrigins, Document.withoutOrigins,
    typeDefinitions_withoutOrigins, directiveDefinitions_withoutOrigins, typeNames_withoutOrigins,
    List.map_append, List.map_reverse, builtin]

section

variable (known : Known)

private theorem directive?_withoutOrigins (name : Name) :
    known.withoutOrigins.directive? name =
      (known.directive? name).map DirectiveDefinition.withoutOrigins :=
  List.find?_map

private theorem requiredParameters_withoutOrigins (directive : DirectiveDefinition) :
    requiredParameters directive.withoutOrigins =
      (requiredParameters directive).map (InputValueDefinition.mapUsages eraseOrigins) := by
  simp only [requiredParameters, DirectiveDefinition.withoutOrigins, List.filter_map, List.map_map,
    ← List.map_reverse, List.find?_map, List.map_filterMap]
  rfl

theorem argument?_withoutOrigin (usage : DirectiveUsage) (name : Name) :
    usage.withoutOrigin.argument? name = (usage.argument? name).map Argument.withoutOrigin :=
  List.find?_map

private theorem checkUsage_withoutOrigin (location : DirectiveLocation)
    (usage : DirectiveUsage) :
    checkUsage known.withoutOrigins location usage.withoutOrigin =
      checkUsage known location usage := by
  have place : checkPlace known.withoutOrigins location usage.withoutOrigin =
      checkPlace known location usage := by
    unfold checkPlace
    rw [directive?_withoutOrigins, DirectiveUsage.withoutOrigin]
    cases known.directive? usage.name <;> rfl
  have names : checkArgumentNames known.withoutOrigins usage.withoutOrigin =
      checkArgumentNames known usage := by
    unfold checkArgumentNames
    rw [directive?_withoutOrigins, DirectiveUsage.withoutOrigin]
    cases known.directive? usage.name with
    | none => rfl
    | some directive =>
        simp only [Option.map_some, DirectiveDefinition.withoutOrigins, List.filter_map,
          List.map_map]
        rfl
  have distinct : checkDistinctArguments usage.withoutOrigin.arguments =
      checkDistinctArguments usage.arguments := by
    rw [checkDistinctArguments, checkDistinctArguments, DirectiveUsage.withoutOrigin,
      List.map_map]
    rfl
  have values : usage.withoutOrigin.arguments.flatMap (checkValue ·.value) =
      usage.arguments.flatMap (checkValue ·.value) := by
    rw [DirectiveUsage.withoutOrigin, List.flatMap_map]
    rfl
  have required : checkRequiredArguments known.withoutOrigins usage.withoutOrigin =
      checkRequiredArguments known usage := by
    unfold checkRequiredArguments
    simp only [directive?_withoutOrigins, argument?_withoutOrigin]
    rw [DirectiveUsage.withoutOrigin]
    cases known.directive? usage.name with
    | none => rfl
    | some directive =>
        simp only [Option.map_some, requiredParameters_withoutOrigins, List.filter_map,
          List.map_map, Option.isNone_map]
        rfl
  rw [checkUsage, place, names, distinct, values, required, checkUsage]

private theorem checkUsages_eraseOrigins (location : DirectiveLocation)
    (usages : List DirectiveUsage) :
    checkUsages known.withoutOrigins location (eraseOrigins usages) =
      checkUsages known location usages := by
  rw [checkUsages, checkUsages, eraseOrigins, List.flatMap_map]
  exact List.flatMap_congr fun usage _ => checkUsage_withoutOrigin known location usage

private theorem singularUsages_eraseOrigins (usages : List DirectiveUsage) :
    singularUsages known.withoutOrigins (eraseOrigins usages) = singularUsages known usages := by
  have names : (eraseOrigins usages).map (·.name) = usages.map (·.name) := by
    rw [eraseOrigins, List.map_map]
    rfl
  rw [singularUsages, singularUsages, names]
  refine List.filter_congr fun name _ => ?_
  rw [directive?_withoutOrigins, Option.any_map]
  rfl

private theorem checkRepeatedUsages_eraseOrigins (others usages : List DirectiveUsage) :
    checkRepeatedUsages known.withoutOrigins (eraseOrigins others) (eraseOrigins usages) =
      checkRepeatedUsages known others usages := by
  rw [checkRepeatedUsages, checkRepeatedUsages, singularUsages_eraseOrigins,
    singularUsages_eraseOrigins]

private theorem checkOwnUsages_eraseOrigins (usages : List DirectiveUsage) :
    checkRepeatedUsages known.withoutOrigins [] (eraseOrigins usages) =
      checkRepeatedUsages known [] usages :=
  checkRepeatedUsages_eraseOrigins known [] usages

private theorem checkInputValue_eraseOrigins (location : DirectiveLocation)
    (definition : InputValueDefinition) :
    checkInputValue known.withoutOrigins location (definition.mapUsages eraseOrigins) =
      checkInputValue known location definition := by
  rw [checkInputValue, checkInputValue, InputValueDefinition.mapUsages,
    checkOwnUsages_eraseOrigins, checkUsages_eraseOrigins]
  rfl

private theorem checkInputValues_eraseOrigins (location : DirectiveLocation)
    (definitions : List InputValueDefinition) :
    (definitions.map (InputValueDefinition.mapUsages eraseOrigins)).flatMap
        (checkInputValue known.withoutOrigins location) =
      definitions.flatMap (checkInputValue known location) := by
  rw [List.flatMap_map]
  exact List.flatMap_congr fun definition _ =>
    checkInputValue_eraseOrigins known location definition

private theorem checkField_eraseOrigins (definition : FieldDefinition) :
    checkField known.withoutOrigins (definition.mapUsages eraseOrigins) =
      checkField known definition := by
  rw [checkField, checkField, FieldDefinition.mapUsages, checkOwnUsages_eraseOrigins,
    checkInputValues_eraseOrigins, checkUsages_eraseOrigins]
  rfl

private theorem checkFields_eraseOrigins (fields : List FieldDefinition) :
    (fields.map (FieldDefinition.mapUsages eraseOrigins)).flatMap
        (checkField known.withoutOrigins) =
      fields.flatMap (checkField known) := by
  rw [List.flatMap_map]
  exact List.flatMap_congr fun field _ => checkField_eraseOrigins known field

private theorem checkEnumValue_eraseOrigins (definition : EnumValueDefinition) :
    checkEnumValue known.withoutOrigins (definition.mapUsages eraseOrigins) =
      checkEnumValue known definition := by
  rw [checkEnumValue, checkEnumValue, EnumValueDefinition.mapUsages,
    checkOwnUsages_eraseOrigins, checkUsages_eraseOrigins]

private theorem checkTypeParts_eraseOrigins (inputLocation : DirectiveLocation)
    (usages : List DirectiveUsage) (body : TypeBody) :
    checkTypeParts known.withoutOrigins inputLocation (eraseOrigins usages)
        (body.mapUsages eraseOrigins) =
      checkTypeParts known inputLocation usages body := by
  cases body with
  | scalar => exact checkUsages_eraseOrigins known _ usages
  | object interfaces fields | interface interfaces fields =>
      simp only [TypeBody.mapUsages, checkTypeParts, TypeBody.kind, checkUsages_eraseOrigins,
        checkFields_eraseOrigins]
      rfl
  | union members =>
      simp only [TypeBody.mapUsages, checkTypeParts, TypeBody.kind, checkUsages_eraseOrigins]
      rfl
  | enum values =>
      simp only [TypeBody.mapUsages, checkTypeParts, TypeBody.kind, checkUsages_eraseOrigins,
        List.flatMap_map, checkEnumValue_eraseOrigins]
  | inputObject fields =>
      simp only [TypeBody.mapUsages, checkTypeParts, TypeBody.kind, checkUsages_eraseOrigins,
        checkInputValues_eraseOrigins]

private theorem checkArguments_withoutOrigin (arguments : List Argument) :
    checkDistinctArguments (arguments.map Argument.withoutOrigin) ++
        (arguments.map Argument.withoutOrigin).flatMap (checkValue ·.value) =
      checkDistinctArguments arguments ++ arguments.flatMap (checkValue ·.value) := by
  rw [checkDistinctArguments, checkDistinctArguments, List.map_map, List.flatMap_map]
  rfl

mutual

private theorem checkSelection_withoutOrigins (selection : Selection) :
    checkSelection known.withoutOrigins selection.withoutOrigins =
      checkSelection known selection := by
  cases selection with
  | field responseName name arguments usages selections =>
      rw [Selection.withoutOrigins, checkSelection, checkSelection, checkOwnUsages_eraseOrigins,
        checkUsages_eraseOrigins, checkSelections_withoutOrigins selections,
        List.append_assoc (checkRepeatedUsages ..), checkArguments_withoutOrigin,
        ← List.append_assoc (checkRepeatedUsages ..)]
  | fragmentSpread name usages =>
      rw [Selection.withoutOrigins, checkSelection, checkSelection, checkOwnUsages_eraseOrigins,
        checkUsages_eraseOrigins]
  | inlineFragment typeCondition usages selections =>
      rw [Selection.withoutOrigins, checkSelection, checkSelection, checkOwnUsages_eraseOrigins,
        checkUsages_eraseOrigins, checkSelections_withoutOrigins selections]
      rfl

private theorem checkSelections_withoutOrigins (selections : List Selection) :
    checkSelections known.withoutOrigins (selectionsWithoutOrigins selections) =
      checkSelections known selections := by
  cases selections with
  | nil => rfl
  | cons selection rest =>
      rw [selectionsWithoutOrigins, checkSelections, checkSelections,
        checkSelection_withoutOrigins selection, checkSelections_withoutOrigins rest]

end

private theorem checkVariable_withoutOrigins (definition : VariableDefinition) :
    checkVariable known.withoutOrigins definition.withoutOrigins =
      checkVariable known definition := by
  rw [checkVariable, checkVariable, VariableDefinition.withoutOrigins,
    checkOwnUsages_eraseOrigins, checkUsages_eraseOrigins]
  rfl

private theorem checkOperation_withoutOrigins (definition : OperationDefinition) :
    checkOperation known.withoutOrigins definition.withoutOrigins =
      checkOperation known definition := by
  have parameters : (definition.variableDefinitions.map
      VariableDefinition.withoutOrigins).flatMap (checkVariable known.withoutOrigins) =
      definition.variableDefinitions.flatMap (checkVariable known) := by
    rw [List.flatMap_map]
    exact List.flatMap_congr fun definition _ => checkVariable_withoutOrigins known definition
  rw [checkOperation, checkOperation, OperationDefinition.withoutOrigins,
    checkOwnUsages_eraseOrigins, parameters, checkUsages_eraseOrigins,
    checkSelections_withoutOrigins]

private theorem checkFragment_withoutOrigins (definition : FragmentDefinition) :
    checkFragment known.withoutOrigins definition.withoutOrigins =
      checkFragment known definition := by
  rw [checkFragment, checkFragment, FragmentDefinition.withoutOrigins,
    checkOwnUsages_eraseOrigins, checkUsages_eraseOrigins, checkSelections_withoutOrigins]
  rfl

def TypePart.withoutOrigins (part : TypePart) : TypePart :=
  { part with
    directives := eraseOrigins part.directives
    body := part.body.mapUsages eraseOrigins }

private theorem partsOf_withoutOrigins (name : Name) (definitions : List Definition) :
    partsOf name (definitions.map Definition.withoutOrigins) =
      (partsOf name definitions).map TypePart.withoutOrigins := by
  have each : TypePart.ofDefinition? ∘ Definition.withoutOrigins =
      fun definition => (TypePart.ofDefinition? definition).map TypePart.withoutOrigins := by
    funext definition
    cases definition <;> rfl
  rw [partsOf, partsOf, List.filterMap_map, each, ← List.map_filterMap, List.filter_map]
  rfl

private theorem checkMembers_withoutOrigins (earlier : List Definition) (part : TypePart) :
    checkMembers known.withoutOrigins (earlier.map Definition.withoutOrigins)
        part.withoutOrigins =
      checkMembers known earlier part := by
  have others (names : TypeBody → List Name)
      (kept : ∀ body, names (body.mapUsages eraseOrigins) = names body) :
      ((partsOf part.name earlier).map TypePart.withoutOrigins).flatMap (names ·.body) =
        (partsOf part.name earlier).flatMap (names ·.body) := by
    rw [List.flatMap_map]
    exact List.flatMap_congr fun other _ => kept other.body
  have usages : ((partsOf part.name earlier).map TypePart.withoutOrigins).flatMap
      (·.directives) = eraseOrigins ((partsOf part.name earlier).flatMap (·.directives)) := by
    rw [List.flatMap_map, eraseOrigins, List.map_flatMap]
    rfl
  have arguments : part.withoutOrigins.body.fields.flatMap (fun field =>
        checkArgumentDefinitions (.field part.name field.name) field.arguments) =
      part.body.fields.flatMap (fun field =>
        checkArgumentDefinitions (.field part.name field.name) field.arguments) := by
    rw [TypePart.withoutOrigins, TypeBody.fields_mapUsages, List.flatMap_map]
    refine List.flatMap_congr fun field _ => ?_
    rw [checkArgumentDefinitions, argumentNames_mapUsages]
    rfl
  have name : part.withoutOrigins.name = part.name := rfl
  simp only [checkMembers, name, arguments, partsOf_withoutOrigins, usages,
    others enumValueNames (enumValueNames_mapUsages eraseOrigins),
    others fieldNames (fieldNames_mapUsages eraseOrigins)]
  rw [TypePart.withoutOrigins, checkRepeatedUsages_eraseOrigins, enumValueNames_mapUsages,
    fieldNames_mapUsages]

private theorem checkSchemaPart_withoutOrigins (earlier : List Definition)
    (schema : SchemaDefinition) :
    checkSchemaPart known.withoutOrigins (earlier.map Definition.withoutOrigins)
        schema.withoutOrigins =
      checkSchemaPart known earlier schema := by
  have parts : schemaParts (earlier.map Definition.withoutOrigins) =
      (schemaParts earlier).map SchemaDefinition.withoutOrigins := by
    rw [schemaParts, schemaParts, List.filterMap_map, List.map_filterMap]
    congr 1
    funext definition
    cases definition <;> rfl
  have others : ((schemaParts earlier).map SchemaDefinition.withoutOrigins).flatMap
      (·.directives) = eraseOrigins ((schemaParts earlier).flatMap (·.directives)) := by
    rw [List.flatMap_map, eraseOrigins, List.map_flatMap]
    rfl
  simp only [checkSchemaPart, parts, others, List.flatMap_map, SchemaDefinition.withoutOrigins,
    checkRepeatedUsages_eraseOrigins, checkUsages_eraseOrigins]
  rfl

private theorem checkExtended_withoutOrigins (extension : TypeExtension) :
    checkExtended known.withoutOrigins extension.withoutOrigins =
      checkExtended known extension := by
  have found : known.withoutOrigins.types.reverse.find? (·.name == extension.name) =
      (known.types.reverse.find? (·.name == extension.name)).map
        TypeDefinition.withoutOrigins := by
    rw [Known.withoutOrigins, ← List.map_reverse, List.find?_map]
    rfl
  unfold checkExtended
  rw [TypeExtension.withoutOrigins, found]
  cases known.types.reverse.find? (·.name == extension.name) with
  | none => rfl
  | some type =>
      simp only [Option.map_some, TypeDefinition.kind, TypeDefinition.withoutOrigins,
        TypeBody.kind_mapUsages]
      rfl

private theorem checkDirective_withoutOrigins (earlier : List Definition)
    (directive : DirectiveDefinition) :
    checkDefinition known.withoutOrigins (earlier.map Definition.withoutOrigins)
        (.directive directive.withoutOrigins) =
      checkDefinition known earlier (.directive directive) := by
  have distinct (owner : ArgumentOwner) :
      checkArgumentDefinitions owner directive.withoutOrigins.arguments =
        checkArgumentDefinitions owner directive.arguments := by
    rw [checkArgumentDefinitions, checkArgumentDefinitions, DirectiveDefinition.withoutOrigins,
      List.map_map]
    rfl
  have declared : (directiveDefinitions
      { definitions := earlier.map Definition.withoutOrigins }).any (·.name == directive.name) =
      (directiveDefinitions { definitions := earlier }).any (·.name == directive.name) := by
    rw [directiveDefinitions_withoutOrigins, List.any_map]
    rfl
  have arguments := checkInputValues_eraseOrigins known .argumentDefinition directive.arguments
  rw [checkDefinition, checkDefinition, distinct, ← arguments]
  simp only [← declared]
  rfl

private theorem checkDefinition_withoutOrigins (earlier : List Definition)
    (definition : Definition) :
    checkDefinition known.withoutOrigins (earlier.map Definition.withoutOrigins)
        definition.withoutOrigins =
      checkDefinition known earlier definition := by
  cases definition with
  | operation definition => exact checkOperation_withoutOrigins known definition
  | fragment definition => exact checkFragment_withoutOrigins known definition
  | schema schema =>
      have stated : (earlier.map Definition.withoutOrigins).any isSchemaDefinition =
          earlier.any isSchemaDefinition := by
        rw [List.any_map]
        congr 1
        funext other
        cases other <;> rfl
      rw [Definition.withoutOrigins, checkDefinition, checkDefinition, stated,
        checkSchemaPart_withoutOrigins]
  | schemaExtension schema => exact checkSchemaPart_withoutOrigins known earlier schema
  | type type =>
      have members := checkMembers_withoutOrigins known earlier
        { name := type.name, directives := type.directives, body := type.body }
      have parts := checkTypeParts_eraseOrigins known .inputFieldDefinition type.directives
        type.body
      rw [Definition.withoutOrigins, checkDefinition, checkDefinition,
        typeNames_withoutOrigins, ← members, ← parts]
      rfl
  | typeExtension extension =>
      have members := checkMembers_withoutOrigins known earlier
        { name := extension.name, directives := extension.directives, body := extension.body }
      have parts := checkTypeParts_eraseOrigins known .argumentDefinition extension.directives
        extension.body
      rw [Definition.withoutOrigins, checkDefinition, checkDefinition, ← members, ← parts,
        checkExtended_withoutOrigins]
      rfl
  | directive directive => exact checkDirective_withoutOrigins known earlier directive

private theorem checkDefinitions_withoutOrigins (earlier definitions : List Definition) :
    checkDefinitions known.withoutOrigins (earlier.map Definition.withoutOrigins)
        (definitions.map Definition.withoutOrigins) =
      checkDefinitions known earlier definitions := by
  induction definitions generalizing earlier with
  | nil => rfl
  | cons head tail induction =>
      rw [List.map_cons, checkDefinitions, checkDefinitions, ← List.map_reverse,
        checkDefinition_withoutOrigins, ← List.map_cons, induction]

end

/-- What the rules find does not depend on where anything stood. -/
theorem violations_withoutOrigins (document : Document) :
    violations document.withoutOrigins = violations document := by
  rw [violations, violations, ofDocument_withoutOrigins]
  exact checkDefinitions_withoutOrigins (Known.ofDocument document) [] document.definitions

end FederationSplit.Rules
