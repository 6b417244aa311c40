import FederationSplit.Proofs.Rules.Origins
import FederationSplit.Proofs.Schema.Folding

namespace FederationSplit.Syntax

private theorem print_withoutOrigin (usage : DirectiveUsage) :
    usage.withoutOrigin.print = usage.print := by
  rw [DirectiveUsage.print, DirectiveUsage.print, DirectiveUsage.withoutOrigin, List.map_map]
  rfl

private theorem printUsages_eraseOrigins (usages : List DirectiveUsage) :
    printUsages (eraseOrigins usages) = printUsages usages := by
  rw [printUsages, printUsages, eraseOrigins, List.map_map]
  congr 1
  exact List.map_congr_left fun usage _ => print_withoutOrigin usage

private theorem print_inputValue_eraseOrigins (definition : InputValueDefinition) :
    (definition.mapUsages eraseOrigins).print = definition.print := by
  rw [InputValueDefinition.print, InputValueDefinition.print, InputValueDefinition.mapUsages,
    printUsages_eraseOrigins]

private theorem map_print_inputValues (definitions : List InputValueDefinition) :
    (definitions.map (InputValueDefinition.mapUsages eraseOrigins)).map
        InputValueDefinition.print =
      definitions.map InputValueDefinition.print := by
  rw [List.map_map]
  exact List.map_congr_left fun definition _ => print_inputValue_eraseOrigins definition

private theorem map_print_fields (fields : List FieldDefinition) :
    (fields.map (FieldDefinition.mapUsages eraseOrigins)).map FieldDefinition.print =
      fields.map FieldDefinition.print := by
  rw [List.map_map]
  refine List.map_congr_left fun field _ => ?_
  rw [Function.comp_apply, FieldDefinition.print, FieldDefinition.print,
    FieldDefinition.mapUsages, printUsages_eraseOrigins, printArgumentDefinitions,
    printArgumentDefinitions, map_print_inputValues]

private theorem map_print_enumValues (values : List EnumValueDefinition) :
    (values.map (EnumValueDefinition.mapUsages eraseOrigins)).map EnumValueDefinition.print =
      values.map EnumValueDefinition.print := by
  rw [List.map_map]
  refine List.map_congr_left fun value _ => ?_
  rw [Function.comp_apply, EnumValueDefinition.print, EnumValueDefinition.print,
    EnumValueDefinition.mapUsages, printUsages_eraseOrigins]

private theorem printType_eraseOrigins (name : Name) (usages : List DirectiveUsage)
    (body : TypeBody) :
    printType name (eraseOrigins usages) (body.mapUsages eraseOrigins) =
      printType name usages body := by
  cases body with
  | scalar | union =>
      simp only [printType, TypeBody.mapUsages, TypeBody.kind, printUsages_eraseOrigins]
  | object | interface =>
      simp only [printType, TypeBody.mapUsages, TypeBody.kind, printUsages_eraseOrigins,
        map_print_fields]
  | enum =>
      simp only [printType, TypeBody.mapUsages, TypeBody.kind, printUsages_eraseOrigins,
        map_print_enumValues]
  | inputObject =>
      simp only [printType, TypeBody.mapUsages, TypeBody.kind, printUsages_eraseOrigins,
        map_print_inputValues]

private theorem print_type_withoutOrigins (type : TypeDefinition) :
    type.withoutOrigins.print = type.print := by
  rw [TypeDefinition.print, TypeDefinition.print, TypeDefinition.withoutOrigins,
    printType_eraseOrigins]

private theorem print_directive_withoutOrigins (directive : DirectiveDefinition) :
    directive.withoutOrigins.print = directive.print := by
  rw [DirectiveDefinition.print, DirectiveDefinition.print, DirectiveDefinition.withoutOrigins,
    printArgumentDefinitions, printArgumentDefinitions, map_print_inputValues]

end FederationSplit.Syntax

namespace FederationSplit.Schema

open FederationSplit.Syntax

def SchemaDocument.withoutOrigins (schema : SchemaDocument) : SchemaDocument where
  types := schema.types.map TypeDefinition.withoutOrigins
  directives := schema.directives.map DirectiveDefinition.withoutOrigins
  schemaDirectives := eraseOrigins schema.schemaDirectives
  rootTypes := schema.rootTypes

/-- The text of a schema says nothing of where its parts have stood. -/
theorem print_withoutOrigins (schema : SchemaDocument) :
    schema.withoutOrigins.print = schema.print := by
  have stated : schema.withoutOrigins.needsSchemaDefinition = schema.needsSchemaDefinition := by
    rw [SchemaDocument.needsSchemaDefinition, SchemaDocument.needsSchemaDefinition,
      SchemaDocument.withoutOrigins, eraseOrigins, List.isEmpty_map]
  have definition : schema.withoutOrigins.schemaDefinition.print =
      schema.schemaDefinition.print := by
    simp only [SchemaDefinition.print, SchemaDocument.schemaDefinition,
      SchemaDocument.withoutOrigins, printUsages_eraseOrigins]
  have types : schema.withoutOrigins.types.map TypeDefinition.print =
      schema.types.map TypeDefinition.print := by
    rw [SchemaDocument.withoutOrigins, List.map_map]
    exact List.map_congr_left fun type _ => print_type_withoutOrigins type
  have directives : schema.withoutOrigins.directives.map DirectiveDefinition.print =
      schema.directives.map DirectiveDefinition.print := by
    rw [SchemaDocument.withoutOrigins, List.map_map]
    exact List.map_congr_left fun directive _ => print_directive_withoutOrigins directive
  rw [SchemaDocument.print, SchemaDocument.print, SchemaDocument.printDefinitions,
    SchemaDocument.printDefinitions, stated, definition, types, directives]

def Definitions.withoutOrigins (definitions : Definitions) : Definitions :=
  { definitions with
    types := definitions.types.map TypeDefinition.withoutOrigins
    directives := definitions.directives.map DirectiveDefinition.withoutOrigins
    schemaDirectives := eraseOrigins definitions.schemaDirectives }

theorem findType?_withoutOrigins (types : List TypeDefinition) (name : Name) :
    findType? (types.map TypeDefinition.withoutOrigins) name =
      (findType? types name).map TypeDefinition.withoutOrigins :=
  List.find?_map

theorem setType_withoutOrigins (definition : TypeDefinition) (types : List TypeDefinition) :
    setType definition.withoutOrigins (types.map TypeDefinition.withoutOrigins) =
      (setType definition types).map TypeDefinition.withoutOrigins := by
  induction types with
  | nil => rfl
  | cons head tail induction =>
      rw [List.map_cons, setType, setType, induction]
      change (if head.name = definition.name then _ else _) = _
      split <;> rfl

private theorem eraseOrigins_append (usages more : List DirectiveUsage) :
    eraseOrigins (usages ++ more) = eraseOrigins usages ++ eraseOrigins more :=
  List.map_append

private theorem extendBody?_eraseOrigins (body more : TypeBody) :
    extendBody? (body.mapUsages eraseOrigins) (more.mapUsages eraseOrigins) =
      (extendBody? body more).map (TypeBody.mapUsages eraseOrigins) := by
  cases body <;> cases more <;> simp [TypeBody.mapUsages, extendBody?]

private theorem extendType?_withoutOrigins (type : TypeDefinition) (extension : TypeExtension) :
    extendType? type.withoutOrigins extension.withoutOrigins =
      (extendType? type extension).map TypeDefinition.withoutOrigins := by
  rw [extendType?, extendType?, TypeDefinition.withoutOrigins, TypeExtension.withoutOrigins,
    extendBody?_eraseOrigins, Option.map_map, Option.map_map]
  congr 1
  funext body
  simp only [Function.comp_apply, TypeDefinition.withoutOrigins, eraseOrigins_append]

private theorem addDefinition_withoutOrigins (definitions : Definitions)
    (definition : Definition) :
    definitions.withoutOrigins.addDefinition definition.withoutOrigins =
      (definitions.addDefinition definition).withoutOrigins := by
  cases definition with
  | operation | fragment | typeExtension => rfl
  | schema | schemaExtension =>
      simp only [Definition.withoutOrigins, Definitions.addDefinition, Definitions.addSchema,
        Definitions.withoutOrigins, SchemaDefinition.withoutOrigins, eraseOrigins_append]
  | directive =>
      simp only [Definition.withoutOrigins, Definitions.addDefinition,
        Definitions.withoutOrigins, List.map_append, List.map_cons, List.map_nil]
  | type type =>
      have same : (findType? definitions.withoutOrigins.types type.withoutOrigins.name).isSome =
          (findType? definitions.types type.name).isSome := by
        rw [Definitions.withoutOrigins, findType?_withoutOrigins, Option.isSome_map]
        rfl
      rw [Definition.withoutOrigins, Definitions.addDefinition, Definitions.addDefinition, same]
      split
      · rfl
      · simp only [Definitions.withoutOrigins, List.map_append, List.map_cons, List.map_nil]

private theorem addExtension_withoutOrigins (definitions : Definitions)
    (extension : TypeExtension) :
    definitions.withoutOrigins.addExtension extension.withoutOrigins =
      (definitions.addExtension extension).withoutOrigins := by
  have found : findType? definitions.withoutOrigins.types extension.withoutOrigins.name =
      (findType? definitions.types extension.name).map TypeDefinition.withoutOrigins :=
    findType?_withoutOrigins definitions.types extension.name
  rw [Definitions.addExtension, Definitions.addExtension, found]
  cases findType? definitions.types extension.name with
  | none =>
      simp only [Option.map_none, Definitions.withoutOrigins, List.map_append, List.map_cons,
        List.map_nil]
      rfl
  | some type =>
      simp only [Option.map_some, extendType?_withoutOrigins]
      cases extendType? type extension with
      | none =>
          have kind : extension.withoutOrigins.body.kind = extension.body.kind :=
            TypeBody.kind_mapUsages ..
          simp only [Option.map_none, kind]
          rfl
      | some extended =>
          simp only [Option.map_some, Definitions.withoutOrigins, setType_withoutOrigins]

private theorem typeExtensions_withoutOrigins (document : Document) :
    typeExtensions document.withoutOrigins =
      (typeExtensions document).map TypeExtension.withoutOrigins := by
  rw [typeExtensions, typeExtensions, Document.withoutOrigins, List.filterMap_map,
    List.map_filterMap]
  congr 1
  funext definition
  cases definition <;> rfl

private theorem foldl_withoutOrigins {α : Type} {step : Definitions → α → Definitions}
    {change : α → α}
    (commutes : ∀ definitions item, step definitions.withoutOrigins (change item) =
      (step definitions item).withoutOrigins) (items : List α) (definitions : Definitions) :
    (items.map change).foldl step definitions.withoutOrigins =
      (items.foldl step definitions).withoutOrigins := by
  rw [List.foldl_map]
  exact List.foldl_hom Definitions.withoutOrigins commutes

/-- Folding takes the parts of a document together wherever they have stood. -/
theorem fold_withoutOrigins (document : Document) :
    fold document.withoutOrigins = (fold document).withoutOrigins := by
  have grouped := foldl_withoutOrigins addDefinition_withoutOrigins document.definitions
    Definitions.empty
  rw [fold, fold, typeExtensions_withoutOrigins, ← foldl_withoutOrigins
    addExtension_withoutOrigins, ← grouped]
  rfl

theorem toSchemaDocument_withoutOrigins (definitions : Definitions) :
    definitions.withoutOrigins.toSchemaDocument =
      definitions.toSchemaDocument.withoutOrigins := by
  have names : definitions.withoutOrigins.types.map (·.name) = definitions.types.map (·.name) := by
    rw [Definitions.withoutOrigins, List.map_map]
    rfl
  have roots : definitions.withoutOrigins.rootTypes = definitions.rootTypes :=
    Definitions.rootTypes_congr names rfl
  rw [Definitions.toSchemaDocument, roots]
  rfl

end FederationSplit.Schema
