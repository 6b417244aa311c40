import FederationSplit.Proofs.Federation.Rewriting
import FederationSplit.Proofs.Schema.Origins

namespace FederationSplit.Federation

open FederationSplit.Syntax
open FederationSplit.Schema
open FederationSplit.Rules
open FederationSplit.Settings

private theorem isKeyed_withoutOrigin (marker : DirectiveUsage) :
    isKeyed marker.withoutOrigin = isKeyed marker := by
  rw [isKeyed, isKeyed, argument?_withoutOrigin, Option.isSome_map]

private theorem federationUsage_withoutOrigin (marker : DirectiveUsage) :
    federationUsage marker.withoutOrigin = (federationUsage marker).withoutOrigin := by
  unfold federationUsage
  rw [argument?_withoutOrigin, argument?_withoutOrigin]
  cases marker.argument? "key" with
  | none => rfl
  | some key => cases marker.argument? "resolvable" <;> rfl

private theorem selectMarkers_eraseOrigins (selection : MarkerSelection)
    (markers : List DirectiveUsage) :
    selectMarkers selection (eraseOrigins markers) =
      eraseOrigins (selectMarkers selection markers) := by
  have sameKeyed : isKeyed ∘ DirectiveUsage.withoutOrigin = isKeyed :=
    funext isKeyed_withoutOrigin
  cases selection with
  | first => exact List.map_take.symm
  | all =>
      rw [selectMarkers, selectMarkers, eraseOrigins, List.any_map, List.filter_map, sameKeyed]
      split
      · rfl
      · exact List.map_take.symm

private theorem selectedMarkers_withoutOrigins (selection : MarkerSelection)
    (type : TypeDefinition) :
    selectedMarkers selection type.withoutOrigins =
      eraseOrigins (selectedMarkers selection type) := by
  rw [selectedMarkers, selectedMarkers, TypeDefinition.kind_withoutOrigins,
    ← selectMarkers_eraseOrigins]
  split
  · congr 1
    exact List.filter_map
  · rfl

private theorem classifyType_withoutOrigins (selection : MarkerSelection)
    (type : TypeDefinition) :
    classifyType selection type.withoutOrigins =
      eraseOrigins (classifyType selection type) := by
  rw [classifyType_eq, classifyType_eq, selectedMarkers_withoutOrigins, eraseOrigins,
    eraseOrigins, List.map_map, List.map_map]
  exact List.map_congr_left fun marker _ => federationUsage_withoutOrigin marker

private theorem isEntity_withoutOrigins (selection : MarkerSelection) (type : TypeDefinition) :
    isEntity selection type.withoutOrigins = isEntity selection type := by
  rw [isEntity, isEntity, classifyType_withoutOrigins, eraseOrigins, List.any_map]
  rfl

private theorem entities_withoutOrigins (selection : MarkerSelection) (schema : SchemaDocument) :
    entities selection schema.withoutOrigins = entities selection schema := by
  have sameEntity : isEntity selection ∘ TypeDefinition.withoutOrigins = isEntity selection :=
    funext (isEntity_withoutOrigins selection)
  rw [entities, entities, SchemaDocument.withoutOrigins, List.filter_map, List.map_map, sameEntity]
  rfl

section

variable (schema : SchemaDocument)

private theorem type?_withoutOrigins (name : Name) :
    schema.withoutOrigins.type? name = (schema.type? name).map TypeDefinition.withoutOrigins :=
  findType?_withoutOrigins schema.types name

private theorem missingLinkTypes_withoutOrigins :
    missingLinkTypes schema.withoutOrigins = missingLinkTypes schema := by
  rw [missingLinkTypes, missingLinkTypes]
  refine List.filter_congr fun type _ => ?_
  rw [type?_withoutOrigins, Option.isNone_map]

private theorem missingLinkDirective_withoutOrigins :
    missingLinkDirective schema.withoutOrigins = missingLinkDirective schema := by
  have same : (schema.withoutOrigins.directive? "link").isSome =
      (schema.directive? "link").isSome := by
    rw [SchemaDocument.directive?, SchemaDocument.withoutOrigins, List.find?_map,
      Option.isSome_map]
    rfl
  rw [missingLinkDirective, missingLinkDirective, same]

private theorem prunedType_withoutOrigins (selection : MarkerSelection) (type : TypeDefinition) :
    prunedType selection schema.withoutOrigins type.withoutOrigins =
      (prunedType selection schema type).withoutOrigins := by
  have root : isRootObject schema.withoutOrigins type.withoutOrigins = isRootObject schema type :=
    isRootObject_congr rfl rfl type.kind_withoutOrigins
  have usages : prunedUsages selection schema.withoutOrigins type.withoutOrigins =
      eraseOrigins (prunedUsages selection schema type) := by
    have own : withoutArtifacts type.withoutOrigins.directives =
        eraseOrigins (withoutArtifacts type.directives) := List.filter_map
    rw [prunedUsages, prunedUsages, root, own, classifyType_withoutOrigins]
    split
    · rfl
    · exact List.map_append.symm
  have body : filterBody type.withoutOrigins.body =
      (filterBody type.body).mapUsages eraseOrigins := by
    have same : withoutArtifacts ∘ eraseOrigins = eraseOrigins ∘ withoutArtifacts := by
      funext usages
      exact List.filter_map
    rw [filterBody_eq_mapUsages, filterBody_eq_mapUsages, TypeDefinition.withoutOrigins,
      TypeBody.mapUsages_mapUsages, TypeBody.mapUsages_mapUsages, same]
  rw [prunedType, usages, body]
  rfl

private theorem prune_withoutOrigins (config : Config) :
    prune config schema.withoutOrigins = (prune config schema).withoutOrigins := by
  have types : (prune config schema.withoutOrigins).types =
      (prune config schema).types.map TypeDefinition.withoutOrigins := by
    have kept : keptTypes schema.withoutOrigins =
        (keptTypes schema).map TypeDefinition.withoutOrigins := by
      rw [keptTypes, SchemaDocument.withoutOrigins, List.filter_map]
      congr 1
      refine List.filter_congr fun type _ => ?_
      have same : isCompositionType type.withoutOrigins = isCompositionType type :=
        isCompositionType_congr rfl type.kind_withoutOrigins
      rw [Function.comp_apply, same]
    have links : (missingLinkTypes schema).map TypeDefinition.withoutOrigins =
        missingLinkTypes schema := by
      have bare : ∀ type ∈ linkTypes, type.withoutOrigins = type :=
        List.forall_mem_cons.mpr ⟨rfl, List.forall_mem_singleton.mpr rfl⟩
      rw [missingLinkTypes, List.map_congr_left fun type member =>
        bare type (List.mem_of_mem_filter member), List.map_id']
    rw [prune_types, prune_types, kept, missingLinkTypes_withoutOrigins, List.map_append, links,
      List.map_map, List.map_map]
    congr 1
    exact List.map_congr_left fun type _ =>
      prunedType_withoutOrigins schema config.markerSelection type
  have directives : (prune config schema.withoutOrigins).directives =
      (prune config schema).directives.map DirectiveDefinition.withoutOrigins := by
    have link : (missingLinkDirective schema).map DirectiveDefinition.withoutOrigins =
        missingLinkDirective schema := by
      unfold missingLinkDirective
      split <;> rfl
    rw [prune_directives, prune_directives, missingLinkDirective_withoutOrigins, List.map_append,
      link, SchemaDocument.withoutOrigins, List.filter_map]
    rfl
  have links : (prune config schema.withoutOrigins).schemaDirectives =
      eraseOrigins (prune config schema).schemaDirectives := by
    rw [prune_schemaDirectives, prune_schemaDirectives]
    rfl
  have roots :
      (prune config schema.withoutOrigins).rootTypes = (prune config schema).rootTypes := by
    rw [prune_rootTypes, prune_rootTypes]
    rfl
  exact (SchemaDocument.mk.injEq ..).mpr ⟨types, directives, links, roots⟩

end

private theorem addType_withoutOrigins (policy : CollisionPolicy) (types : List TypeDefinition)
    (type : TypeDefinition) :
    addType policy (types.map TypeDefinition.withoutOrigins) type.withoutOrigins =
      List.map TypeDefinition.withoutOrigins <$> addType policy types type := by
  have taken : (findType? (types.map TypeDefinition.withoutOrigins)
      type.withoutOrigins.name).isSome = (findType? types type.name).isSome := by
    rw [findType?_withoutOrigins, Option.isSome_map]
    rfl
  rw [addType, addType, taken, setType_withoutOrigins, map_bind]
  rfl

private theorem entityUnionType_withoutOrigins (schema : SchemaDocument)
    (registry : EntityRegistry) :
    entityUnionType schema.withoutOrigins registry =
      TypeDefinition.withoutOrigins <$> entityUnionType schema registry := by
  have sameKind (name : Name) : (schema.withoutOrigins.type? name).any (·.kind = .object) =
      (schema.type? name).any (·.kind = .object) := by
    rw [type?_withoutOrigins, Option.any_map]
    congr 1
    funext type
    simp
  simp only [entityUnionType, sameKind, map_bind]
  rfl

private theorem withEntitiesField_withoutOrigins (policy : CollisionPolicy)
    (query : TypeDefinition) :
    withEntitiesField policy query.withoutOrigins =
      TypeDefinition.withoutOrigins <$> withEntitiesField policy query := by
  have fields : query.withoutOrigins.body.fields =
      query.body.fields.map (FieldDefinition.mapUsages eraseOrigins) :=
    TypeBody.fields_mapUsages ..
  have interfaces : query.withoutOrigins.body.interfaces = query.body.interfaces :=
    TypeBody.interfaces_mapUsages ..
  have taken : query.withoutOrigins.body.fields.any (·.name == entitiesField) =
      query.body.fields.any (·.name == entitiesField) := by
    rw [fields, List.any_map]
    rfl
  have kept : query.withoutOrigins.body.fields.filter (·.name != entitiesField) =
      (query.body.fields.filter (·.name != entitiesField)).map
        (FieldDefinition.mapUsages eraseOrigins) := by
    rw [fields, List.filter_map]
    rfl
  have rebuilt (fields : List FieldDefinition) :
      ({ query with
        body := .object query.body.interfaces (fields ++ [entitiesFieldDefinition]) } :
        TypeDefinition).withoutOrigins =
      { query.withoutOrigins with
        body := .object query.body.interfaces
          (fields.map (FieldDefinition.mapUsages eraseOrigins) ++ [entitiesFieldDefinition]) } := by
    rw [TypeDefinition.withoutOrigins, TypeBody.mapUsages, List.map_append]
    rfl
  simp only [withEntitiesField, taken, kept, interfaces, map_bind, map_pure, rebuilt]

private theorem withScaffoldDirectives_withoutOrigins (policy : CollisionPolicy)
    (directives : List DirectiveDefinition) :
    withScaffoldDirectives policy (directives.map DirectiveDefinition.withoutOrigins) =
      List.map DirectiveDefinition.withoutOrigins <$>
        withScaffoldDirectives policy directives := by
  have checks : ((directives.map DirectiveDefinition.withoutOrigins).forM fun directive =>
        refuse policy .directive directive.name
          (scaffoldDirectives.any (·.name == directive.name))) =
      directives.forM fun directive =>
        refuse policy .directive directive.name
          (scaffoldDirectives.any (·.name == directive.name)) :=
    List.forM_map
  simp only [withScaffoldDirectives, checks, map_bind, map_pure, List.filter_map, List.map_append]
  rfl

private theorem queryType?_withoutOrigins (schema : SchemaDocument) :
    schema.withoutOrigins.queryType? =
      schema.queryType?.map TypeDefinition.withoutOrigins := by
  have found : schema.withoutOrigins.rootTypes.query.bind schema.withoutOrigins.type? =
      (schema.rootTypes.query.bind schema.type?).map TypeDefinition.withoutOrigins := by
    rw [Option.map_bind]
    congr 1
    exact funext (type?_withoutOrigins schema)
  rw [SchemaDocument.queryType?, SchemaDocument.queryType?, found, Option.filter_map]
  congr 2
  funext type
  rw [Function.comp_apply, TypeDefinition.kind_withoutOrigins]

private theorem addScalars_withoutOrigins (policy : ScaffoldPolicy) (registry : EntityRegistry)
    (schema : SchemaDocument) :
    addScalars policy registry schema.withoutOrigins =
      Prod.map TypeDefinition.withoutOrigins (List.map TypeDefinition.withoutOrigins) <$>
        addScalars policy registry schema := by
  have added (types : List TypeDefinition) (name : Name) :
      addType policy.collision (types.map TypeDefinition.withoutOrigins) (scalarType name) =
        List.map TypeDefinition.withoutOrigins <$>
          addType policy.collision types (scalarType name) :=
    addType_withoutOrigins policy.collision types (scalarType name)
  have types : schema.withoutOrigins.types = schema.types.map TypeDefinition.withoutOrigins := rfl
  rw [addScalars, addScalars, queryType?_withoutOrigins]
  cases schema.queryType? with
  | none => rfl
  | some query =>
      simp only [Option.map_some]
      split
      · rfl
      · simp only [types, added, bind_map_left, map_bind, map_pure, Prod.map_apply]

private theorem addEntities_withoutOrigins (policy : CollisionPolicy) (schema : SchemaDocument)
    (registry : EntityRegistry) (query : TypeDefinition) (types : List TypeDefinition) :
    addEntities policy schema.withoutOrigins registry query.withoutOrigins
        (types.map TypeDefinition.withoutOrigins) =
      List.map TypeDefinition.withoutOrigins <$>
        addEntities policy schema registry query types := by
  simp only [addEntities, entityUnionType_withoutOrigins, withEntitiesField_withoutOrigins,
    map_bind, bind_map_left, addType_withoutOrigins, map_pure, setType_withoutOrigins]

private theorem assemble_withoutOrigins (policy : ScaffoldPolicy) (registry : EntityRegistry)
    (schema : SchemaDocument) :
    assemble policy registry schema.withoutOrigins =
      SchemaDocument.withoutOrigins <$> assemble policy registry schema := by
  have directives : schema.withoutOrigins.directives =
      schema.directives.map DirectiveDefinition.withoutOrigins := rfl
  simp only [assemble, addScalars_withoutOrigins, bind_map_left, map_bind, Prod.map_fst,
    Prod.map_snd, directives, withScaffoldDirectives_withoutOrigins]
  congr 1
  funext added
  split
  · simp only [addEntities_withoutOrigins, bind_map_left, map_bind, map_pure]
    rfl
  · simp only [pure_bind, map_bind, map_pure]
    rfl

/-- A schema is turned into the same subgraph wherever its parts have stood. -/
theorem transform_withoutOrigins (config : Config) (schema : SchemaDocument) :
    transform config schema.withoutOrigins =
      SchemaDocument.withoutOrigins <$> transform config schema := by
  simp only [transform, entities_annotate, entities_withoutOrigins, prune_withoutOrigins,
    assemble_withoutOrigins]

end FederationSplit.Federation
