import FederationSplit.Proofs.Federation.Pruning
import FederationSplit.Proofs.Federation.Scaffold
import FederationSplit.Proofs.Schema.Folding

namespace FederationSplit.Federation

open FederationSplit.Syntax
open FederationSplit.Schema
open FederationSplit.Settings

/--
The markers that count: the first one, or all that carry a key. Without a key among them, one marker
stands for all.
-/
def selectMarkers : MarkerSelection → List DirectiveUsage → List DirectiveUsage
  | .first, markers => markers.take 1
  | .all, markers => if markers.any isKeyed then markers.filter isKeyed else markers.take 1

def selectedMarkers (selection : MarkerSelection) (type : TypeDefinition) : List DirectiveUsage :=
  selectMarkers selection
    (if type.kind = .object then usagesOf typeMarker type.directives else [])

theorem selectedMarkers_of_kind_ne {type : TypeDefinition} (other : type.kind ≠ .object)
    (selection : MarkerSelection) : selectedMarkers selection type = [] := by
  rw [selectedMarkers, if_neg other]
  cases selection <;> rfl

theorem mem_of_mem_selectedMarkers {selection : MarkerSelection} {type : TypeDefinition}
    {marker : DirectiveUsage} (member : marker ∈ selectedMarkers selection type) :
    type.kind = .object ∧ marker ∈ usagesOf typeMarker type.directives := by
  have among {markers : List DirectiveUsage} (selected : marker ∈ selectMarkers selection markers) :
      marker ∈ markers := by
    cases selection with
    | first => exact List.mem_of_mem_take selected
    | all =>
        rw [selectMarkers] at selected
        split at selected
        · exact List.mem_of_mem_filter selected
        · exact List.mem_of_mem_take selected
  have found := among member
  split at found
  · next object => exact ⟨object, found⟩
  · cases found

theorem federationUsage_of_unkeyed {marker : DirectiveUsage} (unkeyed : isKeyed marker = false) :
    federationUsage marker = shareableUsage := by
  have missing : marker.argument? "key" = none := by simpa [isKeyed] using unkeyed
  rw [federationUsage, missing]

private theorem classifyMarkers_eq (selection : MarkerSelection) (markers : List DirectiveUsage) :
    classifyMarkers selection markers =
      (selectMarkers selection markers).map federationUsage := by
  cases markers with
  | nil => cases selection <;> rfl
  | cons marker rest =>
      cases selection with
      | first => rfl
      | all =>
          by_cases keyed : (marker :: rest).any isKeyed
          · obtain ⟨other, member, holds⟩ := List.any_eq_true.mp keyed
            have nonempty : (marker :: rest).filter isKeyed ≠ [] :=
              List.ne_nil_of_mem (List.mem_filter.mpr ⟨member, holds⟩)
            simp only [keyed, if_true, classifyMarkers, selectMarkers]
          · have unkeyed : ∀ other ∈ marker :: rest, isKeyed other = false := by
              simpa using keyed
            have none : (marker :: rest).filter isKeyed = [] := by
              rw [List.filter_eq_nil_iff]
              exact fun other member => Bool.eq_false_iff.mp (unkeyed other member)
            rw [classifyMarkers, none, selectMarkers, if_neg keyed, List.take_succ_cons,
              List.take_zero, List.map_singleton,
              federationUsage_of_unkeyed (unkeyed marker List.mem_cons_self)]
            exact nofun

theorem classifyType_eq (selection : MarkerSelection) (type : TypeDefinition) :
    classifyType selection type = (selectedMarkers selection type).map federationUsage := by
  unfold classifyType selectedMarkers
  split
  · next object => rw [if_pos object, classifyMarkers_eq]
  · next other =>
      rw [if_neg other]
      cases selection <;> rfl

theorem federationUsage_name (marker : DirectiveUsage) :
    ((federationUsage marker).name == "key") = isKeyed marker := by
  unfold federationUsage isKeyed
  split
  · next found => rw [found]; rfl
  · next missing => rw [missing]; decide

theorem isEntity_eq (selection : MarkerSelection) (type : TypeDefinition) :
    isEntity selection type = (selectedMarkers selection type).any isKeyed := by
  rw [isEntity, classifyType_eq, List.any_map]
  congr 1
  funext marker
  exact federationUsage_name marker

theorem kind_of_isEntity {selection : MarkerSelection} {type : TypeDefinition}
    (entity : isEntity selection type = true) : type.kind = .object := by
  by_contra other
  rw [isEntity_eq, selectedMarkers_of_kind_ne other] at entity
  cases entity

/-- The names of the object types with a marker that counts and carries a key. -/
def keyedTypes (selection : MarkerSelection) (schema : SchemaDocument) : List Name :=
  (schema.types.filter fun type => (selectedMarkers selection type).any isKeyed).map (·.name)

private theorem foldl_register {registered names : List Name}
    (distinct : (registered ++ names).Nodup) :
    names.foldl EntityRegistry.register { names := registered } =
      { names := registered ++ names } := by
  induction names generalizing registered with
  | nil => rw [List.foldl_nil, List.append_nil]
  | cons name rest induction =>
      have fresh : name ∉ registered := fun member =>
        (List.nodup_append.mp distinct).2.2 name member name List.mem_cons_self rfl
      have registers : EntityRegistry.register { names := registered } name =
          { names := registered ++ [name] } := by
        rw [EntityRegistry.register, EntityRegistry.contains, if_neg (by simpa using fresh)]
      rw [List.append_cons] at distinct
      rw [List.foldl_cons, registers, induction distinct, ← List.append_cons]

theorem EntityRegistry.ofList_of_nodup {names : List Name} (distinct : names.Nodup) :
    EntityRegistry.ofList names = { names } :=
  foldl_register distinct

private theorem isEntity_linkTypes (selection : MarkerSelection) :
    ∀ type ∈ linkTypes, isEntity selection type = false := by
  cases selection <;> decide

theorem entities_annotate (selection : MarkerSelection) (url : String)
    (schema : SchemaDocument) :
    entities selection (annotate url schema) = entities selection schema := by
  have noLink : (missingLinkTypes schema).filter (isEntity selection) = [] := by
    rw [List.filter_eq_nil_iff]
    intro type member
    rw [isEntity_linkTypes selection type (List.mem_of_mem_filter member)]
    exact Bool.false_ne_true
  rw [entities, annotate_types, List.filter_append, noLink, List.append_nil]
  rfl

theorem names_entities_annotate {schema : SchemaDocument} (distinct : DistinctNames schema.types)
    (selection : MarkerSelection) (url : String) :
    entities selection (annotate url schema) = { names := keyedTypes selection schema } := by
  have keyed : isEntity selection =
      fun type => (selectedMarkers selection type).any isKeyed := by
    funext type
    exact isEntity_eq selection type
  rw [entities_annotate, entities, keyed]
  exact EntityRegistry.ofList_of_nodup (distinct.sublist List.filter_sublist)

/-! ### Names after pruning -/

theorem mem_names_prune {config : Config} {schema : SchemaDocument} {name : Name}
    (plain : isCompositionName name = false) (notLink : name ∉ linkTypes.map (·.name)) :
    name ∈ (prune config schema).types.map (·.name) ↔ name ∈ schema.types.map (·.name) := by
  have noLink : name ∉ (missingLinkTypes schema).map (·.name) := fun member =>
    notLink ((List.filter_sublist.map _).subset member)
  have names : ((keptTypes schema).map (prunedType config.markerSelection schema)).map (·.name) =
      (keptTypes schema).map (·.name) := by
    rw [List.map_map]
    rfl
  rw [prune_types, List.map_append, List.mem_append, names, or_iff_left noLink,
    mem_names_keptTypes plain]

theorem distinctNames_prune {schema : SchemaDocument} (distinct : DistinctNames schema.types)
    (config : Config) : DistinctNames (prune config schema).types := by
  have kept : ((keptTypes schema).map (·.name)).Nodup :=
    distinct.sublist List.filter_sublist
  have links : ((missingLinkTypes schema).map (·.name)).Nodup := by
    have all : (linkTypes.map (·.name)).Nodup := by decide
    exact DistinctNames.sublist List.filter_sublist all
  rw [prune_types, DistinctNames, List.map_append, List.map_map, List.nodup_append]
  refine ⟨kept, links, ?_⟩
  rintro name keptMember other linkMember rfl
  obtain ⟨type, typeKept, rfl⟩ := List.mem_map.mp keptMember
  obtain ⟨link, linkMissing, sameName⟩ := List.mem_map.mp linkMember
  have missing : schema.type? link.name = none := by
    simpa using (List.mem_filter.mp linkMissing).2
  apply findType?_eq_none_iff.mp missing
  exact List.mem_map.mpr ⟨type, List.mem_of_mem_filter typeKept, sameName.symm⟩

theorem isQueryType_prunedType (config : Config) (selection : MarkerSelection)
    (schema : SchemaDocument) (type : TypeDefinition) :
    isQueryType (prune config schema) (prunedType selection schema type) =
      isQueryType schema type := by
  rw [isQueryType, isQueryType, kind_prunedType, prune_rootTypes, name_prunedType]

theorem isQueryType_of_mem_linkTypes (schema : SchemaDocument) {type : TypeDefinition}
    (member : type ∈ linkTypes) : isQueryType schema type = false := by
  have other : type.kind ≠ .object := by
    revert type
    decide
  simp [isQueryType, other]

theorem survives_of_kind_object {type : TypeDefinition} (object : type.kind = .object) :
    isCompositionType type = false := by
  unfold isCompositionType
  rw [object]

theorem mem_prune_of_object {config : Config} {schema : SchemaDocument} {type : TypeDefinition}
    (member : type ∈ schema.types) (object : type.kind = .object) :
    prunedType config.markerSelection schema type ∈ (prune config schema).types := by
  rw [prune_types]
  refine List.mem_append_left _ (List.mem_map_of_mem (List.mem_filter.mpr ⟨member, ?_⟩))
  rw [survives_of_kind_object object]
  rfl

theorem queryType?_prune_isSome {schema : SchemaDocument} (distinct : DistinctNames schema.types)
    (config : Config) :
    (prune config schema).queryType?.isSome = schema.queryType?.isSome := by
  rw [Bool.eq_iff_iff, Option.isSome_iff_exists, Option.isSome_iff_exists]
  simp only [queryType?_eq_some_iff (distinctNames_prune distinct config),
    queryType?_eq_some_iff distinct]
  constructor
  · rintro ⟨query, member, isQuery⟩
    rw [prune_types, List.mem_append, List.mem_map] at member
    rcases member with ⟨type, kept, rfl⟩ | link
    · rw [isQueryType_prunedType] at isQuery
      exact ⟨type, List.mem_of_mem_filter kept, isQuery⟩
    · rw [isQueryType_of_mem_linkTypes _ (List.mem_of_mem_filter link)] at isQuery
      cases isQuery
  · rintro ⟨query, member, isQuery⟩
    have object := (isQueryType_iff.mp isQuery).1
    exact ⟨_, mem_prune_of_object member object, (isQueryType_prunedType ..).trans isQuery⟩

theorem resolves_prune {schema : SchemaDocument} (distinct : DistinctNames schema.types)
    (config : Config) :
    Resolves (prune config schema) { names := keyedTypes config.markerSelection schema } := by
  intro name member
  obtain ⟨type, keyed, rfl⟩ := List.mem_map.mp member
  obtain ⟨typeMember, entity⟩ := List.mem_filter.mp keyed
  have object : type.kind = .object := by
    rw [← isEntity_eq] at entity
    exact kind_of_isEntity entity
  have found : (prune config schema).type? type.name =
      some (prunedType config.markerSelection schema type) :=
    (findType?_eq_some_iff (distinctNames_prune distinct config)).mpr
      ⟨mem_prune_of_object typeMember object, rfl⟩
  rw [found]
  simpa using object

private theorem fields_prunedType_iff {selection : MarkerSelection} {schema : SchemaDocument}
    {type : TypeDefinition} :
    (∀ field ∈ (prunedType selection schema type).body.fields, field.name ≠ entitiesField) ↔
      ∀ field ∈ type.body.fields, field.name ≠ entitiesField := by
  rw [prunedType, filterBody_eq_mapUsages, TypeBody.fields_mapUsages, List.forall_mem_map]
  rfl

private theorem queryFields_prune_iff {config : Config} {schema : SchemaDocument} :
    (∀ type ∈ (prune config schema).types, isQueryType (prune config schema) type = true →
        ∀ field ∈ type.body.fields, field.name ≠ entitiesField) ↔
      ∀ type ∈ schema.types, isQueryType schema type = true →
        ∀ field ∈ type.body.fields, field.name ≠ entitiesField := by
  constructor
  · intro free type member isQuery
    have object := (isQueryType_iff.mp isQuery).1
    exact fields_prunedType_iff.mp (free _ (mem_prune_of_object member object)
      ((isQueryType_prunedType ..).trans isQuery))
  · intro free type member isQuery
    rw [prune_types, List.mem_append, List.mem_map] at member
    rcases member with ⟨original, kept, rfl⟩ | link
    · rw [isQueryType_prunedType] at isQuery
      exact fields_prunedType_iff.mpr (free original (List.mem_of_mem_filter kept) isQuery)
    · rw [isQueryType_of_mem_linkTypes _ (List.mem_of_mem_filter link)] at isQuery
      cases isQuery

private theorem directives_prune_iff {config : Config} {schema : SchemaDocument} :
    (∀ directive ∈ (prune config schema).directives,
        isScaffoldDirective directive.name = false) ↔
      ∀ directive ∈ schema.directives, isScaffoldDirective directive.name = false := by
  rw [prune_directives, List.forall_mem_append]
  constructor
  · rintro ⟨free, -⟩ directive member
    by_cases composition : isCompositionName directive.name = true
    · rw [Bool.eq_false_iff]
      intro taken
      rcases isScaffoldDirective_iff.mp taken with named | named <;>
        exact absurd (named ▸ composition) (by decide)
    · exact free directive (List.mem_filter.mpr ⟨member, by simpa using composition⟩)
  · intro free
    constructor
    · exact fun directive kept => free directive (List.mem_of_mem_filter kept)
    · intro directive link
      rw [(mem_missingLinkDirective_iff.mp link).2]
      decide

theorem unclaimed_prune_iff {config : Config} {schema : SchemaDocument} {emits : Bool} :
    Unclaimed emits (prune config schema) ↔ Unclaimed emits schema := by
  have any : anyScalar ∈ (prune config schema).types.map (·.name) ↔ _ :=
    mem_names_prune (by decide) (by decide)
  have fieldSet : fieldSetScalar ∈ (prune config schema).types.map (·.name) ↔ _ :=
    mem_names_prune (by decide) (by decide)
  have union : entityUnion ∈ (prune config schema).types.map (·.name) ↔ _ :=
    mem_names_prune (by decide) (by decide)
  constructor
  · intro unclaimed
    constructor
    case any => exact any.not.mp unclaimed.any
    case fieldSet => exact fieldSet.not.mp unclaimed.fieldSet
    case union => exact fun emitted => union.not.mp (unclaimed.union emitted)
    case field => exact fun emitted => queryFields_prune_iff.mp (unclaimed.field emitted)
    case directives => exact directives_prune_iff.mp unclaimed.directives
  · intro unclaimed
    constructor
    case any => exact any.not.mpr unclaimed.any
    case fieldSet => exact fieldSet.not.mpr unclaimed.fieldSet
    case union => exact fun emitted => union.not.mpr (unclaimed.union emitted)
    case field => exact fun emitted => queryFields_prune_iff.mpr (unclaimed.field emitted)
    case directives => exact directives_prune_iff.mpr unclaimed.directives

/-! ### The rewriting -/

def emits (config : Config) (schema : SchemaDocument) : Bool :=
  !(keyedTypes config.markerSelection schema).isEmpty || config.emptyEntityPolicy = .emit

/--
A type without the usages of composition. An object type ends with the federation directives that
its markers stand for, but a root object type has no usages at all.
-/
def cleanedType (config : Config) (schema : SchemaDocument) (type : TypeDefinition) :
    TypeDefinition :=
  { type with
    directives :=
      if isRootObject schema type then []
      else type.directives.filter (!isCompositionName ·.name) ++
        (selectedMarkers config.markerSelection type).map federationUsage
    body := type.body.mapUsages (·.filter (!isCompositionName ·.name)) }

def rewrittenType (config : Config) (schema : SchemaDocument) (type : TypeDefinition) :
    TypeDefinition :=
  if emits config schema && isQueryType schema type then
    withEntities (cleanedType config schema type)
  else cleanedType config schema type

/-- The subgraph of a schema, without any intermediate schema. -/
def rewrite (config : Config) (schema : SchemaDocument) : SchemaDocument where
  types :=
    (schema.types.filter (!isCompositionType ·)).map (rewrittenType config schema) ++
      missingLinkTypes schema ++ [scalarType anyScalar, scalarType fieldSetScalar] ++
      if emits config schema then [unionOf (keyedTypes config.markerSelection schema)] else []
  directives :=
    schema.directives.filter (!isCompositionName ·.name) ++ missingLinkDirective schema ++
      [keyDirective, shareableDirective]
  schemaDirectives := [linkUsage config.federationUrl]
  rootTypes := schema.rootTypes

/-- What a schema needs to be turned into a subgraph. -/
structure Splittable (config : Config) (schema : SchemaDocument) : Prop where
  query : schema.queryType?.isSome
  entity : config.emptyEntityPolicy = .error → keyedTypes config.markerSelection schema ≠ []
  unclaimed : Unclaimed (emits config schema) schema

theorem prunedType_eq (config : Config) (schema : SchemaDocument) (type : TypeDefinition) :
    prunedType config.markerSelection schema type = cleanedType config schema type := by
  rw [prunedType, prunedUsages, classifyType_eq, filterBody_eq_mapUsages]
  rfl

theorem scaffoldedType_prunedType (config : Config) (schema : SchemaDocument)
    (type : TypeDefinition) :
    scaffoldedType (emits config schema) (prune config schema)
        (prunedType config.markerSelection schema type) = rewrittenType config schema type := by
  rw [scaffoldedType, isQueryType_prunedType, prunedType_eq, rewrittenType]

theorem scaffolded_prune (config : Config) (schema : SchemaDocument) :
    scaffolded (emits config schema) { names := keyedTypes config.markerSelection schema }
      (prune config schema) = rewrite config schema := by
  have kept : ((keptTypes schema).map (prunedType config.markerSelection schema)).map
        (scaffoldedType (emits config schema) (prune config schema)) =
      (keptTypes schema).map (rewrittenType config schema) := by
    rw [List.map_map]
    exact List.map_congr_left fun type _ => scaffoldedType_prunedType config schema type
  have links : (missingLinkTypes schema).map
      (scaffoldedType (emits config schema) (prune config schema)) = missingLinkTypes schema := by
    have unchanged : ∀ type ∈ missingLinkTypes schema,
        scaffoldedType (emits config schema) (prune config schema) type = type :=
      fun type member => scaffoldedType_of_not_isQueryType
        (isQueryType_of_mem_linkTypes _ (List.mem_of_mem_filter member)) _
    rw [List.map_congr_left unchanged, List.map_id']
  rw [scaffolded, prune_types, List.map_append, kept, links, prune_directives,
    prune_schemaDirectives, prune_rootTypes, scaffoldTypes, ← List.append_assoc]
  rfl

private theorem emitsEntities_eq (config : Config) (schema : SchemaDocument) :
    emitsEntities (scaffoldPolicy config).emptyEntity
      { names := keyedTypes config.markerSelection schema } = emits config schema := rfl

private theorem wanted_iff (config : Config) (schema : SchemaDocument) :
    (EntityRegistry.isEmpty { names := keyedTypes config.markerSelection schema } &&
        (scaffoldPolicy config).emptyEntity = .error) = false ↔
      (config.emptyEntityPolicy = .error → keyedTypes config.markerSelection schema ≠ []) := by
  change ((keyedTypes config.markerSelection schema).isEmpty &&
    decide (config.emptyEntityPolicy = .error)) = false ↔ _
  rw [Bool.and_eq_false_imp, List.isEmpty_iff, decide_eq_false_iff_not]
  exact ⟨fun wanted strict none => wanted none strict, fun wanted none strict => wanted strict none⟩

theorem transform_eq {schema : SchemaDocument} (distinct : DistinctNames schema.types)
    (config : Config) :
    transform config schema =
      assemble (scaffoldPolicy config) { names := keyedTypes config.markerSelection schema }
        (prune config schema) := by
  rw [transform, names_entities_annotate distinct]

/-- A schema that has all it needs is rewritten, whatever happens to names that are taken. -/
theorem transform_of_splittable {config : Config} {schema : SchemaDocument}
    (distinct : DistinctNames schema.types) (splittable : Splittable config schema) :
    transform config schema = .ok (rewrite config schema) := by
  have present := splittable.query
  rw [← queryType?_prune_isSome distinct config] at present
  obtain ⟨query, found⟩ := Option.isSome_iff_exists.mp present
  rw [transform_eq distinct, assemble_of_unclaimed (distinctNames_prune distinct config)
    (resolves_prune distinct config) found ((wanted_iff config schema).mpr splittable.entity)
    (unclaimed_prune_iff.mpr splittable.unclaimed), emitsEntities_eq, scaffolded_prune]

theorem transform_of_noEntity {config : Config} {schema : SchemaDocument}
    (distinct : DistinctNames schema.types) (query : schema.queryType?.isSome)
    (strict : config.emptyEntityPolicy = .error)
    (none : keyedTypes config.markerSelection schema = []) :
    transform config schema = .error .noEntity := by
  rw [← queryType?_prune_isSome distinct config] at query
  obtain ⟨root, found⟩ := Option.isSome_iff_exists.mp query
  rw [transform_eq distinct]
  apply assemble_of_noEntity found
  rw [none, scaffoldPolicy, strict]
  rfl

theorem queryType?_isSome_of_transform {config : Config} {schema result : SchemaDocument}
    (distinct : DistinctNames schema.types)
    (transformed : transform config schema = .ok result) : schema.queryType?.isSome := by
  rw [← queryType?_prune_isSome distinct config]
  by_contra missing
  rw [Option.not_isSome_iff_eq_none] at missing
  rw [transform_eq distinct, assemble_of_queryType?_eq_none missing] at transformed
  cases transformed

theorem splittable_of_transform {config : Config} {schema result : SchemaDocument}
    (strict : config.collisionPolicy = .error) (distinct : DistinctNames schema.types)
    (transformed : transform config schema = .ok result) : Splittable config schema := by
  rw [transform_eq distinct] at transformed
  obtain ⟨⟨query, found⟩, wanted, unclaimed⟩ := unclaimed_of_assemble strict
    (distinctNames_prune distinct config) (resolves_prune distinct config) transformed
  constructor
  case query =>
    rw [← queryType?_prune_isSome distinct config, found]
    rfl
  case entity => exact (wanted_iff config schema).mp wanted
  case unclaimed => exact unclaimed_prune_iff.mp unclaimed

/--
If no collision is forgiven, a folded schema is transformed if and only if it has all it needs, and
then into its rewriting.
-/
theorem transform_ok_iff_rewrite {config : Config} (strict : config.collisionPolicy = .error)
    (document : Document) (result : SchemaDocument) :
    transform config (fold document).toSchemaDocument = .ok result ↔
      Splittable config (fold document).toSchemaDocument ∧
        result = rewrite config (fold document).toSchemaDocument := by
  have distinct := distinctNames_fold document
  constructor
  · intro transformed
    have splittable := splittable_of_transform strict distinct transformed
    rw [transform_of_splittable distinct splittable] at transformed
    exact ⟨splittable, (Except.ok.inj transformed).symm⟩
  · rintro ⟨splittable, rfl⟩
    exact transform_of_splittable distinct splittable

theorem usage_not_kept {types results : List TypeDefinition} {name : Name}
    {counts : DirectiveUsage → Bool}
    (labelled : (types.any fun type => type.name == name && type.directives.any counts) = true)
    (bare : (results.all fun type => type.name != name || type.directives.isEmpty) = true) :
    ∃ type ∈ types, type.name = name ∧ ∃ usage ∈ type.directives, counts usage = true ∧
      ∀ kept ∈ results, kept.name = type.name → usage ∉ kept.directives := by
  obtain ⟨type, member, holds⟩ := List.any_eq_true.mp labelled
  rw [Bool.and_eq_true, beq_iff_eq, List.any_eq_true] at holds
  obtain ⟨named, usage, used, counted⟩ := holds
  refine ⟨type, member, named, usage, used, counted, ?_⟩
  intro kept keptMember sameName stillUsed
  have empty := List.all_eq_true.mp bare kept keptMember
  rw [sameName, named, bne_self_eq_false, Bool.false_or, List.isEmpty_iff] at empty
  rw [empty] at stillUsed
  cases stillUsed

def labelledSupergraph : Document where
  definitions :=
    [.directive (directiveRepeatable typeMarker
        [parameter "graph" (required "String"), parameter "key" (.named "String")] [.object]),
      .directive (directiveOnce "label" [] [.object, .fieldDefinition]),
      .type {
        description := none
        name := "Query"
        directives := [DirectiveUsage.of "label" [], DirectiveUsage.of typeMarker []]
        body := .object []
          [{ entitiesFieldDefinition with
            name := "cups"
            directives := [DirectiveUsage.of "label" [], DirectiveUsage.of "join__field" []] }]
      },
      .type {
        description := none
        name := "Cup"
        directives :=
          [DirectiveUsage.of "label" [],
            DirectiveUsage.of typeMarker [Argument.of "key" (.text "id")],
            DirectiveUsage.of typeMarker [Argument.of "key" (.text "name")]]
        body := .object [] []
      }]

private theorem labelledSupergraph_splittable :
    Splittable Config.default (fold labelledSupergraph).toSchemaDocument where
  query := by decide
  entity := by decide
  unclaimed :=
    { any := by decide
      fieldSet := by decide
      union := by decide
      field := by decide
      directives := by decide }

theorem transform_labelledSupergraph :
    Config.default.collisionPolicy = .error ∧
      transform Config.default (fold labelledSupergraph).toSchemaDocument =
        .ok (rewrite Config.default (fold labelledSupergraph).toSchemaDocument) :=
  ⟨rfl, (transform_ok_iff_rewrite rfl labelledSupergraph _).mpr
    ⟨labelledSupergraph_splittable, rfl⟩⟩

/-- A root object type loses the usages that are not of composition too. -/
theorem root_usages_not_kept :
    ¬ ∀ (config : Config) (document : Document) (result : SchemaDocument),
      config.collisionPolicy = .error →
      transform config (fold document).toSchemaDocument = .ok result →
      ∀ type ∈ (fold document).types, isCompositionType type = false →
        ∃ kept ∈ result.types, kept.name = type.name ∧
          ∀ usage ∈ type.directives, isCompositionName usage.name = false →
            usage ∈ kept.directives := by
  intro claim
  have transformed := transform_of_splittable (distinctNames_fold labelledSupergraph)
    labelledSupergraph_splittable
  have survive : ((fold labelledSupergraph).types.all (!isCompositionType ·)) = true := by
    decide
  have labelled : ((fold labelledSupergraph).types.any fun type =>
      type.name == "Query" && type.directives.any (!isCompositionName ·.name)) = true := by
    decide
  have bare : ((rewrite Config.default (fold labelledSupergraph).toSchemaDocument).types.all
      fun type => type.name != "Query" || type.directives.isEmpty) = true := by
    decide
  obtain ⟨query, member, -, usage, used, plain, lost⟩ := usage_not_kept labelled bare
  obtain ⟨kept, keptMember, sameName, keeps⟩ := claim _ _ _ rfl transformed query member
    (by simpa using List.all_eq_true.mp survive query member)
  exact lost kept keptMember sameName (keeps usage used (by simpa using plain))

end FederationSplit.Federation
