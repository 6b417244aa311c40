import FederationSplit.Proofs.Federation.Acceptance
import FederationSplit.Proofs.Federation.Composing

namespace FederationSplit.Federation

open FederationSplit.Syntax
open FederationSplit.Schema
open FederationSplit.Rules
open FederationSplit.Settings

/-- A key as it comes back: its fields, and that it cannot be resolved if it says so. -/
def splitKey (key : DirectiveUsage) : DirectiveUsage :=
  DirectiveUsage.of "key"
    ((key.argument? "fields").toList.map (fun argument => Argument.of "fields" argument.value) ++
      resolvableArgument key)

/-- The federation directives that come back to an object type: its keys, or that it is shared. -/
def splitUsages (selection : MarkerSelection) (usages : List DirectiveUsage) :
    List DirectiveUsage :=
  match selection, usagesOf "key" usages with
  | _, [] => [shareableUsage]
  | .first, key :: _ => [splitKey key]
  | .all, keys => keys.map splitKey

theorem any_key_splitUsages (selection : MarkerSelection) (usages : List DirectiveUsage) :
    (splitUsages selection usages).any (·.name == "key") = usages.any (·.name == "key") := by
  have hasKeys : usages.any (·.name == "key") = !(usagesOf "key" usages).isEmpty := by
    rw [Bool.eq_iff_iff]
    simp [usagesOf, List.filter_eq_nil_iff]
  rw [hasKeys]
  unfold splitUsages
  cases usagesOf "key" usages with
  | nil => cases selection <;> rfl
  | cons key rest => cases selection <;> rfl

theorem federationUsage_keyMarker {graph : Name} {key : DirectiveUsage}
    (states : (key.argument? "fields").isSome) :
    isKeyed (keyMarker graph key) = true ∧
      federationUsage (keyMarker graph key) = splitKey key := by
  obtain ⟨fields, found⟩ := Option.isSome_iff_exists.mp states
  have recorded : keyMarker graph key =
      marker typeMarker graph (Argument.of "key" fields.value :: resolvableArgument key) := by
    rw [keyMarker, found]
    rfl
  have keyed : (keyMarker graph key).argument? "key" =
      some (Argument.of "key" fields.value) := by
    rw [recorded]
    rfl
  have resolvable : ((keyMarker graph key).argument? "resolvable").toList =
      resolvableArgument key := by
    rw [recorded]
    unfold resolvableArgument
    split <;> rfl
  constructor
  · rw [isKeyed, keyed]
    rfl
  · rw [federationUsage, keyed, splitKey, found, resolvable]
    rfl

/-- On a composed type without markers of its own, composing has left one marker for each key. -/
private theorem usagesOf_typeMarker_composeType {graph : Name} {type : TypeDefinition}
    (object : type.kind = .object)
    (plain : ∀ usage ∈ type.directives, isCompositionName usage.name = false) :
    usagesOf typeMarker (composeType graph type).directives =
      typeMarkers graph type.directives := by
  have own : (withoutFederationUsages type.directives).filter (·.name == typeMarker) = [] := by
    rw [List.filter_eq_nil_iff]
    intro usage member named
    have notMarker := plain usage (List.mem_of_mem_filter member)
    rw [beq_iff_eq.mp named] at notMarker
    revert notMarker
    decide
  have members : (memberMarkers graph type.body).filter (·.name == typeMarker) = [] := by
    rw [List.filter_eq_nil_iff]
    intro usage member
    rcases memberMarkers_name graph type.body usage member with named | named <;>
      · rw [named]
        decide
  have markers : (ownMarkers graph type).filter (·.name == typeMarker) = ownMarkers graph type := by
    rw [List.filter_eq_self]
    intro usage member
    rw [ownMarkers_name graph type usage member]
    decide
  have keys : ownMarkers graph type = typeMarkers graph type.directives := by
    rw [ownMarkers, object]
  rw [usagesOf, composeType, List.filter_append, List.filter_append, own, members, markers, keys,
    List.append_nil, List.nil_append]

private theorem all_keyed {graph : Name} {keys : List DirectiveUsage}
    (state : ∀ key ∈ keys, (key.argument? "fields").isSome) :
    (keys.map (keyMarker graph)).filter isKeyed = keys.map (keyMarker graph) := by
  rw [List.filter_eq_self]
  intro marker member
  obtain ⟨key, keyMember, rfl⟩ := List.mem_map.mp member
  exact (federationUsage_keyMarker (state key keyMember)).1

section

variable {selection : MarkerSelection} {graph : Name} {type : TypeDefinition}
  (object : type.kind = .object)
  (plain : ∀ usage ∈ type.directives, isCompositionName usage.name = false)
  (state : ∀ key ∈ usagesOf "key" type.directives, (key.argument? "fields").isSome)

include object plain state

private theorem selectedMarkers_composeType :
    selectedMarkers selection (composeType graph type) =
      match selection, usagesOf "key" type.directives with
      | _, [] => [marker typeMarker graph []]
      | .first, key :: _ => [keyMarker graph key]
      | .all, keys => keys.map (keyMarker graph) := by
  rw [selectedMarkers, if_pos ((kind_composeType graph type).trans object),
    usagesOf_typeMarker_composeType object plain, typeMarkers]
  cases keys : usagesOf "key" type.directives with
  | nil => cases selection <;> rfl
  | cons key rest =>
      rw [keys] at state
      cases selection with
      | first => rfl
      | all =>
          have keyed : isKeyed (keyMarker graph key) = true :=
            (federationUsage_keyMarker (state key List.mem_cons_self)).1
          have any : ((key :: rest).map (keyMarker graph)).any isKeyed = true := by
            simp [keyed]
          simp only [selectMarkers, any, if_true, all_keyed state]

/-- What composing has recorded about the keys of an object type is read back. -/
theorem map_federationUsage_composeType :
    (selectedMarkers selection (composeType graph type)).map federationUsage =
      splitUsages selection type.directives := by
  rw [selectedMarkers_composeType object plain state]
  unfold splitUsages
  cases keys : usagesOf "key" type.directives with
  | nil => cases selection <;> rfl
  | cons key rest =>
      rw [keys] at state
      have back : ∀ other ∈ key :: rest,
          federationUsage (keyMarker graph other) = splitKey other :=
        fun other member => (federationUsage_keyMarker (state other member)).2
      cases selection with
      | first => exact congrArg ([·]) (back key List.mem_cons_self)
      | all =>
          simp only [List.map_map]
          exact List.map_congr_left back

theorem any_isKeyed_composeType :
    (selectedMarkers selection (composeType graph type)).any isKeyed =
      type.directives.any (·.name == "key") := by
  have keyed : isKeyed = (·.name == "key") ∘ federationUsage :=
    funext fun marker => (federationUsage_name marker).symm
  rw [keyed, ← List.any_map, map_federationUsage_composeType object plain state,
    any_key_splitUsages]

end

/-! ### The result -/

/-- No name of composition is declared in the definitions of a service, or used on its types. -/
structure PlainNames (definitions : Definitions) : Prop where
  types : ∀ type ∈ definitions.types, isCompositionName type.name = false
  usages : ∀ type ∈ definitions.types, ∀ usage ∈ type.directives ++ type.body.usages,
    isCompositionName usage.name = false
  directives : ∀ directive ∈ definitions.directives, isCompositionName directive.name = false

def keyedNames (document : Document) : List Name :=
  ((fold document).types.filter fun type =>
    !federationTypes.contains type.name &&
      (type.kind = .object && type.directives.any (·.name == "key"))).map (·.name)

def splitEmits (config : Config) (document : Document) : Bool :=
  !(keyedNames document).isEmpty || config.emptyEntityPolicy = .emit

/-- The body of the query root of a service: the fields that federation rebuilds are rebuilt. -/
def splitQueryBody (emitted : Bool) (body : TypeBody) : TypeBody :=
  .object body.interfaces
    (body.fields.filter (!federationQueryFields.contains ·.name) ++
      if emitted then [entitiesFieldDefinition] else [])

def splitType (config : Config) (document : Document) (type : TypeDefinition) : TypeDefinition :=
  let roots := (serviceDefinitions document).rootTypes
  let body := type.body.mapUsages withoutFederationUsages
  match type.kind with
  | .object =>
      { type with
        directives :=
          if roots.names.contains type.name then []
          else withoutFederationUsages type.directives ++
            splitUsages config.markerSelection type.directives
        body :=
          if roots.query = some type.name then splitQueryBody (splitEmits config document) body
          else body }
  | _ => { type with directives := withoutFederationUsages type.directives, body }

/-- The subgraph of a service, told from its document. -/
def splitService (config : Config) (document : Document) : SchemaDocument where
  types :=
    ((fold document).types.filter (!federationTypes.contains ·.name)).map
        (splitType config document) ++
      [linkImport, describedLinkPurpose, scalarType anyScalar, scalarType fieldSetScalar] ++
      if splitEmits config document then [unionOf (keyedNames document)] else []
  directives :=
    linkDirective (.named "String") ::
      (fold document).directives.filter (!federationDirectives.contains ·.name) ++
      [keyDirective, shareableDirective]
  schemaDirectives := [linkUsage config.federationUrl]
  rootTypes := (serviceDefinitions document).rootTypes

section

variable {document : Document} (accepted : Accepted (serviceDefinitions document))
  (plain : PlainNames (fold document))

include plain

private theorem isKept_of_plain :
    (serviceDefinitions document).types.filter isKept = (serviceDefinitions document).types := by
  rw [List.filter_eq_self]
  intro type member
  rw [serviceDefinitions_types] at member
  obtain ⟨original, originalMember, rfl⟩ := List.mem_map.mp member
  have name := plain.types original (List.mem_of_mem_filter originalMember)
  have survives : isCompositionType
      (servedType (serviceDefinitions document).rootTypes.query original) = false := by
    unfold isCompositionType
    rw [name_servedType]
    split <;> first | exact name | rfl
  have notFieldSet : original.name ≠ "join__FieldSet" := by
    rintro same
    rw [same] at name
    revert name
    decide
  have notGraph : original.name ≠ "join__Graph" := by
    rintro same
    rw [same] at name
    revert name
    decide
  simp [isKept, survives, notFieldSet, notGraph]

private theorem mapUsages_ownUsages {type : TypeDefinition}
    (member : type ∈ (fold document).types) :
    type.body.mapUsages ownUsages = type.body.mapUsages withoutFederationUsages := by
  apply TypeBody.mapUsages_filter_congr
  intro usage usageMember
  rw [isOwnUsage, plain.usages type member usage (List.mem_append_right _ usageMember)]
  rfl

private theorem unmarked_served {type : TypeDefinition}
    (typeMember : type ∈ (fold document).types) :
    ∀ usage ∈ (servedType (serviceDefinitions document).rootTypes.query type).directives,
      isCompositionName usage.name = false := by
  intro usage used
  rw [directives_servedType] at used
  exact plain.usages type typeMember usage (List.mem_append_left _ used)

private theorem ownUsages_of_plain {type : TypeDefinition} (member : type ∈ (fold document).types) :
    ownUsages type.directives = withoutFederationUsages type.directives := by
  apply List.filter_congr
  intro usage usageMember
  rw [isOwnUsage, plain.usages type member usage (List.mem_append_left _ usageMember)]
  rfl

end

theorem filter_mapUsages (change : List DirectiveUsage → List DirectiveUsage)
    (fields : List FieldDefinition) :
    (fields.filter (!federationQueryFields.contains ·.name)).map
        (FieldDefinition.mapUsages change) =
      (fields.map (FieldDefinition.mapUsages change)).filter
        (!federationQueryFields.contains ·.name) := by
  rw [List.filter_map]
  rfl

section

variable {document : Document} (accepted : Accepted (serviceDefinitions document))
  (plain : PlainNames (fold document)) {type : TypeDefinition}
  (member : type ∈ (fold document).types.filter (!federationTypes.contains ·.name))

include accepted plain member

private theorem cleanedType_served (config : Config) (service : String)
    (object : type.kind = .object) :
    cleanedType config (supergraph service (serviceDefinitions document))
        (composeType (graphName service)
          (servedType (serviceDefinitions document).rootTypes.query type)) =
      { type with
        directives :=
          if (serviceDefinitions document).rootTypes.names.contains type.name then []
          else withoutFederationUsages type.directives ++
            splitUsages config.markerSelection type.directives
        body :=
          (servedType (serviceDefinitions document).rootTypes.query type).body.mapUsages
            ownUsages } := by
  have typeMember := List.mem_of_mem_filter member
  have servedMember : servedType (serviceDefinitions document).rootTypes.query type ∈
      (serviceDefinitions document).types := by
    rw [serviceDefinitions_types]
    exact List.mem_map_of_mem member
  have states : ∀ key ∈ usagesOf "key"
      (servedType (serviceDefinitions document).rootTypes.query type).directives,
      (key.argument? "fields").isSome := fun key used =>
    key_states_fields (served_serviceDefinitions document) accepted servedMember used
  have root : isRootObject (supergraph service (serviceDefinitions document))
      (servedType (serviceDefinitions document).rootTypes.query type) =
      (serviceDefinitions document).rootTypes.names.contains type.name := by
    rw [isRootObject, kind_servedType, name_servedType, object]
    rfl
  rw [cleanedType_composeType, root,
    map_federationUsage_composeType ((kind_servedType ..).trans object)
      (unmarked_served plain typeMember) states,
    directives_servedType, name_servedType, description_servedType,
    ownUsages_of_plain plain typeMember]

private theorem rewrittenType_served {config : Config} {service : String}
    (sameEmits : emits config (supergraph service (serviceDefinitions document)) =
      splitEmits config document) :
    rewrittenType config (supergraph service (serviceDefinitions document))
        (composeType (graphName service)
          (servedType (serviceDefinitions document).rootTypes.query type)) =
      splitType config document type := by
  have typeMember := List.mem_of_mem_filter member
  have query : isQueryType (supergraph service (serviceDefinitions document))
      (composeType (graphName service)
        (servedType (serviceDefinitions document).rootTypes.query type)) =
      (type.kind = .object &&
        (serviceDefinitions document).rootTypes.query == some type.name) := by
    rw [isQueryType, kind_composeType, kind_servedType, name_composeType, name_servedType]
    rfl
  by_cases object : type.kind = .object
  · rw [rewrittenType, query, cleanedType_served accepted plain member config service object,
      sameEmits, splitType, object]
    simp only [decide_true, Bool.true_and]
    by_cases root : (serviceDefinitions document).rootTypes.query = some type.name
    · have served : (servedType (serviceDefinitions document).rootTypes.query type).body.mapUsages
          ownUsages = splitQueryBody false (type.body.mapUsages withoutFederationUsages) := by
        rw [body_servedType_of_query object root, splitQueryBody, if_neg Bool.false_ne_true,
          List.append_nil, ← mapUsages_ownUsages plain typeMember, TypeBody.interfaces_mapUsages,
          TypeBody.fields_mapUsages, ← filter_mapUsages]
        rfl
      rw [served, root]
      simp only [if_true, beq_self_eq_true, Bool.and_true]
      cases splitEmits config document with
      | true => simp [withEntities, splitQueryBody, TypeBody.interfaces, TypeBody.fields]
      | false => rfl
    · rw [body_servedType_of_other (.inr root), mapUsages_ownUsages plain typeMember]
      simp [root]
  · have notRoot : isRootObject (supergraph service (serviceDefinitions document))
        (servedType (serviceDefinitions document).rootTypes.query type) = false := by
      rw [isRootObject, kind_servedType]
      simp [object]
    have unmarked : selectedMarkers config.markerSelection (composeType (graphName service)
        (servedType (serviceDefinitions document).rootTypes.query type)) = [] := by
      rw [selectedMarkers, kind_composeType, kind_servedType, if_neg object]
      cases config.markerSelection <;> rfl
    rw [rewrittenType, query, decide_eq_false object, Bool.false_and, Bool.and_false,
      if_neg Bool.false_ne_true, cleanedType_composeType, notRoot, unmarked,
      body_servedType_of_other (.inl object), mapUsages_ownUsages plain typeMember,
      directives_servedType, name_servedType, description_servedType,
      ownUsages_of_plain plain typeMember, splitType]
    simp only [Bool.false_eq_true, if_false, List.map_nil, List.append_nil]

private theorem any_isKeyed_served (selection : MarkerSelection) (service : String) :
    (selectedMarkers selection (composeType (graphName service)
        (servedType (serviceDefinitions document).rootTypes.query type))).any isKeyed =
      (type.kind = .object && type.directives.any (·.name == "key")) := by
  have typeMember := List.mem_of_mem_filter member
  by_cases object : type.kind = .object
  · have servedMember : servedType (serviceDefinitions document).rootTypes.query type ∈
        (serviceDefinitions document).types := by
      rw [serviceDefinitions_types]
      exact List.mem_map_of_mem member
    rw [any_isKeyed_composeType ((kind_servedType ..).trans object)
      (unmarked_served plain typeMember)
      fun key used =>
        key_states_fields (served_serviceDefinitions document) accepted servedMember used,
      directives_servedType, decide_eq_true object, Bool.true_and]
  · rw [selectedMarkers, kind_composeType, kind_servedType, if_neg object, decide_eq_false object]
    cases selection <;> rfl

end

section

variable {document : Document} (accepted : Accepted (serviceDefinitions document))
  (plain : PlainNames (fold document))

include accepted plain

theorem keyedTypes_of_plain (selection : MarkerSelection) (service : String) :
    keyedTypes selection (supergraph service (serviceDefinitions document)) =
      keyedNames document := by
  have entities : ∀ type ∈ (fold document).types.filter (!federationTypes.contains ·.name),
      ((fun type =>
          (selectedMarkers selection (composeType (graphName service) type)).any isKeyed) ∘
        servedType (serviceDefinitions document).rootTypes.query) type =
      (type.kind = .object && type.directives.any (·.name == "key")) :=
    fun type member => any_isKeyed_served accepted plain member selection service
  have sameNames : (fun type : TypeDefinition => type.name) ∘
      servedType (serviceDefinitions document).rootTypes.query = (·.name) := by
    funext type
    exact name_servedType ..
  rw [keyedTypes_supergraph (served_serviceDefinitions document), isKept_of_plain plain,
    serviceDefinitions_types, List.filter_map, List.map_map, List.filter_congr entities,
    sameNames, List.filter_filter, keyedNames]
  congr 1
  apply List.filter_congr
  intro type _
  exact Bool.and_comm ..

theorem rewrite_of_plain (config : Config) (service : String) :
    rewrite config (supergraph service (serviceDefinitions document)) =
      splitService config document := by
  have served := served_serviceDefinitions document
  have keyed := keyedTypes_of_plain accepted plain config.markerSelection service
  have sameEmits : emits config (supergraph service (serviceDefinitions document)) =
      splitEmits config document := by
    rw [emits, keyed, splitEmits]
  have rewritten : ∀ type ∈ (fold document).types.filter (!federationTypes.contains ·.name),
      ((fun type => rewrittenType config (supergraph service (serviceDefinitions document))
          (composeType (graphName service) type)) ∘
        servedType (serviceDefinitions document).rootTypes.query) type =
      splitType config document type :=
    fun type member => rewrittenType_served accepted plain member sameEmits
  have types : (rewrite config (supergraph service (serviceDefinitions document))).types =
      (splitService config document).types := by
    rw [rewrite_supergraph_types served, isKept_of_plain plain, sameEmits, keyed, splitService,
      serviceDefinitions_types, List.map_map, List.map_congr_left rewritten]
  have directives : (rewrite config (supergraph service (serviceDefinitions document))).directives =
      (splitService config document).directives := by
    have unnamed : (serviceDefinitions document).directives.filter (!isCompositionName ·.name) =
        (serviceDefinitions document).directives := by
      rw [List.filter_eq_self]
      intro directive member
      rw [serviceDefinitions_directives] at member
      rw [plain.directives directive (List.mem_of_mem_filter member)]
      rfl
    rw [rewrite_supergraph_directives, unnamed, serviceDefinitions_directives, splitService]
  exact (SchemaDocument.mk.injEq ..).mpr ⟨types, directives, rfl, rfl⟩

theorem transform_supergraph_of_plain
    (rooted : ∃ query ∈ (serviceDefinitions document).types, query.kind = .object ∧
      (serviceDefinitions document).rootTypes.query = some query.name)
    (config : Config) (service : String) :
    transform config (supergraph service (serviceDefinitions document)) =
      if config.emptyEntityPolicy = .error ∧ keyedNames document = [] then .error .noEntity
      else .ok (splitService config document) := by
  have served := served_serviceDefinitions document
  have distinct := distinctNames_supergraph served.distinct service
  have keyed := keyedTypes_of_plain accepted plain config.markerSelection service
  obtain ⟨query, queryMember, object, root⟩ := rooted
  have found : (supergraph service (serviceDefinitions document)).queryType?.isSome := by
    rw [queryType?_supergraph_isSome served]
    rw [← isKept_of_plain plain, List.mem_filter] at queryMember
    exact ⟨query, queryMember.1, queryMember.2, object, root⟩
  split
  · next lacking => exact transform_of_noEntity distinct found lacking.1 (keyed.trans lacking.2)
  · next wanted =>
      rw [not_and] at wanted
      have splittable : Splittable config (supergraph service (serviceDefinitions document)) :=
        { query := found
          entity := fun strict none => wanted strict (keyed.symm.trans none)
          unclaimed := unclaimed_supergraph served service _ }
      rw [transform_of_splittable distinct splittable, rewrite_of_plain accepted plain]

end

/--
A service whose query root is an object type of its own is split, after it has been composed, as its
document tells, whatever happens to names that are taken. It is not if an entity is asked for and
there is none.
-/
theorem transform_of_compose {config : Config} {service : String} {document : Document}
    {schema : SchemaDocument} (composed : compose service document = .ok schema)
    (plain : PlainNames (fold document))
    (rooted : ∃ query ∈ (serviceDefinitions document).types, query.kind = .object ∧
      (serviceDefinitions document).rootTypes.query = some query.name) :
    transform config schema =
      if config.emptyEntityPolicy = .error ∧ keyedNames document = [] then .error .noEntity
      else .ok (splitService config document) := by
  obtain ⟨clean, rfl⟩ := compose_ok_iff.mp composed
  have accepted := accepted_of_check (compositionProblems_eq_nil clean).1
  exact transform_supergraph_of_plain accepted plain rooted config service

def labelledService : Document where
  definitions :=
    [.directive (directiveOnce "label" [] [.object, .fieldDefinition]),
      .type {
        plainObject "Query"
          [plainField "cup" (.named "Cup"), plainField "_service" (required "_Service")] with
        directives := [DirectiveUsage.of "label" []]
      },
      .type (plainObject "_Service" [plainField "sdl" (.named "String")]),
      .type {
        plainObject "Cup"
          [{ plainField "id" (required "ID") with
              directives := [DirectiveUsage.of "shareable" [], DirectiveUsage.of "label" []] },
            plainField "name" (.named "String")] with
        directives :=
          [DirectiveUsage.of "key" [Argument.of "fields" (.text "id")],
            DirectiveUsage.of "label" [],
            DirectiveUsage.of "key"
              [Argument.of "fields" (.text "name"), Argument.of "resolvable" (.boolean false)]]
      }]

private theorem labelledService_composed (service : String) :
    compose service labelledService =
      .ok (supergraph service (serviceDefinitions labelledService)) :=
  compose_ok_iff.mpr ⟨List.isEmpty_iff.mp (by decide +kernel), rfl⟩

private theorem labelledService_plain : PlainNames (fold labelledService) where
  types := by decide
  usages := by decide
  directives := by decide

private theorem labelledService_rooted :
    ∃ query ∈ (serviceDefinitions labelledService).types, query.kind = .object ∧
      (serviceDefinitions labelledService).rootTypes.query = some query.name := by
  decide

theorem transform_labelledService :
    ∃ schema, compose "cups" labelledService = .ok schema ∧
      PlainNames (fold labelledService) ∧
      (∃ query ∈ (serviceDefinitions labelledService).types, query.kind = .object ∧
        (serviceDefinitions labelledService).rootTypes.query = some query.name) ∧
      transform Config.default schema = .ok (splitService Config.default labelledService) := by
  refine ⟨_, labelledService_composed "cups", labelledService_plain, labelledService_rooted, ?_⟩
  rw [transform_of_compose (labelledService_composed "cups") labelledService_plain
    labelledService_rooted]
  exact if_neg (by decide)

/-- A root object type of a service loses more than its usages of federation. -/
theorem service_root_usages_not_kept :
    ¬ ∀ (config : Config) (service : String) (document : Document) (schema : SchemaDocument),
      compose service document = .ok schema → PlainNames (fold document) →
      (∀ type ∈ (fold document).types,
        (serviceDefinitions document).rootTypes.names.contains type.name = true →
        usagesOf "key" type.directives = []) →
      ∀ result, transform config schema = .ok result →
      ∀ type ∈ (fold document).types, type.name ∉ federationTypes →
        ∃ kept ∈ result.types, kept.name = type.name ∧
          ∀ usage ∈ type.directives, usage.name ∉ federationDirectives →
            usage ∈ kept.directives := by
  intro claim
  have accepted := accepted_of_check
    (compositionProblems_eq_nil (compose_ok_iff.mp (labelledService_composed "cups")).1).1
  have transformed := transform_supergraph_of_plain accepted labelledService_plain
    labelledService_rooted Config.default "cups"
  rw [if_neg (by decide)] at transformed
  have keyless : ∀ type ∈ (fold labelledService).types,
      (serviceDefinitions labelledService).rootTypes.names.contains type.name = true →
      usagesOf "key" type.directives = [] := by
    intro type member root
    have all : ((fold labelledService).types.all fun type =>
        !(serviceDefinitions labelledService).rootTypes.names.contains type.name ||
          (usagesOf "key" type.directives).isEmpty) = true := by
      decide
    have holds := List.all_eq_true.mp all type member
    rw [root] at holds
    exact List.isEmpty_iff.mp holds
  have labelled : ((fold labelledService).types.any fun type =>
      type.name == "Query" && type.directives.any (!federationDirectives.contains ·.name)) =
        true := by
    decide
  have bare : ((splitService Config.default labelledService).types.all fun type =>
      type.name != "Query" || type.directives.isEmpty) = true := by
    decide
  obtain ⟨query, member, named, usage, used, own, lost⟩ := usage_not_kept labelled bare
  obtain ⟨kept, keptMember, sameName, keeps⟩ :=
    claim _ _ _ _ (labelledService_composed "cups") labelledService_plain keyless _ transformed
      query member (by rw [named]; decide)
  exact lost kept keptMember sameName (keeps usage used (by simpa using own))

end FederationSplit.Federation
