import FederationSplit.Proofs.Federation.Markers
import FederationSplit.Proofs.Federation.Rewriting
import FederationSplit.Proofs.Federation.Serving

namespace FederationSplit.Federation

open FederationSplit.Syntax
open FederationSplit.Schema
open FederationSplit.Settings

/-- Does a usage belong to the service alone, and neither to composition nor to federation? -/
def isOwnUsage (usage : DirectiveUsage) : Bool :=
  !isCompositionName usage.name && !federationDirectives.contains usage.name

def ownUsages (usages : List DirectiveUsage) : List DirectiveUsage :=
  usages.filter isOwnUsage

private theorem filter_withoutFederationUsages (usages : List DirectiveUsage) :
    (withoutFederationUsages usages).filter (!isCompositionName ·.name) = ownUsages usages := by
  rw [withoutFederationUsages, List.filter_filter]
  rfl

private theorem filter_markers {graph : Name} {markers : List DirectiveUsage}
    (all : ∀ usage ∈ markers, IsMarker graph usage) :
    markers.filter (!isCompositionName ·.name) = [] := by
  rw [List.filter_eq_nil_iff]
  intro usage member
  rw [(all usage member).composition]
  exact Bool.false_ne_true

theorem ownMarkers_name (graph : Name) (type : TypeDefinition) :
    ∀ marker ∈ ownMarkers graph type, marker.name = typeMarker := by
  have single : ∀ other ∈ [marker typeMarker graph []], other.name = typeMarker := by
    intro other member
    rw [List.mem_singleton.mp member]
    rfl
  have keys : ∀ other ∈ typeMarkers graph type.directives, other.name = typeMarker := by
    unfold typeMarkers
    split
    · exact single
    · intro other member
      obtain ⟨key, _, rfl⟩ := List.mem_map.mp member
      rfl
  unfold ownMarkers
  split
  · exact keys
  · exact keys
  · exact single

theorem memberMarkers_name (graph : Name) (body : TypeBody) :
    ∀ marker ∈ memberMarkers graph body,
      marker.name = "join__implements" ∨ marker.name = "join__unionMember" := by
  intro other member
  cases body with
  | object interfaces fields | interface interfaces fields =>
      obtain ⟨name, _, rfl⟩ := List.mem_map.mp member
      exact .inl rfl
  | union members =>
      obtain ⟨name, _, rfl⟩ := List.mem_map.mp member
      exact .inr rfl
  | scalar | enum | inputObject => cases member

theorem filter_directives_composeType (graph : Name) (type : TypeDefinition) :
    (composeType graph type).directives.filter (!isCompositionName ·.name) =
      ownUsages type.directives := by
  rw [composeType, List.filter_append, List.filter_append,
    filter_markers (isMarker_ownMarkers graph type),
    filter_markers (isMarker_memberMarkers graph type.body),
    filter_withoutFederationUsages, List.append_nil, List.append_nil]

private theorem mapUsages_composeInputValue (definition : InputValueDefinition) :
    (composeInputValue definition).mapUsages (·.filter (!isCompositionName ·.name)) =
      definition.mapUsages ownUsages := by
  rw [composeInputValue, InputValueDefinition.mapUsages, InputValueDefinition.mapUsages,
    filter_withoutFederationUsages]

private theorem mapUsages_composeField (graph : Name) (definition : FieldDefinition) :
    (composeField graph definition).mapUsages (·.filter (!isCompositionName ·.name)) =
      definition.mapUsages ownUsages := by
  have markers := filter_markers (isMarker_fieldMarkers graph definition.directives)
  have arguments : (definition.arguments.map composeInputValue).map
      (InputValueDefinition.mapUsages (·.filter (!isCompositionName ·.name))) =
      definition.arguments.map (InputValueDefinition.mapUsages ownUsages) := by
    rw [List.map_map]
    apply List.map_congr_left
    intro argument _
    exact mapUsages_composeInputValue argument
  rw [composeField, FieldDefinition.mapUsages, FieldDefinition.mapUsages, arguments,
    List.filter_append, filter_withoutFederationUsages, markers, List.append_nil]

private theorem mapUsages_composeEnumValue (graph : Name) (definition : EnumValueDefinition) :
    (composeEnumValue graph definition).mapUsages (·.filter (!isCompositionName ·.name)) =
      definition.mapUsages ownUsages := by
  have marked : [marker "join__enumValue" graph []].filter (!isCompositionName ·.name) = [] :=
    filter_markers (List.forall_mem_singleton.mpr (isMarker_valueMarker graph))
  rw [composeEnumValue, EnumValueDefinition.mapUsages, EnumValueDefinition.mapUsages,
    List.filter_append, filter_withoutFederationUsages, marked, List.append_nil]

theorem mapUsages_composeBody (graph : Name) (body : TypeBody) :
    (composeBody graph body).mapUsages (·.filter (!isCompositionName ·.name)) =
      body.mapUsages ownUsages := by
  cases body with
  | scalar | union => rfl
  | object interfaces fields | interface interfaces fields =>
      simp only [composeBody, TypeBody.mapUsages, List.map_map]
      congr 1
      apply List.map_congr_left
      intro field _
      exact mapUsages_composeField graph field
  | enum values =>
      simp only [composeBody, TypeBody.mapUsages, List.map_map]
      congr 1
      apply List.map_congr_left
      intro value _
      exact mapUsages_composeEnumValue graph value
  | inputObject fields =>
      simp only [composeBody, TypeBody.mapUsages, List.map_map]
      congr 1
      apply List.map_congr_left
      intro field _
      exact mapUsages_composeInputValue field

@[simp] theorem kind_composeType (graph : Name) (type : TypeDefinition) :
    (composeType graph type).kind = type.kind := by
  rw [TypeDefinition.kind, composeType, TypeDefinition.kind]
  cases type.body <;> rfl

@[simp] theorem name_composeType (graph : Name) (type : TypeDefinition) :
    (composeType graph type).name = type.name := rfl

/-- Is a type of a service kept, and not taken for or replaced by one of composition? -/
def isKept (type : TypeDefinition) : Bool :=
  !isCompositionType type && type.name != "join__FieldSet" && type.name != "join__Graph"

def composedTypes (service : String) (definitions : Definitions) : List TypeDefinition :=
  definitions.types.map (composeType (graphName service))

def suppliedTypes (service : String) : List TypeDefinition :=
  supergraphTypes ++ [graphEnum service]

/-- The names of the types that a supergraph has besides those of its service. -/
def suppliedNames : List Name :=
  ["join__FieldSet", "link__Import", "link__Purpose", "join__Graph"]

theorem map_name_suppliedTypes (service : String) :
    (suppliedTypes service).map (·.name) = suppliedNames := rfl

theorem distinctNames_suppliedTypes (service : String) :
    DistinctNames (suppliedTypes service) :=
  (by decide : suppliedNames.Nodup)

private theorem supergraph_types_eq (service : String) (definitions : Definitions) :
    (supergraph service definitions).types =
      (suppliedTypes service).foldl (fun types type => setType type types)
        (composedTypes service definitions) := rfl

theorem map_name_composedTypes (service : String) (definitions : Definitions) :
    (composedTypes service definitions).map (·.name) = definitions.types.map (·.name) := by
  rw [composedTypes, List.map_map]
  rfl

private theorem distinctNames_composedTypes {definitions : Definitions}
    (distinct : DistinctNames definitions.types) (service : String) :
    DistinctNames (composedTypes service definitions) := by
  rwa [DistinctNames, map_name_composedTypes]

theorem distinctNames_supergraph {definitions : Definitions}
    (distinct : DistinctNames definitions.types) (service : String) :
    DistinctNames (supergraph service definitions).types := by
  rw [supergraph_types_eq]
  exact (distinctNames_composedTypes distinct service).foldl_setType

theorem mem_names_supergraph {service : String} {definitions : Definitions} {name : Name} :
    name ∈ (supergraph service definitions).types.map (·.name) ↔
      name ∈ suppliedNames ∨ name ∈ definitions.types.map (·.name) := by
  rw [supergraph_types_eq, mem_names_foldl_setType, map_name_suppliedTypes,
    map_name_composedTypes]

/-- The names of a supergraph: those of its service in order, then those that are new. -/
theorem map_name_supergraph (service : String) (definitions : Definitions) :
    (supergraph service definitions).types.map (·.name) =
      definitions.types.map (·.name) ++
        suppliedNames.filter (!(definitions.types.map (·.name)).contains ·) := by
  rw [supergraph_types_eq, map_name_foldl_setType (distinctNames_suppliedTypes service),
    map_name_composedTypes, map_name_suppliedTypes]

theorem mem_supergraph_types {definitions : Definitions}
    (distinct : DistinctNames definitions.types) {service : String} {type : TypeDefinition} :
    type ∈ (supergraph service definitions).types ↔
      type ∈ suppliedTypes service ∨
        ∃ original ∈ definitions.types, original.name ∉ suppliedNames ∧
          composeType (graphName service) original = type := by
  rw [supergraph_types_eq, mem_foldl_setType (distinctNames_composedTypes distinct service)
    (distinctNames_suppliedTypes service), map_name_suppliedTypes]
  apply or_congr_right
  constructor
  · rintro ⟨member, other⟩
    obtain ⟨original, originalMember, rfl⟩ := List.mem_map.mp member
    exact ⟨original, originalMember, other, rfl⟩
  · rintro ⟨original, originalMember, other, rfl⟩
    exact ⟨List.mem_map_of_mem originalMember, other⟩

theorem keptTypes_supergraph {definitions : Definitions} (served : Served definitions)
    (service : String) :
    (supergraph service definitions).types.filter (!isCompositionType ·) =
      (definitions.types.filter isKept).map (composeType (graphName service)) ++
        [linkImport, describedLinkPurpose] := by
  have distinct := distinctNames_composedTypes served.distinct service
  have unlinked {name : Name} (owned : name ∈ federationTypes)
      (other : name ≠ "join__FieldSet") : name ∉
      (setType (scalarType "join__FieldSet") (composedTypes service definitions)).map
        (·.name) := by
    rw [mem_names_setType, map_name_composedTypes]
    rintro (same | member)
    · exact other same
    · obtain ⟨type, typeMember, rfl⟩ := List.mem_map.mp member
      exact served.types type typeMember owned
  have importFresh : linkImport.name ∉
      (setType (scalarType "join__FieldSet") (composedTypes service definitions)).map (·.name) :=
    unlinked (by decide) (by decide)
  have purposeFresh : describedLinkPurpose.name ∉
      (setType linkImport (setType (scalarType "join__FieldSet")
        (composedTypes service definitions))).map (·.name) := by
    rw [mem_names_setType]
    rintro (same | member)
    · revert same
      decide
    · exact unlinked (by decide) (by decide) member
  have graphDropped : (!isCompositionType (graphEnum service)) = false :=
    (by decide : (!isCompositionName "join__Graph") = false)
  have fieldSetDropped : (!isCompositionType (scalarType "join__FieldSet") &&
      (scalarType "join__FieldSet").name != (graphEnum service).name) = false :=
    (by decide : (!isCompositionName "join__FieldSet" && "join__FieldSet" != "join__Graph") = false)
  have nested : (supergraph service definitions).types =
      setType (graphEnum service) (setType describedLinkPurpose (setType linkImport
        (setType (scalarType "join__FieldSet") (composedTypes service definitions)))) := rfl
  rw [nested, filter_setType distinct.setType.setType.setType graphDropped,
    setType_of_notMem purposeFresh, setType_of_notMem importFresh, List.append_assoc,
    List.filter_append, filter_setType distinct fieldSetDropped, composedTypes, List.filter_map]
  congr 2
  apply List.filter_congr
  intro type _
  have same : isCompositionType (composeType (graphName service) type) =
      isCompositionType type := isCompositionType_congr rfl (kind_composeType ..)
  simp only [Function.comp_apply, same, isKept, name_composeType]
  exact Bool.and_right_comm ..

theorem mem_supergraph_of_object {definitions : Definitions} (served : Served definitions)
    {service : String} {type : TypeDefinition}
    (member : type ∈ (supergraph service definitions).types) (object : type.kind = .object) :
    ∃ original ∈ definitions.types, isKept original = true ∧
      composeType (graphName service) original = type := by
  have linksOther : ∀ link ∈ [linkImport, describedLinkPurpose], link.kind ≠ .object := by
    decide
  have kept : type ∈ (supergraph service definitions).types.filter (!isCompositionType ·) :=
    List.mem_filter.mpr ⟨member, by rw [survives_of_kind_object object]; rfl⟩
  rw [keptTypes_supergraph served, List.mem_append] at kept
  rcases kept with own | link
  · obtain ⟨original, originalKept, composed⟩ := List.mem_map.mp own
    obtain ⟨originalMember, isKept⟩ := List.mem_filter.mp originalKept
    exact ⟨original, originalMember, isKept, composed⟩
  · exact absurd object (linksOther type link)

theorem missingLinkTypes_supergraph (service : String) (definitions : Definitions) :
    missingLinkTypes (supergraph service definitions) = [] := by
  have declared (name : Name)
      (added : name ∈ suppliedNames) :
      ((supergraph service definitions).type? name).isSome :=
    findType?_isSome_iff.mpr (mem_names_supergraph.mpr (.inl added))
  rw [missingLinkTypes, List.filter_eq_nil_iff]
  intro type member
  simp only [linkTypes, List.mem_cons, List.not_mem_nil, or_false] at member
  rcases member with rfl | rfl
  · simp [Option.isSome_iff_ne_none.mp (declared linkImport.name (by decide))]
  · simp [Option.isSome_iff_ne_none.mp (declared linkPurpose.name (by decide))]

theorem filter_directives_supergraph (service : String) (definitions : Definitions) :
    (supergraph service definitions).directives.filter (!isCompositionName ·.name) =
      linkDirective (.named "String") ::
        definitions.directives.filter (!isCompositionName ·.name) := by
  have own : supergraphDirectives.filter (!isCompositionName ·.name) =
      [linkDirective (.named "String")] := rfl
  rw [supergraph, List.filter_append, own]
  rfl

theorem missingLinkDirective_supergraph (service : String) (definitions : Definitions) :
    missingLinkDirective (supergraph service definitions) = [] := by
  have own : (supergraphDirectives.find? (·.name == "link")).isSome := by decide
  have declared : ((supergraph service definitions).directive? "link").isSome := by
    rw [SchemaDocument.directive?, supergraph, List.find?_append, Option.isSome_or, own]
    rfl
  rw [missingLinkDirective, if_pos declared]

theorem unclaimed_supergraph {definitions : Definitions} (served : Served definitions)
    (service : String) (emits : Bool) : Unclaimed emits (supergraph service definitions) := by
  have free {name : Name} (owned : name ∈ federationTypes)
      (other : name ∉ suppliedNames) :
      name ∉ (supergraph service definitions).types.map (·.name) := by
    rw [mem_names_supergraph]
    rintro (added | member)
    · exact other added
    · obtain ⟨type, typeMember, rfl⟩ := List.mem_map.mp member
      exact served.types type typeMember owned
  constructor
  case any => exact free (by decide) (by decide)
  case fieldSet => exact free (by decide) (by decide)
  case union => exact fun _ => free (by decide) (by decide)
  case field =>
    intro _ type member isQuery field fieldMember named
    rw [isQueryType_iff] at isQuery
    obtain ⟨original, originalMember, -, rfl⟩ :=
      mem_supergraph_of_object served member isQuery.1
    rw [kind_composeType] at isQuery
    have fieldNames : field.name ∈ original.body.fields.map (·.name) := by
      revert fieldMember
      rw [composeType]
      cases original.body with
      | object interfaces fields | interface interfaces fields =>
          intro fieldMember
          obtain ⟨source, sourceMember, rfl⟩ := List.mem_map.mp fieldMember
          exact List.mem_map.mpr ⟨source, sourceMember, rfl⟩
      | scalar | union | enum | inputObject =>
          intro fieldMember
          cases fieldMember
    obtain ⟨source, sourceMember, sameName⟩ := List.mem_map.mp fieldNames
    apply served.fields original originalMember isQuery.1 isQuery.2 source sourceMember
    rw [sameName, named]
    decide
  case directives =>
    intro directive member
    have ownFree : ∀ own ∈ supergraphDirectives, isScaffoldDirective own.name = false := by
      decide
    rcases List.mem_append.mp member with own | serviceMember
    · exact ownFree directive own
    · rw [Bool.eq_false_iff]
      intro taken
      apply served.directives directive serviceMember
      rcases isScaffoldDirective_iff.mp taken with named | named <;>
        · rw [named]
          decide

/-! ### The rewritten supergraph -/

theorem queryType?_supergraph_isSome {definitions : Definitions} (served : Served definitions)
    (service : String) :
    (supergraph service definitions).queryType?.isSome ↔
      ∃ type ∈ definitions.types, isKept type = true ∧ type.kind = .object ∧
        definitions.rootTypes.query = some type.name := by
  have distinct := distinctNames_supergraph served.distinct service
  rw [Option.isSome_iff_exists]
  simp only [queryType?_eq_some_iff distinct]
  constructor
  · rintro ⟨query, member, isQuery⟩
    rw [isQueryType_iff] at isQuery
    obtain ⟨type, typeMember, isKept, rfl⟩ := mem_supergraph_of_object served member isQuery.1
    rw [kind_composeType] at isQuery
    exact ⟨type, typeMember, isKept, isQuery⟩
  · rintro ⟨type, typeMember, isKept, object, root⟩
    have kept : composeType (graphName service) type ∈
        (supergraph service definitions).types.filter (!isCompositionType ·) := by
      rw [keptTypes_supergraph served]
      exact List.mem_append_left _
        (List.mem_map_of_mem (List.mem_filter.mpr ⟨typeMember, isKept⟩))
    exact ⟨_, List.mem_of_mem_filter kept,
      isQueryType_iff.mpr ⟨(kind_composeType ..).trans object, root⟩⟩

theorem keyedTypes_supergraph {definitions : Definitions} (served : Served definitions)
    (service : String) (selection : MarkerSelection) :
    keyedTypes selection (supergraph service definitions) =
      ((definitions.types.filter isKept).filter fun type =>
        (selectedMarkers selection (composeType (graphName service) type)).any isKeyed).map
          (·.name) := by
  have entity (type : TypeDefinition) :
      (selectedMarkers selection type).any isKeyed = isEntity selection type :=
    (isEntity_eq selection type).symm
  have dropped : (supergraph service definitions).types.filter (isEntity selection) =
      ((supergraph service definitions).types.filter (!isCompositionType ·)).filter
        (isEntity selection) := by
    rw [List.filter_filter]
    apply List.filter_congr
    intro type _
    by_cases isEntityType : isEntity selection type = true
    · rw [isEntityType, survives_of_kind_object (kind_of_isEntity isEntityType)]
      rfl
    · rw [Bool.eq_false_iff.mpr isEntityType, Bool.false_and]
  have links : [linkImport, describedLinkPurpose].filter (isEntity selection) = [] := by
    cases selection <;> rfl
  simp only [keyedTypes, entity]
  rw [dropped, keptTypes_supergraph served, List.filter_append, links, List.append_nil,
    List.filter_map, List.map_map]
  rfl

theorem cleanedType_composeType (config : Config) (service : String) (definitions : Definitions)
    (type : TypeDefinition) :
    cleanedType config (supergraph service definitions)
        (composeType (graphName service) type) =
      { type with
        directives :=
          if isRootObject (supergraph service definitions) type then []
          else ownUsages type.directives ++
            (selectedMarkers config.markerSelection
              (composeType (graphName service) type)).map federationUsage
        body := type.body.mapUsages ownUsages } := by
  have sameRoot : isRootObject (supergraph service definitions)
      (composeType (graphName service) type) =
      isRootObject (supergraph service definitions) type :=
    isRootObject_congr rfl rfl (kind_composeType ..)
  rw [cleanedType, sameRoot, filter_directives_composeType]
  simp only [composeType, mapUsages_composeBody]

theorem rewrite_supergraph_types {definitions : Definitions} (served : Served definitions)
    (config : Config) (service : String) :
    (rewrite config (supergraph service definitions)).types =
      (definitions.types.filter isKept).map (fun type =>
          rewrittenType config (supergraph service definitions)
            (composeType (graphName service) type)) ++
        [linkImport, describedLinkPurpose, scalarType anyScalar, scalarType fieldSetScalar] ++
        if emits config (supergraph service definitions) then
          [unionOf (keyedTypes config.markerSelection (supergraph service definitions))]
        else [] := by
  have links : [linkImport, describedLinkPurpose].map
      (rewrittenType config (supergraph service definitions)) =
      [linkImport, describedLinkPurpose] := by
    have unchanged {type : TypeDefinition} (bare : type.directives = [])
        (other : type.kind ≠ .object) (plain : filterBody type.body = type.body) :
        rewrittenType config (supergraph service definitions) type = type := by
      have noQuery : isQueryType (supergraph service definitions) type = false := by
        simp [isQueryType, other]
      rw [rewrittenType, noQuery, Bool.and_false, if_neg Bool.false_ne_true, ← prunedType_eq,
        prunedType, prunedUsages_of_bare _ _ bare other, plain, ← bare]
    rw [List.map_cons, List.map_cons, unchanged rfl (by decide) rfl,
      unchanged rfl (by decide) rfl]
    rfl
  rw [rewrite]
  simp only
  rw [keptTypes_supergraph served, List.map_append, List.map_map, links,
    missingLinkTypes_supergraph, List.append_nil, List.append_assoc _ [linkImport, _]]
  rfl

theorem rewrite_supergraph_directives (config : Config) (service : String)
    (definitions : Definitions) :
    (rewrite config (supergraph service definitions)).directives =
      linkDirective (.named "String") ::
        definitions.directives.filter (!isCompositionName ·.name) ++
        [keyDirective, shareableDirective] := by
  rw [rewrite]
  simp only
  rw [filter_directives_supergraph, missingLinkDirective_supergraph, List.append_nil]

/-- A composed service is split into its rewriting, if it is split at all. -/
theorem transform_supergraph_ok {definitions : Definitions} (served : Served definitions)
    {config : Config} {service : String} {result : SchemaDocument}
    (transformed : transform config (supergraph service definitions) = .ok result) :
    result = rewrite config (supergraph service definitions) := by
  have distinct := distinctNames_supergraph served.distinct service
  have query := queryType?_isSome_of_transform distinct transformed
  have splittable : Splittable config (supergraph service definitions) :=
    { query
      entity := by
        intro strict none
        rw [transform_of_noEntity distinct query strict none] at transformed
        cases transformed
      unclaimed := unclaimed_supergraph served service _ }
  rw [transform_of_splittable distinct splittable] at transformed
  exact (Except.ok.inj transformed).symm

end FederationSplit.Federation
