import FederationSplit.Federation.Subgraph
import FederationSplit.Proofs.Schema.TypeNames
import FederationSplit.Proofs.Schema.Usages

namespace FederationSplit.Federation

open FederationSplit.Syntax
open FederationSplit.Schema
open FederationSplit.Settings

theorem strippedUsages?_getD (usages : List DirectiveUsage) :
    (strippedUsages? usages).getD usages = withoutArtifacts usages := by
  unfold strippedUsages?
  split
  · rfl
  · next spared =>
      have clean : ∀ usage ∈ usages, !isArtifact usage := by
        simpa [hasArtifact] using spared
      exact (List.filter_eq_self.mpr clean).symm

theorem changedItems?_getD {α : Type} (change? : α → Option α) (items : List α) :
    (changedItems? change? items).getD items =
      items.map fun item => (change? item).getD item := by
  unfold changedItems?
  split
  · rfl
  · next spared =>
      have unchanged : ∀ item ∈ items, (change? item).getD item = item := by
        intro item member
        have none : change? item = none := by
          simp only [List.any_eq_true, not_exists, not_and] at spared
          exact Option.not_isSome_iff_eq_none.mp (spared item member)
        rw [none, Option.getD_none]
      rw [List.map_congr_left unchanged, List.map_id', Option.getD_none]

theorem strippedInputValue?_getD (definition : InputValueDefinition) :
    (strippedInputValue? definition).getD definition = filterInputValue definition := by
  rw [filterInputValue, ← strippedUsages?_getD, strippedInputValue?]
  cases strippedUsages? definition.directives <;> rfl

theorem strippedEnumValue?_getD (definition : EnumValueDefinition) :
    (strippedEnumValue? definition).getD definition = filterEnumValue definition := by
  rw [filterEnumValue, ← strippedUsages?_getD, strippedEnumValue?]
  cases strippedUsages? definition.directives <;> rfl

private theorem changedItems?_getD_of_getD {α : Type} {change? : α → Option α} {change : α → α}
    (agrees : ∀ item, (change? item).getD item = change item) (items : List α) :
    (changedItems? change? items).getD items = items.map change := by
  rw [changedItems?_getD]
  exact List.map_congr_left fun item _ => agrees item

theorem strippedField?_getD (definition : FieldDefinition) :
    (strippedField? definition).getD definition = filterField definition := by
  rw [filterField, ← strippedUsages?_getD, strippedField?,
    ← changedItems?_getD_of_getD strippedInputValue?_getD]
  cases strippedUsages? definition.directives <;>
    cases changedItems? strippedInputValue? definition.arguments <;> rfl

theorem strippedBody?_getD (body : TypeBody) :
    (strippedBody? body).getD body = filterBody body := by
  cases body with
  | scalar | union => rfl
  | object interfaces fields =>
      rw [filterBody, strippedBody?, ← changedItems?_getD_of_getD strippedField?_getD]
      cases changedItems? strippedField? fields <;> rfl
  | interface interfaces fields =>
      rw [filterBody, strippedBody?, ← changedItems?_getD_of_getD strippedField?_getD]
      cases changedItems? strippedField? fields <;> rfl
  | enum values =>
      rw [filterBody, strippedBody?, ← changedItems?_getD_of_getD strippedEnumValue?_getD]
      cases changedItems? strippedEnumValue? values <;> rfl
  | inputObject fields =>
      rw [filterBody, strippedBody?, ← changedItems?_getD_of_getD strippedInputValue?_getD]
      cases changedItems? strippedInputValue? fields <;> rfl

theorem strippedType?_getD (type : TypeDefinition) :
    (strippedType? type).getD type = filterType type := by
  rw [filterType, ← strippedUsages?_getD, ← strippedBody?_getD, strippedType?]
  cases strippedUsages? type.directives <;> cases strippedBody? type.body <;> rfl

theorem filterBody_eq_mapUsages (body : TypeBody) :
    filterBody body = body.mapUsages withoutArtifacts := by
  cases body <;> rfl

@[simp] theorem kind_filterBody (body : TypeBody) : (filterBody body).kind = body.kind := by
  rw [filterBody_eq_mapUsages, TypeBody.kind_mapUsages]

theorem classifyMarkers_name {selection : MarkerSelection} {markers : List DirectiveUsage}
    {usage : DirectiveUsage} (member : usage ∈ classifyMarkers selection markers) :
    usage.name = "key" ∨ usage.name = "shareable" := by
  have federation (marker : DirectiveUsage) :
      (federationUsage marker).name = "key" ∨ (federationUsage marker).name = "shareable" := by
    unfold federationUsage
    split
    · exact .inl rfl
    · exact .inr rfl
  unfold classifyMarkers at member
  split at member
  · simp at member
  · rw [List.mem_singleton] at member
    exact member ▸ federation _
  · split at member
    · rw [List.mem_singleton] at member
      exact .inr (member ▸ rfl)
    · obtain ⟨marker, _, rfl⟩ := List.mem_map.mp member
      exact federation marker

theorem classifyType_name {selection : MarkerSelection} {type : TypeDefinition}
    {usage : DirectiveUsage} (member : usage ∈ classifyType selection type) :
    usage.name = "key" ∨ usage.name = "shareable" := by
  unfold classifyType at member
  split at member
  · exact classifyMarkers_name member
  · simp at member

theorem classifyType_of_kind_ne {type : TypeDefinition} (other : type.kind ≠ .object)
    (selection : MarkerSelection) : classifyType selection type = [] := by
  unfold classifyType
  split
  · next object => exact absurd object other
  · rfl

theorem withoutArtifacts_classifyType (selection : MarkerSelection) (type : TypeDefinition) :
    withoutArtifacts (classifyType selection type) = classifyType selection type := by
  apply List.filter_eq_self.mpr
  intro usage member
  have plain : isArtifact usage = false := by
    unfold isArtifact
    rcases classifyType_name member with named | named <;> rw [named] <;> decide
  rw [plain]
  rfl

/-- The usages that pruning leaves on a type: none on a root object type. -/
def prunedUsages (selection : MarkerSelection) (schema : SchemaDocument) (type : TypeDefinition) :
    List DirectiveUsage :=
  if isRootObject schema type then []
  else withoutArtifacts type.directives ++ classifyType selection type

/-- What pruning makes of a type that it keeps. -/
def prunedType (selection : MarkerSelection) (schema : SchemaDocument) (type : TypeDefinition) :
    TypeDefinition :=
  { type with
    directives := prunedUsages selection schema type
    body := filterBody type.body }

def missingLinkTypes (schema : SchemaDocument) : List TypeDefinition :=
  linkTypes.filter fun type => (schema.type? type.name).isNone

def missingLinkDirective (schema : SchemaDocument) : List DirectiveDefinition :=
  if (schema.directive? "link").isSome then [] else [linkDirective (required "String")]

theorem mem_missingLinkDirective_iff {schema : SchemaDocument}
    {directive : DirectiveDefinition} :
    directive ∈ missingLinkDirective schema ↔
      (∀ own ∈ schema.directives, own.name ≠ "link") ∧
        directive = linkDirective (required "String") := by
  unfold missingLinkDirective
  split
  · next declared =>
      simp only [SchemaDocument.directive?, List.find?_isSome, beq_iff_eq] at declared
      obtain ⟨own, member, named⟩ := declared
      exact iff_of_false List.not_mem_nil fun missing => missing.1 own member named
  · next missing =>
      simp only [SchemaDocument.directive?, List.find?_isSome, beq_iff_eq, not_exists,
        not_and] at missing
      rw [List.mem_singleton]
      exact (and_iff_right missing).symm

def keptTypes (schema : SchemaDocument) : List TypeDefinition :=
  schema.types.filter (!isCompositionType ·)

theorem mem_names_keptTypes {schema : SchemaDocument} {name : Name}
    (plain : isCompositionName name = false) :
    name ∈ (keptTypes schema).map (·.name) ↔ name ∈ schema.types.map (·.name) := by
  constructor
  · intro member
    obtain ⟨type, kept, rfl⟩ := List.mem_map.mp member
    exact List.mem_map_of_mem (List.mem_of_mem_filter kept)
  · intro member
    obtain ⟨type, typeMember, rfl⟩ := List.mem_map.mp member
    have survives : isCompositionType type = false := by
      unfold isCompositionType
      split <;> first | exact plain | rfl
    refine List.mem_map_of_mem (List.mem_filter.mpr ⟨typeMember, ?_⟩)
    rw [survives]
    rfl

@[simp] theorem name_prunedType (selection : MarkerSelection) (schema : SchemaDocument)
    (type : TypeDefinition) : (prunedType selection schema type).name = type.name := rfl

@[simp] theorem kind_prunedType (selection : MarkerSelection) (schema : SchemaDocument)
    (type : TypeDefinition) : (prunedType selection schema type).kind = type.kind :=
  kind_filterBody type.body

theorem isCompositionType_congr {type other : TypeDefinition} (sameName : type.name = other.name)
    (sameKind : type.kind = other.kind) : isCompositionType type = isCompositionType other := by
  unfold isCompositionType
  rw [sameName, sameKind]

theorem isRootObject_congr {schema others : SchemaDocument} {type other : TypeDefinition}
    (sameRoots : schema.rootTypes = others.rootTypes) (sameName : type.name = other.name)
    (sameKind : type.kind = other.kind) : isRootObject schema type = isRootObject others other := by
  unfold isRootObject SchemaDocument.isRootType
  rw [sameRoots, sameName, sameKind]

theorem prunedUsages_of_bare (selection : MarkerSelection) (schema : SchemaDocument)
    {type : TypeDefinition} (bare : type.directives = []) (other : type.kind ≠ .object) :
    prunedUsages selection schema type = [] := by
  have notRoot : isRootObject schema type = false := by simp [isRootObject, other]
  rw [prunedUsages, notRoot, bare, classifyType_of_kind_ne other]
  rfl

private theorem prunedType_of_mem_linkTypes (selection : MarkerSelection) (schema : SchemaDocument)
    {type : TypeDefinition} (member : type ∈ linkTypes) :
    prunedType selection schema type = type ∧ isCompositionType type = false := by
  simp only [linkTypes, List.mem_cons, List.not_mem_nil, or_false] at member
  rcases member with rfl | rfl
  · exact ⟨by rw [prunedType, prunedUsages_of_bare _ _ rfl (by decide)]; rfl, by decide⟩
  · exact ⟨by rw [prunedType, prunedUsages_of_bare _ _ rfl (by decide)]; rfl, by decide⟩

theorem annotate_types (url : String) (schema : SchemaDocument) :
    (annotate url schema).types = schema.types ++ missingLinkTypes schema := by
  unfold annotate declareLinkTypes declareLinkDirective
  split <;> rfl

private theorem declareLinkDirective_directives (schema : SchemaDocument) :
    (declareLinkDirective schema).directives =
      schema.directives ++ missingLinkDirective schema := by
  unfold declareLinkDirective missingLinkDirective
  split
  · exact (List.append_nil _).symm
  · rfl

theorem annotate_directives (url : String) (schema : SchemaDocument) :
    (annotate url schema).directives = schema.directives ++ missingLinkDirective schema :=
  declareLinkDirective_directives { schema with schemaDirectives := [linkUsage url] }

theorem annotate_rootTypes (url : String) (schema : SchemaDocument) :
    (annotate url schema).rootTypes = schema.rootTypes := by
  unfold annotate declareLinkTypes declareLinkDirective
  split <;> rfl

theorem annotate_schemaDirectives (url : String) (schema : SchemaDocument) :
    (annotate url schema).schemaDirectives = [linkUsage url] := by
  unfold annotate declareLinkTypes declareLinkDirective
  split <;> rfl

theorem annotate_eq (url : String) (schema : SchemaDocument) :
    annotate url schema =
      { types := schema.types ++ missingLinkTypes schema
        directives := schema.directives ++ missingLinkDirective schema
        schemaDirectives := [linkUsage url]
        rootTypes := schema.rootTypes } := by
  rw [← annotate_types url, ← annotate_directives url, ← annotate_schemaDirectives url schema,
    ← annotate_rootTypes url schema]

/-- The steps behind the link, as one map over the types that are kept. -/
private theorem prune_types_of_annotated (config : Config) (schema : SchemaDocument) :
    (prune config schema).types =
      (((annotate config.federationUrl schema).types).filter (!isCompositionType ·)).map
        (prunedType config.markerSelection schema) := by
  have step (type : TypeDefinition) :
      (fun stripped : TypeDefinition =>
          if isRootObject (annotate config.federationUrl schema) stripped then
            { stripped with directives := [] } else stripped)
        (filterType { type with
          directives := type.directives ++ classifyType config.markerSelection type }) =
      prunedType config.markerSelection schema type := by
    -- No step before the last changes a name or a kind, so the roots are those of the source.
    have sameRoot : isRootObject (annotate config.federationUrl schema)
        (filterType { type with
          directives := type.directives ++ classifyType config.markerSelection type }) =
        isRootObject schema type :=
      isRootObject_congr (annotate_rootTypes ..) rfl (kind_filterBody type.body)
    simp only [sameRoot, prunedType, prunedUsages]
    split
    · rfl
    · simp only [filterType, withoutArtifacts, List.filter_append]
      rw [← withoutArtifacts, ← withoutArtifacts, withoutArtifacts_classifyType]
  have same (type : TypeDefinition) :
      isCompositionType (prunedType config.markerSelection schema type) =
        isCompositionType type :=
    isCompositionType_congr (name_prunedType ..) (kind_prunedType ..)
  calc (prune config schema).types
      = ((((annotate config.federationUrl schema).types.map fun type =>
            { type with
              directives := type.directives ++ classifyType config.markerSelection type }).map
          fun type => (strippedType? type).getD type).map fun type =>
            if isRootObject (annotate config.federationUrl schema) type then
              { type with directives := [] } else type).filter (!isCompositionType ·) := rfl
    _ = ((annotate config.federationUrl schema).types.map
          (prunedType config.markerSelection schema)).filter (!isCompositionType ·) := by
        simp only [List.map_map]
        congr 1
        apply List.map_congr_left
        intro type _
        simp only [Function.comp_apply, strippedType?_getD]
        exact step type
    _ = _ := by
        rw [List.filter_map]
        congr 2
        funext type
        simp only [Function.comp_apply, same]

theorem prune_types (config : Config) (schema : SchemaDocument) :
    (prune config schema).types =
      (keptTypes schema).map (prunedType config.markerSelection schema) ++
        missingLinkTypes schema := by
  have link {type : TypeDefinition} (member : type ∈ missingLinkTypes schema) :=
    prunedType_of_mem_linkTypes config.markerSelection schema (List.mem_of_mem_filter member)
  have allKept : (missingLinkTypes schema).filter (!isCompositionType ·) =
      missingLinkTypes schema :=
    List.filter_eq_self.mpr fun type member => by rw [(link member).2]; rfl
  have unchanged : (missingLinkTypes schema).map (prunedType config.markerSelection schema) =
      missingLinkTypes schema := by
    rw [List.map_congr_left fun type member => (link member).1, List.map_id']
  rw [prune_types_of_annotated, annotate_types, List.filter_append, List.map_append, allKept,
    unchanged]
  rfl

theorem prune_directives (config : Config) (schema : SchemaDocument) :
    (prune config schema).directives =
      schema.directives.filter (!isCompositionName ·.name) ++ missingLinkDirective schema := by
  have allKept : (missingLinkDirective schema).filter (!isCompositionName ·.name) =
      missingLinkDirective schema := by
    unfold missingLinkDirective
    split <;> rfl
  change (annotate config.federationUrl schema).directives.filter _ = _
  rw [annotate_directives, List.filter_append, allKept]

theorem prune_schemaDirectives (config : Config) (schema : SchemaDocument) :
    (prune config schema).schemaDirectives = [linkUsage config.federationUrl] :=
  annotate_schemaDirectives config.federationUrl schema

theorem prune_rootTypes (config : Config) (schema : SchemaDocument) :
    (prune config schema).rootTypes = schema.rootTypes :=
  annotate_rootTypes config.federationUrl schema

end FederationSplit.Federation
