import FederationSplit.Proofs.Federation.CompositionRules
import FederationSplit.Proofs.Federation.ScaffoldRules

namespace FederationSplit.Federation

open FederationSplit.Syntax
open FederationSplit.Schema
open FederationSplit.Rules
open FederationSplit.Settings
open FederationSplit.TypeSystem

/-- The names of the types of a service that do not get into its subgraph. -/
def lostNames (definitions : Definitions) : List Name :=
  (definitions.types.filter (!isKept ·)).map (·.name)

/-- Nothing in the subgraph of a service refers to what is lost. -/
structure SelfContained (definitions : Definitions) : Prop where
  roots : ∀ item ∈ definitions.rootTypes.items, item.2 ∉ lostNames definitions
  types : ∀ type ∈ definitions.types, isKept type = true →
    ∀ name ∈ Declarations.referencedNames type, name ∉ lostNames definitions
  arguments : ∀ directive ∈ definitions.directives, isCompositionName directive.name = false →
    ∀ argument ∈ directive.arguments,
      argument.type.baseName ∉ lostNames definitions ∧
        ∀ usage ∈ argument.directives, isOwnUsage usage = true

def subgraphKnown (config : Config) (service : String) (definitions : Definitions) : Known :=
  Known.ofDocument (rewrite config (supergraph service definitions)).toDocument

section

variable (config : Config) (service : String) {definitions : Definitions}

def addedNames (emitted : Bool) : List Name :=
  ["link__Import", "link__Purpose", "_Any", "FieldSet"] ++ if emitted then ["_Entity"] else []

theorem names_rewrite_supergraph (served : Served definitions) :
    (rewrite config (supergraph service definitions)).types.map (·.name) =
      (definitions.types.filter isKept).map (·.name) ++
        addedNames (emits config (supergraph service definitions)) := by
  have sameName : (fun type : TypeDefinition => type.name) ∘ (fun type =>
      rewrittenType config (supergraph service definitions)
        (composeType (graphName service) type)) = (·.name) := by
    funext type
    change (rewrittenType config (supergraph service definitions)
      (composeType (graphName service) type)).name = type.name
    unfold rewrittenType
    split <;> rfl
  rw [rewrite_supergraph_types served, List.map_append, List.map_append, List.map_map, sameName,
    List.append_assoc, addedNames]
  congr 2
  split <;> rfl

theorem allNames_subgraphKnown (served : Served definitions) :
    (subgraphKnown config service definitions).allNames =
      builtinTypeNames ++ ((definitions.types.filter isKept).map (·.name) ++
        addedNames (emits config (supergraph service definitions))) := by
  rw [subgraphKnown, Known.ofDocument, typeNames, typeDefinitions_toDocument,
    names_rewrite_supergraph config service served]

private theorem isCompositionName_of_lost {type : TypeDefinition} (lost : isKept type = false) :
    isCompositionName type.name = true := by
  unfold isKept isCompositionType at lost
  by_contra plain
  have notFieldSet : type.name ≠ "join__FieldSet" := by
    intro same
    exact plain (same ▸ (by decide))
  have notGraph : type.name ≠ "join__Graph" := by
    intro same
    exact plain (same ▸ (by decide))
  have noPrefix := Bool.eq_false_iff.mpr plain
  revert lost
  split <;> simp [notFieldSet, notGraph, noPrefix]

private theorem addedNames_plain :
    ∀ emitted, ∀ name ∈ addedNames emitted, isCompositionName name = false := by
  decide

private theorem builtinTypeNames_plain :
    ∀ name ∈ builtinTypeNames, isCompositionName name = false := by
  decide

theorem mem_allNames_subgraphKnown (served : Served definitions) {name : Name}
    (known : name ∈ (serviceKnown definitions).allNames) :
    name ∈ (subgraphKnown config service definitions).allNames ↔ name ∉ lostNames definitions := by
  rw [allNames_subgraphKnown config service served, List.mem_append, List.mem_append]
  constructor
  · rintro present lost
    obtain ⟨type, typeLost, rfl⟩ := List.mem_map.mp lost
    obtain ⟨typeMember, notKept⟩ := List.mem_filter.mp typeLost
    rw [Bool.not_eq_true'] at notKept
    have composition := isCompositionName_of_lost notKept
    rcases present with builtin | own | added
    · rw [builtinTypeNames_plain type.name builtin] at composition
      cases composition
    · obtain ⟨other, otherKept, sameName⟩ := List.mem_map.mp own
      obtain ⟨otherMember, isKept⟩ := List.mem_filter.mp otherKept
      rw [served.distinct.eq_of_name_eq otherMember typeMember sameName, notKept] at isKept
      cases isKept
    · rw [addedNames_plain _ type.name added] at composition
      cases composition
  · intro found
    rcases mem_allNames_serviceKnown.mp known with builtin | own | prelude
    · exact .inl builtin
    · obtain ⟨type, typeMember, rfl⟩ := List.mem_map.mp own
      right; left
      apply List.mem_map_of_mem
      rw [List.mem_filter]
      refine ⟨typeMember, ?_⟩
      by_contra notKept
      apply found
      exact List.mem_map_of_mem (List.mem_filter.mpr ⟨typeMember, by simpa using notKept⟩)
    · obtain ⟨type, typeMember, rfl⟩ := List.mem_map.mp prelude
      right; right
      have added : ∀ type ∈ serviceTypes, ∀ emitted, type.name ∈ addedNames emitted := by
        decide
      exact added type (List.mem_of_mem_filter typeMember) _

theorem added_known (served : Served definitions) {name : Name}
    (added : name ∈ ["link__Import", "link__Purpose", "_Any", "FieldSet"] ++ builtinTypeNames) :
    name ∈ (subgraphKnown config service definitions).allNames := by
  rw [allNames_subgraphKnown config service served, List.mem_append, List.mem_append, addedNames,
    List.mem_append]
  rcases List.mem_append.mp added with own | builtin
  · exact .inr (.inr (.inl own))
  · exact .inl builtin

private theorem subgraphKnown_directives :
    (subgraphKnown config service definitions).directives =
      [shareableDirective, keyDirective] ++
        ((definitions.directives.filter (!isCompositionName ·.name)).reverse ++
          (linkDirective (.named "String") :: builtinDirectives)) := by
  rw [subgraphKnown, Known.ofDocument, directiveDefinitions_toDocument,
    rewrite_supergraph_directives]
  simp

theorem narrows_isOwnUsage :
    Narrows isOwnUsage (serviceKnown definitions) (subgraphKnown config service definitions) := by
  intro usage own definition declared
  rw [isOwnUsage, Bool.and_eq_true, Bool.not_eq_true', Bool.not_eq_true'] at own
  obtain ⟨noComposition, noFederation⟩ := own
  have unowned : usage.name ∉ federationDirectives := by simpa using noFederation
  have other {name : Name} (owned : name ∈ federationDirectives) : (name == usage.name) = false :=
    beq_eq_false_iff_ne.mpr fun same => unowned (same ▸ owned)
  have scaffold : [shareableDirective, keyDirective].find? (·.name == usage.name) = none := by
    have owned : ∀ directive ∈ [shareableDirective, keyDirective],
        directive.name ∈ federationDirectives := by
      decide
    rw [List.find?_eq_none]
    intro directive member
    rw [other (owned directive member)]
    exact Bool.false_ne_true
  have link : ((linkDirective (.named "String")).name == usage.name) = false := other (by decide)
  rw [← declared, directive?_serviceKnown unowned, Known.directive?, subgraphKnown_directives,
    List.find?_append, List.find?_append, List.find?_append, scaffold,
    find?_plainDirectives _ noComposition,
    List.find?_cons_of_neg (by rw [link]; exact Bool.false_ne_true)]
  rfl

private theorem misplaced_on_argument (served : Served definitions) {usage : DirectiveUsage}
    (kept : checkUsage (subgraphKnown config service definitions) .argumentDefinition usage = []) :
    isOwnUsage usage = true := by
  have scaffoldElsewhere : ∀ directive ∈ [shareableDirective, keyDirective],
      .argumentDefinition ∉ directive.locations := by decide
  have builtinOwn : ∀ directive ∈ builtinDirectives,
      isCompositionName directive.name = false ∧ directive.name ∉ federationDirectives := by
    decide
  obtain ⟨definition, member, named, placed⟩ := declares_of_checkUsage kept
  rw [subgraphKnown_directives] at member
  rcases List.mem_append.mp member with scaffold | member
  · exact absurd placed (scaffoldElsewhere definition scaffold)
  rcases List.mem_append.mp member with own | member
  · obtain ⟨declared, noComposition⟩ := List.mem_filter.mp (List.mem_reverse.mp own)
    have unowned := served.directives definition declared
    rw [named] at noComposition unowned
    simpa [isOwnUsage, unowned] using noComposition
  rcases List.mem_cons.mp member with rfl | builtin
  · exact absurd placed (by decide)
  · obtain ⟨noComposition, unowned⟩ := builtinOwn definition builtin
    rw [named] at noComposition unowned
    simp [isOwnUsage, unowned, noComposition]

theorem checkDirective_subgraph_iff (served : Served definitions) (accepted : Accepted definitions)
    {directive : DirectiveDefinition} (member : directive ∈ definitions.directives) :
    checkDefinition (subgraphKnown config service definitions) [] (.directive directive) = [] ↔
      ∀ argument ∈ directive.arguments,
        argument.type.baseName ∉ lostNames definitions ∧
          ∀ usage ∈ argument.directives, isOwnUsage usage = true := by
  have kept := accepted.directives directive member
  rw [checkDefinition_directive_narrowed_iff (narrows_isOwnUsage config service) kept
    fun _ => misplaced_on_argument config service served]
  apply forall₂_congr
  intro argument argumentMember
  have known := (checkDefinition_directive_eq_nil_iff.mp kept).2 argument argumentMember
  rw [mem_allNames_subgraphKnown config service served (checkInputValue_eq_nil_iff.mp known).2.1]

private theorem directive?_key :
    (subgraphKnown config service definitions).directive? "key" = some keyDirective := by
  rw [Known.directive?, subgraphKnown_directives]
  rfl

private theorem directive?_shareable :
    (subgraphKnown config service definitions).directive? "shareable" =
      some shareableDirective := by
  rw [Known.directive?, subgraphKnown_directives]
  rfl

theorem declaresScaffold_subgraph (served : Served definitions) :
    DeclaresScaffold (subgraphKnown config service definitions) where
  key := directive?_key config service
  shareable := directive?_shareable config service
  names := fun _ added => added_known config service served added

private theorem usages_kept (served : Served definitions) (accepted : Accepted definitions)
    {type : TypeDefinition} (member : type ∈ definitions.types) :
    UsagesKept (subgraphKnown config service definitions)
      (composeType (graphName service) type).kind.location
      (cleanedType config (supergraph service definitions)
        (composeType (graphName service) type)).directives := by
  have kept := (checkDefinition_type_eq_nil_iff.mp (accepted.types type member)).2.1
  apply usagesKept_cleanedType (declaresScaffold_subgraph config service served)
  · rw [filter_directives_composeType, kind_composeType]
    exact kept.filter (narrows_isOwnUsage config service)
  · intro marker selected
    apply values_composeType fun usage used => checkValue_of_checkUsage (kept.each usage used)
    exact List.mem_of_mem_filter (mem_of_mem_selectedMarkers selected).2

private theorem union_known (served : Served definitions)
    (emitted : emits config (supergraph service definitions) = true) :
    entityUnion ∈ (subgraphKnown config service definitions).allNames := by
  rw [allNames_subgraphKnown config service served, emitted]
  exact List.mem_append_right _ (List.mem_append_right _ (by decide))

theorem checkType_subgraph_iff (served : Served definitions) (accepted : Accepted definitions)
    {type : TypeDefinition} (member : type ∈ definitions.types) :
    checkDefinition (subgraphKnown config service definitions) []
        (.type (rewrittenType config (supergraph service definitions)
          (composeType (graphName service) type))) = [] ↔
      ∀ name ∈ Declarations.referencedNames type, name ∉ lostNames definitions := by
  obtain ⟨distinct, -, parts⟩ := checkDefinition_type_eq_nil_iff.mp (accepted.types type member)
  have usages := usages_kept config service served accepted member
  have partsNarrowed : PartsKept (subgraphKnown config service definitions)
      (type.body.mapUsages ownUsages) ↔
      ∀ name ∈ Declarations.referencedNames type, name ∉ lostNames definitions := by
    rw [show ownUsages = (·.filter isOwnUsage) from rfl,
      partsKept_narrowed (narrows_isOwnUsage config service) parts]
    exact forall₂_congr fun name referenced =>
      mem_allNames_subgraphKnown config service served (parts.known name referenced)
  have cleanedBody : (cleanedType config (supergraph service definitions)
      (composeType (graphName service) type)).body = type.body.mapUsages ownUsages := by
    rw [cleanedType_composeType]
  have cleanedDistinct : MembersDistinct (cleanedType config (supergraph service definitions)
      (composeType (graphName service) type)).body := by
    rw [cleanedBody]
    exact distinct.mapUsages ownUsages
  have free (_ : emits config (supergraph service definitions) = true)
      (query : isQueryType (supergraph service definitions)
        (composeType (graphName service) type) = true) :
      ∀ field ∈ (cleanedType config (supergraph service definitions)
        (composeType (graphName service) type)).body.fields, field.name ≠ entitiesField := by
    rw [isQueryType_iff, kind_composeType] at query
    rw [cleanedBody, TypeBody.fields_mapUsages]
    intro field fieldMember named
    obtain ⟨original, originalMember, rfl⟩ := List.mem_map.mp fieldMember
    apply served.fields type member query.1 query.2 original originalMember
    rw [show original.name = entitiesField from named]
    decide
  rw [checkDefinition_rewrittenType_iff (declaresScaffold_subgraph config service served)
    (union_known config service served) cleanedDistinct free usages, cleanedBody, partsNarrowed]

private theorem directive?_link (served : Served definitions) :
    (subgraphKnown config service definitions).directive? "link" =
      some (linkDirective (.named "String")) := by
  have own : (definitions.directives.filter (!isCompositionName ·.name)).reverse.find?
      (·.name == "link") = none := by
    rw [List.find?_eq_none]
    intro directive member named
    apply served.directives directive (List.mem_of_mem_filter (List.mem_reverse.mp member))
    rw [beq_iff_eq.mp named]
    decide
  rw [Known.directive?, subgraphKnown_directives, List.find?_append, List.find?_append, own]
  rfl

private theorem checkSchema_subgraph_iff (served : Served definitions)
    (accepted : Accepted definitions) :
    checkDefinition (subgraphKnown config service definitions) []
        (.schema (rewrite config (supergraph service definitions)).schemaDefinition) = [] ↔
      ∀ item ∈ definitions.rootTypes.items, item.2 ∉ lostNames definitions := by
  have link : UsagesKept (subgraphKnown config service definitions) .schema
      [linkUsage config.federationUrl] := by
    rw [usagesKept_singleton_iff,
      checkUsage_linkUsage_iff (directive?_link config service served)]
    exact fitsLink_linkDirective _
  have operations := definitions.rootTypes.nodup_operations_items
  rw [checkDefinition_schema_eq_nil_iff]
  change (definitions.rootTypes.items.map (·.1)).Nodup ∧ UsagesKept _ .schema [linkUsage _] ∧
    (∀ item ∈ definitions.rootTypes.items, _) ↔ _
  rw [and_iff_right operations, and_iff_right link]
  exact forall₂_congr fun item member =>
    mem_allNames_subgraphKnown config service served (accepted.roots item member)

private theorem distinctNames_subgraph (served : Served definitions) :
    DistinctNames (rewrite config (supergraph service definitions)).types := by
  have ownDistinct : ((definitions.types.filter isKept).map (·.name)).Nodup :=
    served.distinct.sublist List.filter_sublist
  have addedDistinct : ∀ emitted, (addedNames emitted).Nodup := by decide
  have addedOwned : ∀ emitted, ∀ name ∈ addedNames emitted, name ∈ federationTypes := by decide
  rw [DistinctNames, names_rewrite_supergraph config service served, List.nodup_append]
  refine ⟨ownDistinct, addedDistinct _, ?_⟩
  rintro name own other added rfl
  obtain ⟨type, kept, rfl⟩ := List.mem_map.mp own
  exact served.types type (List.mem_of_mem_filter kept) (addedOwned _ type.name added)

private theorem distinctDirectives_subgraph (served : Served definitions)
    (accepted : Accepted definitions) :
    ((rewrite config (supergraph service definitions)).directives.map (·.name)).Nodup := by
  have ownDistinct : ((definitions.directives.filter (!isCompositionName ·.name)).map
      (·.name)).Nodup := (List.filter_sublist.map _).nodup accepted.distinct
  have apart {name : Name} (owned : name ∈ federationDirectives) :
      name ∉ (definitions.directives.filter (!isCompositionName ·.name)).map (·.name) := by
    intro own
    obtain ⟨directive, kept, rfl⟩ := List.mem_map.mp own
    exact served.directives directive (List.mem_of_mem_filter kept) owned
  rw [rewrite_supergraph_directives, List.map_append, List.map_cons, List.nodup_append,
    List.nodup_cons]
  refine ⟨⟨apart (by decide), ownDistinct⟩, by decide, ?_⟩
  intro name own other scaffold same
  have owned : ∀ name ∈ [keyDirective, shareableDirective].map (·.name),
      name ∈ federationDirectives ∧ name ≠ (linkDirective (.named "String")).name := by
    decide
  rw [same] at own
  rcases List.mem_cons.mp own with isLink | isOwn
  · exact (owned other scaffold).2 isLink
  · exact apart (owned other scaffold).1 isOwn

private theorem addedUnion_kept (served : Served definitions) :
    checkDefinition (subgraphKnown config service definitions) []
      (.type (unionOf (keyedTypes config.markerSelection (supergraph service definitions)))) =
        [] := by
  apply unionOf_kept
  intro name member
  rw [keyedTypes_supergraph served] at member
  obtain ⟨type, keyed, rfl⟩ := List.mem_map.mp member
  rw [allNames_subgraphKnown config service served]
  exact List.mem_append_right _ (List.mem_append_left _
    (List.mem_map_of_mem (List.mem_of_mem_filter keyed)))

private theorem directives_subgraph_kept_iff (served : Served definitions)
    (accepted : Accepted definitions) :
    (∀ directive ∈ (rewrite config (supergraph service definitions)).directives,
      checkDefinition (subgraphKnown config service definitions) [] (.directive directive) = []) ↔
      ∀ directive ∈ definitions.directives, isCompositionName directive.name = false →
        ∀ argument ∈ directive.arguments,
          argument.type.baseName ∉ lostNames definitions ∧
            ∀ usage ∈ argument.directives, isOwnUsage usage = true := by
  have scaffold := declaresScaffold_subgraph config service served
  rw [rewrite_supergraph_directives]
  constructor
  · intro directives directive member plain
    rw [← checkDirective_subgraph_iff config service served accepted member]
    apply directives
    apply List.mem_append_left
    exact List.mem_cons_of_mem _ (List.mem_filter.mpr ⟨member, by rw [plain]; rfl⟩)
  · intro arguments directive member
    rcases List.mem_append.mp member with own | isScaffold
    · rcases List.mem_cons.mp own with rfl | own
      · exact addedDirective_kept scaffold List.mem_cons_self
      · obtain ⟨declared, plain⟩ := List.mem_filter.mp own
        rw [checkDirective_subgraph_iff config service served accepted declared]
        exact arguments directive declared (by simpa using plain)
    · exact addedDirective_kept scaffold
        (List.mem_cons_of_mem _ (List.mem_cons_of_mem _ isScaffold))

private theorem types_subgraph_kept_iff (served : Served definitions)
    (accepted : Accepted definitions) :
    (∀ type ∈ (rewrite config (supergraph service definitions)).types,
      checkDefinition (subgraphKnown config service definitions) [] (.type type) = []) ↔
      ∀ type ∈ definitions.types, isKept type = true →
        ∀ name ∈ Declarations.referencedNames type, name ∉ lostNames definitions := by
  rw [rewrite_supergraph_types served]
  constructor
  · intro types type member isKept
    rw [← checkType_subgraph_iff config service served accepted member]
    apply types
    apply List.mem_append_left
    apply List.mem_append_left
    exact List.mem_map.mpr ⟨type, List.mem_filter.mpr ⟨member, isKept⟩, rfl⟩
  · intro closed type member
    rcases List.mem_append.mp member with front | last
    · rcases List.mem_append.mp front with own | fixed
      · obtain ⟨original, kept, rfl⟩ := List.mem_map.mp own
        obtain ⟨declared, isKept⟩ := List.mem_filter.mp kept
        rw [checkType_subgraph_iff config service served accepted declared]
        exact closed original declared isKept
      · refine addedType_kept (?_ : type ∈ [_, _, _, _, _])
        exact List.mem_cons.mpr ((List.mem_cons.mp fixed).imp_right (List.mem_cons_of_mem _))
    · split at last
      · rw [List.mem_singleton.mp last]
        exact addedUnion_kept config service served
      · cases last

/-- The subgraph of an accepted service keeps the rules if it refers to nothing that is lost. -/
theorem violations_subgraph_eq_nil_iff (served : Served definitions)
    (accepted : Accepted definitions) :
    violations (rewrite config (supergraph service definitions)).toDocument = [] ↔
      SelfContained definitions := by
  have stated : (rewrite config (supergraph service definitions)).needsSchemaDefinition = true :=
    rfl
  rw [violations_toDocument_eq_nil_iff, ← subgraphKnown,
    and_iff_right ⟨distinctDirectives_subgraph config service served accepted,
      distinctNames_subgraph config service served⟩, stated,
    checkSchema_subgraph_iff config service served accepted,
    directives_subgraph_kept_iff config service served accepted,
    types_subgraph_kept_iff config service served accepted]
  exact ⟨fun ⟨roots, arguments, types⟩ => ⟨roots rfl, types, arguments⟩,
    fun contained => ⟨fun _ => contained.roots, contained.arguments, contained.types⟩⟩

end

end FederationSplit.Federation
