import FederationSplit.Proofs.Federation.Acceptance
import FederationSplit.Proofs.Federation.Composing
import FederationSplit.Proofs.Federation.Leftovers

namespace FederationSplit.Federation

open FederationSplit.Syntax
open FederationSplit.Schema
open FederationSplit.Rules

def isFederationUsage (usage : DirectiveUsage) : Bool :=
  federationDirectives.contains usage.name

private theorem isFederationUsage_of_composition {usage : DirectiveUsage}
    (composition : isCompositionName usage.name = true) : isFederationUsage usage = false := by
  have apart : ∀ name ∈ federationDirectives, isCompositionName name = false := by decide
  rw [Bool.eq_false_iff]
  intro owned
  rw [apart usage.name (by simpa [isFederationUsage] using owned)] at composition
  cases composition

private theorem isFederationUsage_of_mem_without {usages : List DirectiveUsage}
    {usage : DirectiveUsage} (member : usage ∈ withoutFederationUsages usages) :
    isFederationUsage usage = false := by
  simpa [isFederationUsage] using (List.mem_filter.mp member).2

private theorem isFederationUsage_composeType (graph : Name) (type : TypeDefinition) :
    ∀ usage ∈ (composeType graph type).usages, isFederationUsage usage = false := by
  intro usage member
  rcases List.mem_append.mp ((usages_composeType graph type).mem_iff.mp member) with own | added
  · exact isFederationUsage_of_mem_without own
  · exact isFederationUsage_of_composition
      (isMarker_addedMarkers graph type usage added).composition

private theorem usages_suppliedTypes (service : String) :
    ∀ type ∈ suppliedTypes service, ∀ usage ∈ type.usages, isFederationUsage usage = false := by
  rw [suppliedTypes, List.forall_mem_append, List.forall_mem_singleton]
  constructor
  · simp only [supergraphTypes, List.forall_mem_cons]
    exact ⟨nofun, nofun, nofun, nofun⟩
  · intro usage member
    rw [List.mem_singleton.mp member]
    exact isFederationUsage_of_composition (by decide : isCompositionName "join__graph" = true)

theorem usages_supergraph_types {definitions : Definitions}
    (distinct : DistinctNames definitions.types) (service : String) :
    ∀ type ∈ (supergraph service definitions).types, ∀ usage ∈ type.usages,
      isFederationUsage usage = false := by
  intro type member
  rcases (mem_supergraph_types distinct).mp member with added | ⟨original, -, -, rfl⟩
  · exact usages_suppliedTypes service type added
  · exact isFederationUsage_composeType (graphName service) original

theorem federationTypes_supergraph {definitions : Definitions} (served : Served definitions)
    (service : String) :
    (supergraph service definitions).types.filter (federationTypes.contains ·.name) =
      [linkImport, describedLinkPurpose] := by
  have plain : ∀ name ∈ federationTypes, isCompositionName name = false := by decide
  have survives {type : TypeDefinition} (owned : federationTypes.contains type.name = true) :
      (!isCompositionType type) = true := by
    unfold isCompositionType
    split <;> simp [plain type.name (by simpa using owned)]
  have first : (supergraph service definitions).types.filter (federationTypes.contains ·.name) =
      ((supergraph service definitions).types.filter (!isCompositionType ·)).filter
        (federationTypes.contains ·.name) := by
    rw [List.filter_filter]
    exact List.filter_congr fun type _ => (Bool.and_eq_left_iff_imp.mpr survives).symm
  have own : ((definitions.types.filter isKept).map (composeType (graphName service))).filter
      (federationTypes.contains ·.name) = [] := by
    rw [List.filter_eq_nil_iff]
    intro type member
    obtain ⟨original, kept, rfl⟩ := List.mem_map.mp member
    simpa using served.types original (List.mem_of_mem_filter kept)
  rw [first, keptTypes_supergraph served, List.filter_append, own]
  rfl

theorem federationDirectives_supergraph {definitions : Definitions} (served : Served definitions)
    (service : String) :
    (supergraph service definitions).directives.filter (federationDirectives.contains ·.name) =
      [linkDirective (.named "String")] := by
  have own : definitions.directives.filter (federationDirectives.contains ·.name) = [] := by
    rw [List.filter_eq_nil_iff]
    intro directive member
    simpa using served.directives directive member
  have added : supergraphDirectives.filter (federationDirectives.contains ·.name) =
      [linkDirective (.named "String")] := rfl
  rw [supergraph, List.filter_append, own, added]
  rfl

/-- Of the directives that federation owns, a service can have two on parameters of its own. -/
theorem name_of_federationUsage {definitions : Definitions} (served : Served definitions)
    (accepted : Accepted definitions) {directive : DirectiveDefinition}
    (member : directive ∈ definitions.directives) {usage : DirectiveUsage}
    (used : usage ∈ directive.usages) (owned : isFederationUsage usage = true) :
    usage.name = "inaccessible" ∨ usage.name = "tag" := by
  obtain ⟨argument, argumentMember, usageMember⟩ := List.mem_flatMap.mp used
  have kept := (checkDefinition_directive_eq_nil_iff.mp (accepted.directives directive member)).2
    argument argumentMember
  obtain ⟨definition, found, placed⟩ := mayStand_of_checkUsage
    ((checkInputValue_eq_nil_iff.mp kept).1.each usage usageMember)
  have isOwned : usage.name ∈ federationDirectives := by simpa [isFederationUsage] using owned
  obtain ⟨declared, named⟩ := mem_serviceDirectives_of_directive? served isOwned found
  have labels : ∀ definition ∈ serviceDirectives, .argumentDefinition ∈ definition.locations →
      definition.name = "inaccessible" ∨ definition.name = "tag" := by
    decide
  rw [← named]
  exact labels definition declared placed

/--
A composed service has nothing of federation left but its links and what they refer to, and the
usages on the parameters of the directives that the service defines, which are taken over as they
are. Those can only hide or label a parameter.
-/
theorem carryovers_of_compose {service : String} {document : Document} {schema : SchemaDocument}
    (composed : compose service document = .ok schema) :
    schema.schemaDirectives = supergraphLinks ∧
      schema.types.filter (federationTypes.contains ·.name) =
        [linkImport, describedLinkPurpose] ∧
      schema.directives.filter (federationDirectives.contains ·.name) =
        [linkDirective (.named "String")] ∧
      (schema.types.flatMap TypeDefinition.usages).filter isFederationUsage = [] ∧
      (schema.directives.flatMap DirectiveDefinition.usages).filter isFederationUsage =
        (((fold document).directives.filter (!federationDirectives.contains ·.name)).flatMap
          DirectiveDefinition.usages).filter isFederationUsage ∧
      ∀ directive ∈ schema.directives, ∀ usage ∈ directive.usages,
        isFederationUsage usage = true → usage.name = "inaccessible" ∨ usage.name = "tag" := by
  obtain ⟨clean, rfl⟩ := compose_ok_iff.mp composed
  have served := served_serviceDefinitions document
  have accepted := accepted_of_check (compositionProblems_eq_nil clean).1
  have unused : supergraphDirectives.flatMap DirectiveDefinition.usages = [] := rfl
  refine ⟨rfl, federationTypes_supergraph served service,
    federationDirectives_supergraph served service, ?types, ?directives, ?names⟩
  case types =>
    rw [List.filter_eq_nil_iff]
    intro usage member
    obtain ⟨type, typeMember, used⟩ := List.mem_flatMap.mp member
    rw [usages_supergraph_types served.distinct service type typeMember usage used]
    exact Bool.false_ne_true
  case directives =>
    rw [supergraph, List.flatMap_append, unused, serviceDefinitions_directives]
    rfl
  case names =>
    intro directive member usage used owned
    rcases List.mem_append.mp member with added | own
    · have none : usage ∈ supergraphDirectives.flatMap DirectiveDefinition.usages :=
        List.mem_flatMap.mpr ⟨directive, added, used⟩
      rw [unused] at none
      cases none
    · exact name_of_federationUsage served accepted own used owned

/-- A service that labels its query field, and hides the parameter of its own directive. -/
def sealedService : Document where
  definitions :=
    [.directive (directiveOnce "cup"
        [{ parameter "size" (.named "Int") with
            directives := [DirectiveUsage.of "inaccessible" []] }]
        [.object]),
      .type (plainObject "Query"
        [{ plainField "cups" (.named "Int") with
            directives := [DirectiveUsage.of "tag" [Argument.of "name" (.text "hot")]] }])]

theorem compose_sealedService :
    compose "cups" sealedService = .ok (supergraph "cups" (serviceDefinitions sealedService)) :=
  compose_ok_iff.mpr ⟨List.isEmpty_iff.mp (by decide), rfl⟩

theorem carryovers_sealedService :
    ∃ schema, compose "cups" sealedService = .ok schema ∧
      (schema.types.flatMap TypeDefinition.usages).filter isFederationUsage = [] ∧
      (schema.directives.flatMap DirectiveDefinition.usages).filter isFederationUsage =
        [DirectiveUsage.of "inaccessible" []] := by
  obtain ⟨-, -, -, types, directives, -⟩ := carryovers_of_compose compose_sealedService
  exact ⟨_, compose_sealedService, types, directives.trans rfl⟩

end FederationSplit.Federation
