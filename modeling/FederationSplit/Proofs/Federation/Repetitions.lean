import FederationSplit.Proofs.Federation.Loading
import FederationSplit.Proofs.Rules.Parts

namespace FederationSplit.Federation

open FederationSplit.Syntax
open FederationSplit.Schema
open FederationSplit.Rules

/-- A type or a directive of the document's own is declared twice, or a type in two kinds. -/
inductive RepeatsDeclaration (document : Document) : Prop
  | type (repeated : ¬(typeNames document).Nodup)
  | directive
      (repeated : ¬(((directiveDefinitions document).map (·.name)).filter
        (!federationDirectives.contains ·)).Nodup)
  | extension {extension : TypeExtension} {part : TypePart}
      (extending : extension ∈ typeExtensions document)
      (member : part ∈ document.definitions.filterMap TypePart.ofDefinition?)
      (sameName : part.name = extension.name) (otherKind : part.body.kind ≠ extension.body.kind)

/-- The schema is defined twice, or an operation is stated twice. -/
def RepeatsSchema (document : Document) : Prop :=
  1 < document.definitions.countP isSchemaDefinition ∨ ¬(statedOperations document).Nodup

/-- In a document without violations all parts of a type are of its kind. -/
private theorem kind_of_violations {document : Document} (kept : violations document = []) :
    ∀ part ∈ document.definitions.filterMap TypePart.ofDefinition?,
      HasKind (typeDefinitions document) part.name part.body.kind := by
  intro part member
  obtain ⟨definition, definitionMember, isPart⟩ := List.mem_filterMap.mp member
  cases definition with
  | type type =>
      cases isPart
      exact ⟨type, mem_typeDefinitions.mpr definitionMember, rfl, rfl⟩
  | typeExtension extension =>
      cases isPart
      exact extends_of_violations kept extension
        (List.mem_filterMap.mpr ⟨.typeExtension extension, definitionMember, rfl⟩)
  | operation | fragment | schema | schemaExtension | directive => cases isPart

private theorem mem_parts {document : Document} {extension : TypeExtension}
    (member : extension ∈ typeExtensions document) :
    { name := extension.name, directives := extension.directives, body := extension.body } ∈
      document.definitions.filterMap TypePart.ofDefinition? := by
  obtain ⟨definition, definitionMember, selects⟩ := List.mem_filterMap.mp member
  refine List.mem_filterMap.mpr ⟨definition, definitionMember, ?_⟩
  cases definition <;> cases selects
  rfl

private theorem sameKind_of_hasKind {document : Document} {types : List TypeDefinition}
    (distinct : DistinctNames types)
    (found : ∀ part ∈ document.definitions.filterMap TypePart.ofDefinition?,
      HasKind types part.name part.body.kind) {extension : TypeExtension} {part : TypePart}
    (extending : extension ∈ typeExtensions document)
    (member : part ∈ document.definitions.filterMap TypePart.ofDefinition?)
    (sameName : part.name = extension.name) : part.body.kind = extension.body.kind :=
  HasKind.unique distinct (sameName ▸ found part member) (found _ (mem_parts extending))

theorem violations_of_repetition {document : Document}
    (repeats : RepeatsDeclaration document ∨ RepeatsSchema document) :
    violations document ≠ [] := by
  intro kept
  have distinct := distinctNames_of_violations kept
  rcases repeats with (type | directive | ⟨extending, member, sameName, otherKind⟩) |
    (schema | stated)
  · exact type distinct
  · exact directive ((nodup_directives_of_violations kept).filter _)
  · exact otherKind
      (sameKind_of_hasKind distinct (kind_of_violations kept) extending member sameName)
  · exact absurd (countP_isSchemaDefinition_of_violations kept) (Nat.not_le.mpr schema)
  · exact stated (nodup_statedOperations_of_violations kept)

theorem check_of_loadSupergraph_obstacle {document : Document} {error : LoadError}
    (failed : loadSupergraph document = .error error) {number : Text.OversizedNumber}
    (obstacle : error.obstacle? = some number) : check document = .error number := by
  unfold loadSupergraph at failed
  split at failed
  · next other checked =>
      cases failed
      cases obstacle
      exact checked
  · cases failed
  · cases failed
    cases obstacle
  · cases failed
    cases obstacle

private theorem reportable_typeKeyProblems {declarations : TypeSystem.Declarations}
    {type : TypeDefinition} :
    ∀ problem ∈ typeKeyProblems declarations type, problem.obstacle? = none := by
  have usage {usage : DirectiveUsage} :
      ∀ problem ∈ keyUsageProblems declarations type.name usage, problem.obstacle? = none := by
    unfold keyUsageProblems
    split
    · exact List.forall_mem_nil _
    · split
      · split
        · exact List.forall_mem_map.mpr fun _ _ => rfl
        · exact List.forall_mem_nil _
      · exact List.forall_mem_singleton.mpr rfl
  unfold typeKeyProblems
  split
  · exact List.forall_mem_flatMap.mpr fun _ _ => usage
  · exact List.forall_mem_flatMap.mpr fun _ _ => usage
  · exact List.forall_mem_nil _

/-- Only the rules that are checked can meet a number that is in the way. -/
private theorem check_of_compositionProblems_obstacle {definitions : Definitions}
    {number : Text.OversizedNumber}
    (obstacle : (compositionProblems definitions).findSome? CompositionProblem.obstacle? =
      some number) : check (validationDocument definitions) = .error number := by
  have none {problems : List CompositionProblem}
      (reportable : ∀ problem ∈ problems, problem.obstacle? = none) :
      problems.findSome? CompositionProblem.obstacle? ≠ some number := by
    rw [List.findSome?_eq_none_iff.mpr reportable]
    exact nofun
  unfold compositionProblems at obstacle
  split at obstacle
  · exact absurd obstacle (none (List.forall_mem_map.mpr fun _ _ => rfl))
  · unfold serviceProblems at obstacle
    split at obstacle
    · next checked =>
        cases obstacle
        exact checked
    · exact absurd obstacle (none (List.forall_mem_map.mpr fun _ _ => rfl))
    · simp only at obstacle
      split at obstacle
      · cases obstacle
      · apply absurd obstacle (none _)
        simp only [List.forall_mem_append, List.forall_mem_map, List.forall_mem_flatMap]
        refine ⟨⟨fun _ _ => rfl, ?_⟩, fun _ _ => reportable_typeKeyProblems⟩
        split
        · exact List.forall_mem_singleton.mpr rfl
        · exact List.forall_mem_nil _

private theorem nodup_directives_of_clean {document : Document}
    (clean : compositionProblems (serviceDefinitions document) = []) :
    (((directiveDefinitions document).map (·.name)).filter
      (!federationDirectives.contains ·)).Nodup := by
  have distinct := (accepted_of_check (compositionProblems_eq_nil clean).1).distinct
  rw [serviceDefinitions_directives, fold_directives] at distinct
  rwa [List.filter_map]

theorem compositionProblems_of_repetition {document : Document}
    (repeats : RepeatsDeclaration document) :
    compositionProblems (serviceDefinitions document) ≠ [] := by
  intro clean
  have sound : (fold document).problems = [] := by
    rw [← serviceDefinitions_problems]
    exact (compositionProblems_eq_nil_iff.mp clean).1
  cases repeats with
  | type repeated => exact repeated (distinctNames_of_sound sound)
  | directive repeated => exact repeated (nodup_directives_of_clean clean)
  | extension extending member sameName otherKind =>
      exact otherKind
        (sameKind_of_hasKind (distinctNames_fold document) (hasKind_of_sound sound) extending
          member sameName)

/--
A document that repeats a declaration is refused, as a supergraph and as a service. One that repeats
its schema definition or a part of it is refused as a supergraph; as a service it is taken for the
document with one schema definition, which repeats nothing of the kind. What is refused can be
reported, unless a suggestion has to put a number in order that is too long for that.
-/
theorem refusals_of_repetitions (service : String) (document : Document) :
    (RepeatsDeclaration document ∨ RepeatsSchema document →
      ∃ error, loadSupergraph document = .error error ∧
        ∀ number, error.obstacle? = some number → check document = .error number) ∧
      (RepeatsDeclaration document →
        ∃ problems, compose service document = .error problems ∧
          ∀ number, problems.findSome? CompositionProblem.obstacle? = some number →
            check (validationDocument (serviceDefinitions document)) = .error number) ∧
      compose service document = compose service (withSchemaMerged document) ∧
      ¬RepeatsSchema (withSchemaMerged document) := by
  refine ⟨fun repeats => ?supergraph, fun repeats => ?service, ?merged, ?single⟩
  case supergraph =>
    cases loaded : loadSupergraph document with
    | error error => exact ⟨error, rfl, fun _ => check_of_loadSupergraph_obstacle loaded⟩
    | ok schema =>
        exact absurd (loadSupergraph_ok_iff.mp loaded).1 (violations_of_repetition repeats)
  case service =>
    cases found : compositionProblems (serviceDefinitions document) with
    | nil => exact absurd found (compositionProblems_of_repetition repeats)
    | cons problem rest =>
        refine ⟨problem :: rest, by simp only [compose, found], ?_⟩
        rw [← found]
        exact fun _ => check_of_compositionProblems_obstacle
  case merged =>
    have same : serviceDefinitions (withSchemaMerged document) = serviceDefinitions document := by
      rw [serviceDefinitions, fold_withSchemaMerged, serviceDefinitions]
    rw [compose, compose, same]
  case single =>
    rintro (twice | stated)
    · exact Nat.not_le.mpr twice (countP_isSchemaDefinition_withSchemaMerged document)
    · exact stated (nodup_statedOperations_withSchemaMerged document)

private def querying (type : Name) : SchemaDefinition where
  description := none
  directives := []
  operationTypes := [(.query, type)]

/-- A service that defines its schema twice, with a query root each time. -/
def restatedService : Document where
  definitions :=
    [.schema (querying "Cups"), .schema (querying "Query"),
      .type (plainObject "Query" [plainField "cups" (.named "Int")]),
      .type (plainObject "Cups" [plainField "cups" (.named "Int")])]

def mixedService : Document where
  definitions :=
    [.type (plainObject "Query" [plainField "cups" (.named "Int")]),
      .typeExtension { name := "Query", directives := [], body := .enum [] }]

theorem restatedService_only_composed :
    (∃ error, loadSupergraph restatedService = .error error) ∧
      (∃ schema, compose "cups" restatedService = .ok schema ∧
        schema.rootTypes.query = some "Query") ∧
      (∃ error, loadSupergraph mixedService = .error error) ∧
      ∃ problems, compose "cups" mixedService = .error problems := by
  have restated : RepeatsSchema restatedService := .inl (by decide)
  have mixed : RepeatsDeclaration mixedService :=
    .extension (.head _) (.head _) rfl (by decide)
  obtain ⟨refused, -, merged, -⟩ := refusals_of_repetitions "cups" restatedService
  obtain ⟨refusedMixed, notComposed, -, -⟩ := refusals_of_repetitions "cups" mixedService
  have clean : compositionProblems (serviceDefinitions (withSchemaMerged restatedService)) = [] :=
    List.isEmpty_iff.mp (by decide)
  obtain ⟨error, failed, -⟩ := refused (.inr restated)
  obtain ⟨mixedError, mixedFailed, -⟩ := refusedMixed (.inl mixed)
  obtain ⟨problems, mixedProblems, -⟩ := notComposed mixed
  refine ⟨⟨error, failed⟩, ⟨_, merged.trans (compose_ok_iff.mpr ⟨clean, rfl⟩), ?_⟩,
    ⟨mixedError, mixedFailed⟩, ⟨problems, mixedProblems⟩⟩
  decide

end FederationSplit.Federation
