import FederationSplit.Proofs.Federation.Acceptance
import FederationSplit.Proofs.Federation.Composing

namespace FederationSplit.Federation

open FederationSplit.Syntax
open FederationSplit.Schema
open FederationSplit.Rules

/-- The types of a document that federation does not own, as they are composed. -/
def servedTypes (document : Document) : List TypeDefinition :=
  ((fold document).types.filter (!federationTypes.contains ·.name)).map
    (servedType (serviceDefinitions document).rootTypes.query)

theorem withoutUsages_composeType (graph : Name) (type : TypeDefinition) :
    (composeType graph type).withoutUsages = type.withoutUsages := by
  have body : (composeBody graph type.body).mapUsages (fun _ => []) =
      type.body.mapUsages fun _ => [] := by
    have cleaned := congrArg (TypeBody.mapUsages fun _ => [])
      (mapUsages_composeBody graph type.body)
    rwa [TypeBody.mapUsages_mapUsages, TypeBody.mapUsages_mapUsages] at cleaned
  rw [TypeDefinition.withoutUsages, TypeDefinition.withoutUsages]
  simp only [composeType, body]

/--
Composing keeps the types of a service under their names and in order. Each of them has all that it
had, besides usages, unless it is called like one of the types of composition: these are found in
its place.
-/
theorem types_of_compose {service : String} {document : Document} {schema : SchemaDocument}
    (composed : compose service document = .ok schema) :
    schema.types.map (·.name) =
        (servedTypes document).map (·.name) ++
          suppliedNames.filter (!((servedTypes document).map (·.name)).contains ·) ∧
      (∀ type ∈ servedTypes document, type.name ≠ "join__FieldSet" → type.name ≠ "join__Graph" →
        ∃ kept ∈ schema.types, kept.withoutUsages = type.withoutUsages) ∧
      scalarType "join__FieldSet" ∈ schema.types ∧ graphEnum service ∈ schema.types ∧
      DistinctNames schema.types := by
  obtain ⟨-, rfl⟩ := compose_ok_iff.mp composed
  have served := served_serviceDefinitions document
  have own : (serviceDefinitions document).types = servedTypes document :=
    serviceDefinitions_types document
  have added {type : TypeDefinition} (member : type ∈ suppliedTypes service) :
      type ∈ (supergraph service (serviceDefinitions document)).types :=
    (mem_supergraph_types served.distinct).mpr (.inl member)
  refine ⟨?names, ?kept, added (.head _), added (.tail _ (.tail _ (.tail _ (.head _)))),
    distinctNames_supergraph served.distinct service⟩
  case names => rw [map_name_supergraph, own]
  case kept =>
    intro type member notFieldSet notGraph
    rw [← own] at member
    have unowned := served.types type member
    have other : type.name ∉ suppliedNames := by
      simp only [suppliedNames, List.mem_cons, List.not_mem_nil, or_false, not_or]
      exact ⟨notFieldSet, fun named => unowned (by rw [named]; decide),
        fun named => unowned (by rw [named]; decide), notGraph⟩
    exact ⟨composeType (graphName service) type,
      (mem_supergraph_types served.distinct).mpr (.inr ⟨type, member, other, rfl⟩),
      withoutUsages_composeType (graphName service) type⟩

/-- A service with a type that is called like the enumeration of graphs. -/
def graphedService : Document where
  definitions :=
    [.type (plainObject "Query"
        [plainField "cup" (.named "Cup"), plainField "graph" (.named "join__Graph")]),
      .type (plainObject "join__Graph" [plainField "name" (.named "Int")]),
      .type (plainObject "Cup" [plainField "id" (.named "ID")])]

theorem graph_lost_graphedService :
    ∃ schema, compose "cups" graphedService = .ok schema ∧
      schema.types.map (·.name) =
        ["Query", "join__Graph", "Cup", "join__FieldSet", "link__Import", "link__Purpose"] ∧
      (∃ kept ∈ schema.types,
        kept.withoutUsages = plainObject "Cup" [plainField "id" (.named "ID")]) ∧
      ∀ type ∈ schema.types, type.name = "join__Graph" → type = graphEnum "cups" := by
  have clean : compositionProblems (serviceDefinitions graphedService) = [] :=
    List.isEmpty_iff.mp (by decide)
  have composed : compose "cups" graphedService =
      .ok (supergraph "cups" (serviceDefinitions graphedService)) :=
    compose_ok_iff.mpr ⟨clean, rfl⟩
  obtain ⟨names, kept, -, graphs, distinct⟩ := types_of_compose composed
  refine ⟨_, composed, names.trans rfl, ?_, fun type member named => ?_⟩
  · exact kept (plainObject "Cup" [plainField "id" (.named "ID")])
      (.tail _ (.tail _ (.head _))) (by decide) (by decide)
  · exact distinct.eq_of_name_eq member graphs named

end FederationSplit.Federation
