import FederationSplit.Proofs.Federation.CompositionRules
import FederationSplit.Proofs.Federation.Loading
import FederationSplit.Proofs.Schema.Regrouping

namespace FederationSplit.Federation

open FederationSplit.Syntax
open FederationSplit.Schema
open FederationSplit.Rules

theorem declaresSupergraph_supergraph (service : String) (definitions : Definitions) :
    declaresSupergraph (supergraph service definitions).toDocument = true := by
  have marked : supergraphDirectives.any (·.name == typeMarker) = true := by decide
  rw [declaresSupergraph, directiveDefinitions_toDocument, supergraph, List.any_append, marked,
    Bool.true_or]

theorem fold_toDocument_supergraph {source : String} {document : Document}
    (parsed : Document.parse source = .ok document)
    (clean : compositionProblems (serviceDefinitions document) = []) (service : String) :
    (fold (supergraph service (serviceDefinitions document)).toDocument).problems = [] ∧
      (fold (supergraph service (serviceDefinitions document)).toDocument).toSchemaDocument =
        supergraph service (serviceDefinitions document) := by
  have distinct :=
    distinctNames_supergraph (served_serviceDefinitions document).distinct service
  have stated : (supergraph service (serviceDefinitions document)).needsSchemaDefinition = true :=
    rfl
  constructor
  · rw [fold_toDocument distinct stated]
  · apply toSchemaDocument_fold_toDocument distinct stated
    · exact fun operation name root =>
        serviceDefinitions_root_named (operationTypes_fold_named parsed) root
    · exact (compositionProblems_eq_nil clean).2.2

/-- A composed supergraph is loaded again, as itself, if nothing in the service is in its way. -/
theorem loadSupergraph_of_compose {service source : String} {document : Document}
    {schema : SchemaDocument} (parsed : Document.parse source = .ok document)
    (composed : compose service document = .ok schema) (loaded : SchemaDocument) :
    loadSupergraph schema.toDocument = .ok loaded ↔
      Composable (serviceDefinitions document) ∧ loaded = schema := by
  obtain ⟨clean, rfl⟩ := compose_ok_iff.mp composed
  obtain ⟨sound, same⟩ := fold_toDocument_supergraph parsed clean service
  rw [loadSupergraph_ok_iff, same, sound, eq_self_iff_true, true_and,
    violations_supergraph_eq_nil_iff service (served_serviceDefinitions document) clean]

end FederationSplit.Federation
