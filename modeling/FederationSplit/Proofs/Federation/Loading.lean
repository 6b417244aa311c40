import FederationSplit.Federation.Loading
import FederationSplit.Proofs.Federation.Acceptance
import FederationSplit.Proofs.Federation.Composing
import FederationSplit.Proofs.Rules.Plain

namespace FederationSplit.Federation

open FederationSplit.Schema
open FederationSplit.Syntax
open FederationSplit.Rules
open FederationSplit.Settings

theorem loadSupergraph_ok_iff {document : Document} {schema : SchemaDocument} :
    loadSupergraph document = .ok schema ↔
      violations document = [] ∧ (fold document).problems = [] ∧
        schema = (fold document).toSchemaDocument := by
  rw [← check_eq_ok_nil_iff, loadSupergraph]
  cases check document with
  | error number => simp
  | ok found =>
      cases found with
      | cons violation rest => simp
      | nil =>
          cases (fold document).problems with
          | nil => simp [eq_comm]
          | cons problem rest => simp

theorem loadDocument_ok_iff {kind : InputKind} {service : String} {document : Document}
    {schema : SchemaDocument} :
    loadDocument kind service document = .ok schema ↔
      if effectiveKind kind document = .service then
        compositionProblems (serviceDefinitions document) = [] ∧
          schema = supergraph service (serviceDefinitions document)
      else
        violations document = [] ∧ (fold document).problems = [] ∧
          schema = (fold document).toSchemaDocument := by
  have composed : (compose service document).mapError (LoadError.composition service) =
      .ok schema ↔ compose service document = .ok schema := by
    cases compose service document <;> simp [Except.mapError]
  unfold loadDocument
  split
  · next isService => rw [if_pos isService, composed, compose_ok_iff]
  · next isOther => rw [if_neg isOther, loadSupergraph_ok_iff]

theorem load_ok_iff {kind : InputKind} {service source : String} {schema : SchemaDocument} :
    load kind service source = .ok schema ↔
      ∃ document, Document.parse source = .ok document ∧
        loadDocument kind service document = .ok schema := by
  unfold load
  cases Document.parse source with
  | error error => simp [Except.mapError, bind, Except.bind]
  | ok document => simp [Except.mapError, bind, Except.bind]

theorem distinctNames_loadDocument {kind : InputKind} {service : String} {document : Document}
    {schema : SchemaDocument} (loaded : loadDocument kind service document = .ok schema) :
    DistinctNames schema.types := by
  rw [loadDocument_ok_iff] at loaded
  split at loaded
  · obtain ⟨-, rfl⟩ := loaded
    exact distinctNames_supergraph (served_serviceDefinitions document).distinct service
  · obtain ⟨-, -, rfl⟩ := loaded
    exact distinctNames_fold document

end FederationSplit.Federation
