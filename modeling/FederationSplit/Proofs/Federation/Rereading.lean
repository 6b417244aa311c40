import FederationSplit.Proofs.Federation.EntityUnion
import FederationSplit.Rules.Check

namespace FederationSplit.Federation

open FederationSplit.Syntax
open FederationSplit.Schema
open FederationSplit.Rules
open FederationSplit.Settings

theorem distinctNames_replacedTypes {types : List TypeDefinition} (distinct : DistinctNames types)
    (emitted : Bool) (registry : EntityRegistry) (query : TypeDefinition) :
    DistinctNames (replacedTypes emitted registry query types) := by
  have scalars : DistinctNames (replacedScalars types) := distinct.setType.setType
  unfold replacedTypes
  split
  · exact scalars.setType.setType
  · exact scalars

section

variable {config : Config} {schema result : SchemaDocument}
  (transformed : transform config schema = .ok result)

include transformed

theorem distinctNames_of_transform (distinct : DistinctNames schema.types) :
    DistinctNames result.types := by
  obtain ⟨query, -, rfl⟩ := eq_replaced_of_assemble transformed
  exact distinctNames_replacedTypes (distinctNames_prune distinct config) _ _ _

theorem rootTypes_of_transform : result.rootTypes = schema.rootTypes := by
  obtain ⟨query, -, rfl⟩ := eq_replaced_of_assemble transformed
  exact prune_rootTypes config schema

theorem schemaDirectives_of_transform :
    result.schemaDirectives = [linkUsage config.federationUrl] := by
  obtain ⟨query, -, rfl⟩ := eq_replaced_of_assemble transformed
  exact prune_schemaDirectives config schema

theorem needsSchemaDefinition_of_transform : result.needsSchemaDefinition = true := by
  rw [SchemaDocument.needsSchemaDefinition, schemaDirectives_of_transform transformed]
  rfl

theorem query_isSome_of_transform : schema.rootTypes.query.isSome := by
  obtain ⟨query, found, -⟩ := eq_replaced_of_assemble transformed
  rw [← prune_rootTypes config schema]
  cases root : (prune config schema).rootTypes.query with
  | none =>
      rw [SchemaDocument.queryType?, root] at found
      cases found
  | some name => rfl

end

theorem filter_isSchemaDefinition_toDocument {schema : SchemaDocument}
    (needed : schema.needsSchemaDefinition = true) :
    schema.toDocument.definitions.filter isSchemaDefinition =
      [.schema schema.schemaDefinition] := by
  have directives :
      (schema.directives.map Definition.directive).filter isSchemaDefinition = [] := by
    simp [List.filter_eq_nil_iff, isSchemaDefinition]
  have types : (schema.types.map Definition.type).filter isSchemaDefinition = [] := by
    simp [List.filter_eq_nil_iff, isSchemaDefinition]
  rw [SchemaDocument.toDocument, if_pos needed, List.filter_append, List.filter_append, directives,
    types]
  rfl

/--
The subgraph of a schema that is read from a text is found again in its own document. One schema
definition states all root types, the one of queries among them; nothing is declared twice.
-/
theorem fold_toDocument_of_transform {source : String} {document : Document}
    (parsed : Document.parse source = .ok document) {config : Config} {result : SchemaDocument}
    (transformed : transform config (fold document).toSchemaDocument = .ok result) :
    (∃ definition : SchemaDefinition,
      result.toDocument.definitions.filter isSchemaDefinition = [.schema definition] ∧
        (∃ root, (.query, root) ∈ definition.operationTypes) ∧
        ∀ operation, definition.operationTypes.lookup operation =
          (fold document).rootTypes.get operation) ∧
      (fold result.toDocument).problems = [] ∧
      (fold result.toDocument).toSchemaDocument = result := by
  have needed := needsSchemaDefinition_of_transform transformed
  have distinct : DistinctNames result.types :=
    distinctNames_of_transform transformed (distinctNames_fold document)
  have sameRoots : result.rootTypes = (fold document).rootTypes :=
    rootTypes_of_transform transformed
  have named : ∀ operation name, result.rootTypes.get operation = some name → name ≠ "" := by
    rw [sameRoots]
    exact fun _ _ => Definitions.root_named (operationTypes_fold_named parsed)
  have queries : result.rootTypes.query.isSome := by
    rw [sameRoots]
    exact query_isSome_of_transform transformed
  have stated (operation : OperationType) : result.rootTypes.items.lookup operation =
      result.rootTypes.get operation :=
    RootTypes.lookup_items_of_named named operation
  refine ⟨⟨_, filter_isSchemaDefinition_toDocument needed, ?_, ?_⟩, ?_, ?_⟩
  · obtain ⟨root, isRoot⟩ := Option.isSome_iff_exists.mp queries
    obtain ⟨front, back, items, -⟩ := List.lookup_eq_some_iff.mp ((stated .query).trans isRoot)
    refine ⟨root, ?_⟩
    rw [SchemaDocument.schemaDefinition, items]
    simp
  · exact fun operation => (stated operation).trans (by rw [sameRoots])
  · rw [fold_toDocument distinct needed]
  · exact toSchemaDocument_fold_toDocument distinct needed named queries

def scaffoldedSource : String :=
  "schema \x7b query: _Entity mutation: Cups \x7d " ++
    "directive @join__type(key: String) on OBJECT directive @key on OBJECT " ++
    "type _Entity \x7b _entities: Int \x7d type _Any \x7b f: Int \x7d type Cups \x7b f: Int \x7d " ++
    "type Cup @join__type(key: \"id\") \x7b id: ID \x7d type Query \x7b f: Int \x7d"

/-- Its declarations are replaced, and what takes their places is read as it stands there. -/
theorem fold_toDocument_scaffoldedSource :
    ∃ document result, Document.parse scaffoldedSource = .ok document ∧
      transform forgivingConfig (fold document).toSchemaDocument = .ok result ∧
      result.types.map (·.name) = ["_Entity", "_Any", "Cups", "Cup", "Query", "link__Import",
        "link__Purpose", "FieldSet"] ∧
      (fold result.toDocument).toSchemaDocument = result := by
  have read : ∃ document result, Document.parse scaffoldedSource = .ok document ∧
      transform forgivingConfig (fold document).toSchemaDocument = .ok result ∧
      result.types.map (·.name) = ["_Entity", "_Any", "Cups", "Cup", "Query", "link__Import",
        "link__Purpose", "FieldSet"] := by
    have written : scaffoldedSource = String.ofList _ ++ String.ofList _ ++ String.ofList _ ++
      String.ofList _ := rfl
    rw [Document.parse, tokens, written]
    simp only [String.toList_append, String.toList_ofList]
    exact ⟨_, _, rfl, rfl, rfl⟩
  obtain ⟨document, result, parsed, transformed, names⟩ := read
  exact ⟨document, result, parsed, transformed, names,
    (fold_toDocument_of_transform parsed transformed).2.2⟩

end FederationSplit.Federation
