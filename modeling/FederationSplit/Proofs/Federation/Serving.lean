import FederationSplit.Federation.Composition
import FederationSplit.Proofs.Schema.Folding

namespace FederationSplit.Federation

open FederationSplit.Syntax
open FederationSplit.Schema

@[simp] theorem name_withoutFederationFields (type : TypeDefinition) :
    (withoutFederationFields type).name = type.name := by
  unfold withoutFederationFields
  split <;> rfl

@[simp] theorem kind_withoutFederationFields (type : TypeDefinition) :
    (withoutFederationFields type).kind = type.kind := by
  unfold withoutFederationFields
  split
  · next body => exact (congrArg TypeBody.kind body).symm
  · rfl

def withoutFederationDefinitions (definitions : Definitions) : Definitions :=
  { definitions with
    types := definitions.types.filter (!federationTypes.contains ·.name)
    directives := definitions.directives.filter (!federationDirectives.contains ·.name) }

/-- A type of a service, without the fields that federation rebuilds if it is the query root. -/
def servedType (query : Option Name) (type : TypeDefinition) : TypeDefinition :=
  if query = some type.name then withoutFederationFields type else type

@[simp] theorem name_servedType (query : Option Name) (type : TypeDefinition) :
    (servedType query type).name = type.name := by
  unfold servedType
  split
  · exact name_withoutFederationFields type
  · rfl

@[simp] theorem kind_servedType (query : Option Name) (type : TypeDefinition) :
    (servedType query type).kind = type.kind := by
  unfold servedType
  split
  · exact kind_withoutFederationFields type
  · rfl

@[simp] theorem directives_servedType (query : Option Name) (type : TypeDefinition) :
    (servedType query type).directives = type.directives := by
  unfold servedType withoutFederationFields
  split
  · split <;> rfl
  · rfl

@[simp] theorem description_servedType (query : Option Name) (type : TypeDefinition) :
    (servedType query type).description = type.description := by
  unfold servedType withoutFederationFields
  split
  · split <;> rfl
  · rfl

theorem body_servedType_of_query {query : Option Name} {type : TypeDefinition}
    (object : type.kind = .object) (root : query = some type.name) :
    (servedType query type).body =
      .object type.body.interfaces
        (type.body.fields.filter (!federationQueryFields.contains ·.name)) := by
  rw [servedType, if_pos root, withoutFederationFields]
  split
  · next body => rw [body]; rfl
  · next noObject =>
      cases body : type.body with
      | object interfaces fields => exact absurd body (noObject interfaces fields)
      | scalar | interface | union | enum | inputObject =>
          rw [TypeDefinition.kind, body] at object
          cases object

theorem body_servedType_of_other {query : Option Name} {type : TypeDefinition}
    (other : type.kind ≠ .object ∨ query ≠ some type.name) :
    (servedType query type).body = type.body := by
  unfold servedType withoutFederationFields
  split
  · next root =>
      split
      · next body =>
          have object : type.kind = .object := by rw [TypeDefinition.kind, body]; rfl
          rcases other with noObject | noRoot
          · exact absurd object noObject
          · exact absurd root noRoot
      · rfl
  · rfl

theorem dropFederationDeclarations_eq (definitions : Definitions) :
    dropFederationDeclarations definitions =
      { withoutFederationDefinitions definitions with
        types := (withoutFederationDefinitions definitions).types.map
          (servedType (withoutFederationDefinitions definitions).rootTypes.query) } := by
  unfold dropFederationDeclarations
  simp only
  rw [← withoutFederationDefinitions]
  split
  · next missing =>
      have unchanged : ∀ type ∈ (withoutFederationDefinitions definitions).types,
          servedType none type = type := fun _ _ => if_neg (Option.some_ne_none _).symm
      rw [missing, List.map_congr_left unchanged, List.map_id']
  · next query found =>
      rw [found]
      congr 1
      apply List.map_congr_left
      intro type _
      by_cases named : type.name = query
      · simp [servedType, named]
      · simp [servedType, named, Ne.symm named]

theorem serviceDefinitions_problems (document : Document) :
    (serviceDefinitions document).problems = (fold document).problems := by
  rw [serviceDefinitions, dropFederationDeclarations_eq]
  rfl

theorem serviceDefinitions_operationTypes (document : Document) :
    (serviceDefinitions document).operationTypes = (fold document).operationTypes := by
  rw [serviceDefinitions, dropFederationDeclarations_eq]
  rfl

theorem serviceDefinitions_rootTypes (document : Document) :
    (serviceDefinitions document).rootTypes =
      (withoutFederationDefinitions (fold document)).rootTypes := by
  rw [serviceDefinitions, dropFederationDeclarations_eq]
  apply Definitions.rootTypes_congr
  · simp only [List.map_map]
    apply List.map_congr_left
    intro type _
    exact name_servedType ..
  · rfl

/-- The types of a service are those of its document, as far as federation does not own them. -/
theorem serviceDefinitions_types (document : Document) :
    (serviceDefinitions document).types =
      ((fold document).types.filter (!federationTypes.contains ·.name)).map
        (servedType (serviceDefinitions document).rootTypes.query) := by
  rw [serviceDefinitions_rootTypes, serviceDefinitions, dropFederationDeclarations_eq]
  rfl

theorem serviceDefinitions_directives (document : Document) :
    (serviceDefinitions document).directives =
      (fold document).directives.filter (!federationDirectives.contains ·.name) := by
  rw [serviceDefinitions, dropFederationDeclarations_eq]
  rfl

theorem serviceDefinitions_root_named {document : Document}
    (named : ∀ item ∈ (fold document).operationTypes, item.2 ≠ "") {operation : OperationType}
    {name : Name} (root : (serviceDefinitions document).rootTypes.get operation = some name) :
    name ≠ "" := by
  apply Definitions.root_named _ root
  rwa [serviceDefinitions_operationTypes]

/-- Definitions without anything that federation rebuilds. -/
structure Served (definitions : Definitions) : Prop where
  distinct : DistinctNames definitions.types
  types : ∀ type ∈ definitions.types, type.name ∉ federationTypes
  directives : ∀ directive ∈ definitions.directives, directive.name ∉ federationDirectives
  fields : ∀ type ∈ definitions.types, type.kind = .object →
    definitions.rootTypes.query = some type.name →
    ∀ field ∈ type.body.fields, field.name ∉ federationQueryFields

theorem served_serviceDefinitions (document : Document) :
    Served (serviceDefinitions document) := by
  constructor
  case distinct =>
    have kept : DistinctNames
        ((fold document).types.filter (!federationTypes.contains ·.name)) :=
      (distinctNames_fold document).sublist List.filter_sublist
    have sameNames : (serviceDefinitions document).types.map (·.name) =
        ((fold document).types.filter (!federationTypes.contains ·.name)).map (·.name) := by
      rw [serviceDefinitions_types, List.map_map]
      apply List.map_congr_left
      intro type _
      exact name_servedType ..
    rwa [DistinctNames, sameNames]
  case types =>
    intro type member
    rw [serviceDefinitions_types] at member
    obtain ⟨original, kept, rfl⟩ := List.mem_map.mp member
    rw [name_servedType]
    simpa using (List.mem_filter.mp kept).2
  case directives =>
    intro directive member
    rw [serviceDefinitions_directives] at member
    simpa using (List.mem_filter.mp member).2
  case fields =>
    intro type member object root
    rw [serviceDefinitions_types] at member
    obtain ⟨original, _, rfl⟩ := List.mem_map.mp member
    rw [name_servedType] at root
    rw [kind_servedType] at object
    rw [body_servedType_of_query object root]
    intro field fieldMember
    simpa using (List.mem_filter.mp fieldMember).2

end FederationSplit.Federation
