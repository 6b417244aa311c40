import FederationSplit.Proofs.Rules.Plain
import FederationSplit.Proofs.Schema.TypeNames

namespace FederationSplit.Rules

open FederationSplit.Syntax
open FederationSplit.Schema

theorem typeDefinitions_append (front back : List Definition) :
    typeDefinitions { definitions := front ++ back } =
      typeDefinitions { definitions := front } ++ typeDefinitions { definitions := back } :=
  List.filterMap_append

theorem directiveDefinitions_append (front back : List Definition) :
    directiveDefinitions { definitions := front ++ back } =
      directiveDefinitions { definitions := front } ++
        directiveDefinitions { definitions := back } :=
  List.filterMap_append

theorem typeDefinitions_map_type (types : List TypeDefinition) :
    typeDefinitions { definitions := types.map .type } = types := by
  rw [typeDefinitions, List.filterMap_map]
  exact List.filterMap_some

theorem typeDefinitions_map_directive (directives : List DirectiveDefinition) :
    typeDefinitions { definitions := directives.map .directive } = [] := by
  rw [typeDefinitions, List.filterMap_map, List.filterMap_eq_nil_iff]
  exact fun _ _ => rfl

theorem directiveDefinitions_map_directive (directives : List DirectiveDefinition) :
    directiveDefinitions { definitions := directives.map .directive } = directives := by
  rw [directiveDefinitions, List.filterMap_map]
  exact List.filterMap_some

theorem directiveDefinitions_map_type (types : List TypeDefinition) :
    directiveDefinitions { definitions := types.map .type } = [] := by
  rw [directiveDefinitions, List.filterMap_map, List.filterMap_eq_nil_iff]
  exact fun _ _ => rfl

theorem typeDefinitions_toDocument (schema : SchemaDocument) :
    typeDefinitions schema.toDocument = schema.types := by
  unfold SchemaDocument.toDocument
  rw [typeDefinitions_append, typeDefinitions_append, typeDefinitions_map_type,
    typeDefinitions_map_directive, List.append_nil]
  split <;> rfl

theorem directiveDefinitions_toDocument (schema : SchemaDocument) :
    directiveDefinitions schema.toDocument = schema.directives := by
  unfold SchemaDocument.toDocument
  rw [directiveDefinitions_append, directiveDefinitions_append, directiveDefinitions_map_type,
    directiveDefinitions_map_directive, List.append_nil]
  split <;> rfl

theorem find?_directive_of_mem {directives : List DirectiveDefinition}
    (distinct : (directives.map (·.name)).Nodup) {directive : DirectiveDefinition}
    (member : directive ∈ directives) :
    directives.find? (·.name == directive.name) = some directive := by
  have present : (directives.find? (·.name == directive.name)).isSome :=
    List.find?_isSome.mpr ⟨directive, member, beq_self_eq_true _⟩
  obtain ⟨other, found⟩ := Option.isSome_iff_exists.mp present
  have named := List.find?_some found
  rw [found, List.inj_on_of_nodup_map distinct (List.mem_of_find?_eq_some found) member
    (beq_iff_eq.mp named)]

theorem find?_reverse_of_distinct {directives : List DirectiveDefinition}
    (distinct : (directives.map (·.name)).Nodup) (name : Name) :
    directives.reverse.find? (·.name == name) = directives.find? (·.name == name) := by
  have reversed : (directives.reverse.map (·.name)).Nodup := by
    rw [List.map_reverse]
    exact List.nodup_reverse.mpr distinct
  cases first : directives.find? (·.name == name) with
  | none =>
      rw [List.find?_eq_none] at first ⊢
      exact fun directive member => first directive (List.mem_reverse.mp member)
  | some directive =>
      have named := List.find?_some first
      rw [← beq_iff_eq.mp named]
      exact find?_directive_of_mem reversed
        (List.mem_reverse.mpr (List.mem_of_find?_eq_some first))

theorem countP_isSchemaDefinition_map_type (types : List TypeDefinition) :
    (types.map Definition.type).countP isSchemaDefinition = 0 := by
  rw [List.countP_map, List.countP_eq_zero]
  exact fun _ _ => Bool.false_ne_true

theorem countP_isSchemaDefinition_map_directive (directives : List DirectiveDefinition) :
    (directives.map Definition.directive).countP isSchemaDefinition = 0 := by
  rw [List.countP_map, List.countP_eq_zero]
  exact fun _ _ => Bool.false_ne_true

private theorem pairwise_isSchemaDefinition {definitions : List Definition}
    (single : definitions.countP isSchemaDefinition ≤ 1) :
    definitions.Pairwise fun other definition =>
      isSchemaDefinition other = true → isSchemaDefinition definition = true → False := by
  rw [← List.pairwise_filter]
  rw [List.countP_eq_length_filter] at single
  match definitions.filter isSchemaDefinition, single with
  | [], _ => exact List.Pairwise.nil
  | [schema], _ => exact List.pairwise_singleton _ schema

/--
A plain document with one schema definition at most keeps the rules when no type and no directive is
defined twice and each definition keeps them.
-/
theorem violations_eq_nil_iff_of_single {document : Document}
    (plain : ∀ definition ∈ document.definitions, isPlain definition = true)
    (single : document.definitions.countP isSchemaDefinition ≤ 1) :
    violations document = [] ↔
      (((directiveDefinitions document).map (·.name)).Nodup ∧
          DistinctNames (typeDefinitions document)) ∧
        ∀ definition ∈ document.definitions,
          checkDefinition (Known.ofDocument document) [] definition = [] := by
  rw [violations_eq_nil_iff plain]
  apply and_congr_left
  intro _
  rw [DistinctNames, List.nodup_iff_pairwise_ne, List.nodup_iff_pairwise_ne, List.pairwise_map,
    List.pairwise_map, directiveDefinitions, typeDefinitions, List.pairwise_filterMap,
    List.pairwise_filterMap, ← List.pairwise_and_iff]
  constructor
  · refine List.Pairwise.imp fun {other definition} apart => ⟨?directives, ?types⟩
    case directives =>
      intro directive isDirective later isLater same
      cases other <;> cases isDirective
      cases definition <;> cases isLater
      exact apart same
    case types =>
      intro type isType later isLater same
      cases other <;> cases isType
      cases definition <;> cases isLater
      exact apart same
  · intro distinct
    refine (distinct.and (pairwise_isSchemaDefinition single)).imp
      fun {other definition} apart => ?_
    obtain ⟨⟨directives, types⟩, schemas⟩ := apart
    intro clash
    unfold Clash at clash
    split at clash
    · exact schemas rfl rfl
    · exact types _ rfl _ rfl clash
    · exact directives _ rfl _ rfl clash
    · exact clash

private theorem mem_toDocument {schema : SchemaDocument} {definition : Definition} :
    definition ∈ schema.toDocument.definitions ↔
      (schema.needsSchemaDefinition = true ∧ definition = .schema schema.schemaDefinition) ∨
        (∃ directive ∈ schema.directives, .directive directive = definition) ∨
        ∃ type ∈ schema.types, .type type = definition := by
  rw [SchemaDocument.toDocument, List.mem_append, List.mem_append, List.mem_map, List.mem_map,
    or_assoc]
  split <;> simp [*]

private theorem isPlain_toDocument (schema : SchemaDocument) :
    ∀ definition ∈ schema.toDocument.definitions, isPlain definition = true := by
  intro definition member
  rcases mem_toDocument.mp member with ⟨_, rfl⟩ | ⟨_, _, rfl⟩ | ⟨_, _, rfl⟩ <;> rfl

/-- The document of a schema keeps the rules if all its names and each of its definitions do. -/
theorem violations_toDocument_eq_nil_iff {schema : SchemaDocument} :
    violations schema.toDocument = [] ↔
      ((schema.directives.map (·.name)).Nodup ∧ DistinctNames schema.types) ∧
        (schema.needsSchemaDefinition = true →
          checkDefinition (Known.ofDocument schema.toDocument) []
            (.schema schema.schemaDefinition) = []) ∧
        (∀ directive ∈ schema.directives,
          checkDefinition (Known.ofDocument schema.toDocument) [] (.directive directive) = []) ∧
        ∀ type ∈ schema.types,
          checkDefinition (Known.ofDocument schema.toDocument) [] (.type type) = [] := by
  have single : schema.toDocument.definitions.countP isSchemaDefinition ≤ 1 := by
    rw [SchemaDocument.toDocument, List.countP_append, List.countP_append,
      countP_isSchemaDefinition_map_directive, countP_isSchemaDefinition_map_type]
    split
    · exact Nat.le_refl 1
    · exact Nat.zero_le 1
  rw [violations_eq_nil_iff_of_single (isPlain_toDocument schema) single,
    directiveDefinitions_toDocument, typeDefinitions_toDocument]
  apply and_congr_right
  intro _
  constructor
  · intro kept
    refine ⟨fun stated => kept _ (mem_toDocument.mpr (.inl ⟨stated, rfl⟩)), ?_, ?_⟩
    · exact fun directive member => kept _ (mem_toDocument.mpr (.inr (.inl ⟨_, member, rfl⟩)))
    · exact fun type member => kept _ (mem_toDocument.mpr (.inr (.inr ⟨_, member, rfl⟩)))
  · rintro ⟨stated, directives, types⟩ definition member
    rcases mem_toDocument.mp member with ⟨isStated, rfl⟩ | ⟨directive, declared, rfl⟩ |
      ⟨type, declared, rfl⟩
    · exact stated isStated
    · exact directives directive declared
    · exact types type declared

end FederationSplit.Rules
