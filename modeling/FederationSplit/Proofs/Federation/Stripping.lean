import FederationSplit.Proofs.Federation.Pruning

namespace FederationSplit.Federation

open FederationSplit.Syntax
open FederationSplit.Schema

theorem strippedUsages?_eq_none_iff {usages : List DirectiveUsage} :
    strippedUsages? usages = none ↔ ∀ usage ∈ usages, isArtifact usage = false := by
  simp [strippedUsages?, hasArtifact]

/-- A list is spared exactly if each of its items is, wherever it stands. -/
theorem changedItems?_eq_none_iff {α : Type} {change? : α → Option α} {items : List α} :
    changedItems? change? items = none ↔ ∀ item ∈ items, change? item = none := by
  simp [changedItems?]

theorem strippedInputValue?_eq_none_iff {definition : InputValueDefinition} :
    strippedInputValue? definition = none ↔
      ∀ usage ∈ definition.directives, isArtifact usage = false := by
  rw [strippedInputValue?, Option.map_eq_none_iff, strippedUsages?_eq_none_iff]

theorem strippedEnumValue?_eq_none_iff {definition : EnumValueDefinition} :
    strippedEnumValue? definition = none ↔
      ∀ usage ∈ definition.directives, isArtifact usage = false := by
  rw [strippedEnumValue?, Option.map_eq_none_iff, strippedUsages?_eq_none_iff]

theorem strippedField?_eq_none_iff {definition : FieldDefinition} :
    strippedField? definition = none ↔ ∀ usage ∈ definition.usages, isArtifact usage = false := by
  have parts : strippedField? definition = none ↔
      strippedUsages? definition.directives = none ∧
        changedItems? strippedInputValue? definition.arguments = none := by
    unfold strippedField?
    split
    · simp [*]
    · next spared =>
        exact ⟨nofun, fun ⟨directives, arguments⟩ => (spared directives arguments).elim⟩
  rw [parts, strippedUsages?_eq_none_iff, changedItems?_eq_none_iff, FieldDefinition.usages,
    List.forall_mem_append, List.forall_mem_flatMap]
  simp only [strippedInputValue?_eq_none_iff]

theorem strippedBody?_eq_none_iff {body : TypeBody} :
    strippedBody? body = none ↔ ∀ usage ∈ body.usages, isArtifact usage = false := by
  cases body with
  | scalar | union => exact ⟨fun _ => List.forall_mem_nil _, fun _ => rfl⟩
  | object interfaces fields | interface interfaces fields =>
      rw [strippedBody?, Option.map_eq_none_iff, changedItems?_eq_none_iff, TypeBody.usages,
        List.forall_mem_flatMap]
      simp only [strippedField?_eq_none_iff]
  | enum values =>
      rw [strippedBody?, Option.map_eq_none_iff, changedItems?_eq_none_iff, TypeBody.usages,
        List.forall_mem_flatMap]
      simp only [strippedEnumValue?_eq_none_iff]
  | inputObject fields =>
      rw [strippedBody?, Option.map_eq_none_iff, changedItems?_eq_none_iff, TypeBody.usages,
        List.forall_mem_flatMap]
      simp only [strippedInputValue?_eq_none_iff]

theorem strippedType?_eq_none_iff {type : TypeDefinition} :
    strippedType? type = none ↔ ∀ usage ∈ type.usages, isArtifact usage = false := by
  have parts : strippedType? type = none ↔
      strippedUsages? type.directives = none ∧ strippedBody? type.body = none := by
    unfold strippedType?
    split
    · simp [*]
    · next spared =>
        exact ⟨nofun, fun ⟨directives, body⟩ => (spared directives body).elim⟩
  rw [parts, strippedUsages?_eq_none_iff, strippedBody?_eq_none_iff, TypeDefinition.usages,
    List.forall_mem_append]

theorem withoutUsages_filterType (type : TypeDefinition) :
    (filterType type).withoutUsages = type.withoutUsages := by
  rw [TypeDefinition.withoutUsages, filterType, filterBody_eq_mapUsages,
    TypeBody.mapUsages_mapUsages]
  rfl

theorem usages_filterType (type : TypeDefinition) :
    (filterType type).usages = withoutArtifacts type.usages := by
  have body : (filterBody type.body).usages = withoutArtifacts type.body.usages := by
    rw [filterBody_eq_mapUsages]
    exact TypeBody.usages_mapUsages_filter _ type.body
  rw [TypeDefinition.usages, TypeDefinition.usages, withoutArtifacts, List.filter_append]
  exact congrArg _ body

/--
Sparing what carries no usage of composition has the effect of filtering every list of usages. A
type is spared exactly if no usage on it or inside it is one of composition, of the usages of each
type all others stay in order, and nothing but usages changes.
-/
theorem strip_eq_filterArtifacts (schema : SchemaDocument) :
    strip schema = filterArtifacts schema ∧
      (∀ type, strippedType? type = none ↔ ∀ usage ∈ type.usages, isArtifact usage = false) ∧
      ∃ types, strip schema = { schema with types } ∧
        types.map (·.withoutUsages) = schema.types.map (·.withoutUsages) ∧
        types.map (·.usages) = schema.types.map fun type => type.usages.filter (!isArtifact ·) := by
  have filtered : strip schema = filterArtifacts schema := by
    rw [strip, filterArtifacts, List.map_congr_left fun type _ => strippedType?_getD type]
  refine ⟨filtered, fun _ => strippedType?_eq_none_iff, schema.types.map filterType, filtered,
    ?unchanged, ?kept⟩
  case unchanged =>
    rw [List.map_map]
    exact List.map_congr_left fun type _ => withoutUsages_filterType type
  case kept =>
    rw [List.map_map]
    exact List.map_congr_left fun type _ => usages_filterType type

end FederationSplit.Federation
