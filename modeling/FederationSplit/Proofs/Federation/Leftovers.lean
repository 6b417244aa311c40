import FederationSplit.Proofs.Federation.Pruning
import FederationSplit.Proofs.Federation.Replacing
import FederationSplit.Rules.Builtin

namespace FederationSplit.Federation

open FederationSplit.Syntax
open FederationSplit.Schema
open FederationSplit.Rules
open FederationSplit.Settings

def allUsages (schema : SchemaDocument) : List DirectiveUsage :=
  schema.schemaDirectives ++ schema.types.flatMap TypeDefinition.usages ++
    schema.directives.flatMap DirectiveDefinition.usages

/-- The directive definitions that neither belong to composition nor are replaced. -/
def keptDirectives (schema : SchemaDocument) : List DirectiveDefinition :=
  schema.directives.filter fun directive =>
    !isCompositionName directive.name && !isScaffoldDirective directive.name

/-- A type without anything of composition. -/
private def IsClean (type : TypeDefinition) : Prop :=
  isCompositionType type = false ∧ ∀ usage ∈ type.usages, isArtifact usage = false

private theorem isArtifact_of_mem_withoutArtifacts {usages : List DirectiveUsage}
    {usage : DirectiveUsage} (member : usage ∈ withoutArtifacts usages) :
    isArtifact usage = false := by
  simpa using (List.mem_filter.mp member).2

private theorem isArtifact_of_mem_prunedUsages {selection : MarkerSelection}
    {schema : SchemaDocument} {type : TypeDefinition} {usage : DirectiveUsage}
    (member : usage ∈ prunedUsages selection schema type) : isArtifact usage = false := by
  unfold prunedUsages at member
  split at member
  · cases member
  · rcases List.mem_append.mp member with own | stated
    · exact isArtifact_of_mem_withoutArtifacts own
    · rw [isArtifact]
      rcases classifyType_name stated with named | named <;>
        · rw [named]
          decide

private theorem isClean_prunedType {selection : MarkerSelection} {schema : SchemaDocument}
    {type : TypeDefinition} (kept : isCompositionType type = false) :
    IsClean (prunedType selection schema type) := by
  constructor
  · rw [← kept]
    exact isCompositionType_congr (name_prunedType ..) (kind_prunedType ..)
  · intro usage member
    rcases List.mem_append.mp member with outer | inner
    · exact isArtifact_of_mem_prunedUsages outer
    · rw [prunedType, filterBody_eq_mapUsages] at inner
      change usage ∈ (type.body.mapUsages (·.filter (!isArtifact ·))).usages at inner
      rw [TypeBody.usages_mapUsages_filter] at inner
      exact isArtifact_of_mem_withoutArtifacts inner

private theorem isClean_prune (config : Config) (schema : SchemaDocument) :
    ∀ type ∈ (prune config schema).types, IsClean type := by
  intro type member
  rw [prune_types, List.mem_append] at member
  rcases member with kept | link
  · obtain ⟨original, originalMember, rfl⟩ := List.mem_map.mp kept
    exact isClean_prunedType (by simpa using (List.mem_filter.mp originalMember).2)
  · have linkMember := List.mem_of_mem_filter link
    simp only [linkTypes, List.mem_cons, List.not_mem_nil, or_false] at linkMember
    rcases linkMember with rfl | rfl
    · exact ⟨by decide, List.forall_mem_nil _⟩
    · exact ⟨by decide, List.forall_mem_nil _⟩

private theorem isClean_replacedQuery {query : TypeDefinition}
    (clean : ∀ usage ∈ query.usages, isArtifact usage = false) : IsClean (replacedQuery query) := by
  refine ⟨rfl, fun usage member => clean usage (List.mem_append.mpr ?_)⟩
  rcases List.mem_append.mp member with outer | inner
  · exact .inl outer
  · obtain ⟨field, fieldMember, used⟩ := List.mem_flatMap.mp inner
    rcases List.mem_append.mp fieldMember with own | new
    · exact .inr (TypeBody.mem_usages_of_field (List.mem_of_mem_filter own) used)
    · rw [List.mem_singleton.mp new] at used
      cases used

private theorem isClean_replaced {config : Config} {schema : SchemaDocument} {emitted : Bool}
    {registry : EntityRegistry} {query : TypeDefinition}
    (found : (prune config schema).queryType? = some query) :
    ∀ type ∈ (replaced emitted registry query (prune config schema)).types, IsClean type := by
  have own := isClean_prune config schema
  apply forall_mem_replacedTypes own
  case any | fieldSet => exact ⟨by decide, List.forall_mem_nil _⟩
  case union => exact ⟨rfl, List.forall_mem_nil _⟩
  case root => exact isClean_replacedQuery (own query (mem_types_of_queryType? found)).2

private theorem usages_replaced_directives {config : Config} {schema : SchemaDocument}
    {emitted : Bool} {registry : EntityRegistry} {query : TypeDefinition} :
    (replaced emitted registry query (prune config schema)).directives.flatMap
        DirectiveDefinition.usages =
      (keptDirectives schema).flatMap DirectiveDefinition.usages := by
  have link : ((missingLinkDirective schema).filter (!isScaffoldDirective ·.name)).flatMap
      DirectiveDefinition.usages = [] := by
    unfold missingLinkDirective
    split <;> rfl
  have scaffold : scaffoldDirectives.flatMap DirectiveDefinition.usages = [] := rfl
  rw [replaced, prune_directives, List.filter_append, List.flatMap_append, List.flatMap_append,
    link, scaffold, List.append_nil, List.append_nil, List.filter_filter, keptDirectives]
  simp only [Bool.and_comm]

/--
A subgraph declares nothing of composition. The usages of composition that are left in it are those
on the parameters of the directive definitions that it takes over.
-/
theorem leftovers_of_transform {config : Config} {schema result : SchemaDocument}
    (transformed : transform config schema = .ok result) :
    (∀ type ∈ result.types, isCompositionType type = false) ∧
      (∀ directive ∈ result.directives, isCompositionName directive.name = false) ∧
      (allUsages result).filter isArtifact =
        ((keptDirectives schema).flatMap DirectiveDefinition.usages).filter isArtifact := by
  obtain ⟨query, found, done⟩ := eq_replaced_of_assemble transformed
  have clean : ∀ type ∈ result.types, IsClean type := by
    rw [done]
    exact isClean_replaced found
  refine ⟨fun type member => (clean type member).1, fun directive member => ?_, ?_⟩
  · rw [done] at member
    rcases List.mem_append.mp member with kept | scaffold
    · have pruned := List.mem_of_mem_filter kept
      rw [prune_directives] at pruned
      rcases List.mem_append.mp pruned with own | link
      · simpa using (List.mem_filter.mp own).2
      · rw [(mem_missingLinkDirective_iff.mp link).2]
        decide
    · have plain : ∀ directive ∈ scaffoldDirectives, isCompositionName directive.name = false := by
        decide
      exact plain directive scaffold
  · have types : (result.types.flatMap TypeDefinition.usages).filter isArtifact = [] := by
      rw [List.filter_eq_nil_iff]
      intro usage member
      obtain ⟨type, typeMember, used⟩ := List.mem_flatMap.mp member
      rw [(clean type typeMember).2 usage used]
      exact Bool.false_ne_true
    have stated : result.schemaDirectives.filter isArtifact = [] := by
      have plain : isArtifact (linkUsage config.federationUrl) = false :=
        (by decide : isCompositionName "link" = false)
      rw [done, replaced, prune_schemaDirectives, List.filter_cons_of_neg (by simp [plain])]
      rfl
    rw [allUsages, List.filter_append, List.filter_append, types, stated, done,
      usages_replaced_directives]
    rfl

/-- A supergraph whose own directive has a parameter that carries a usage of composition. -/
def taggedSupergraph : SchemaDocument where
  types := [plainObject "Query" [plainField "f" (.named "Int")]]
  directives :=
    [directiveRepeatable "join__type" [parameter "graph" (.named "String")] [.object],
      directiveOnce "join__tag" [] [.argumentDefinition],
      directiveOnce "a"
        [{ parameter "x" (.named "Int") with directives := [DirectiveUsage.of "join__tag" []] }]
        [.object]]
  schemaDirectives := []
  rootTypes := { query := some "Query", mutation := none, subscription := none }

theorem leftovers_taggedSupergraph :
    ∃ result, transform Config.default taggedSupergraph = .ok result ∧
      (allUsages result).filter isArtifact = [DirectiveUsage.of "join__tag" []] := by
  have transformed : ∃ result, transform Config.default taggedSupergraph = .ok result := ⟨_, rfl⟩
  obtain ⟨result, transformed⟩ := transformed
  exact ⟨result, transformed, (leftovers_of_transform transformed).2.2.trans rfl⟩

end FederationSplit.Federation
