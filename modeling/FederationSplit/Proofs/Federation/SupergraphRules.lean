import FederationSplit.Proofs.Federation.Leftovers
import FederationSplit.Proofs.Federation.Loading
import FederationSplit.Proofs.Federation.ScaffoldRules
import FederationSplit.Proofs.Rules.Folded

namespace FederationSplit.Federation

open FederationSplit.Syntax
open FederationSplit.Schema
open FederationSplit.Rules
open FederationSplit.Settings
open FederationSplit.TypeSystem

def removedNames (schema : SchemaDocument) : List Name :=
  (schema.types.filter isCompositionType).map (·.name)

/-- What is asked of a supergraph that keeps the rules, so that its subgraph keeps them too. -/
structure StaysValid (known : Known) (schema : SchemaDocument) : Prop where
  link : ∀ definition, schema.directive? "link" = some definition → FitsLink definition
  roots : ∀ item ∈ schema.rootTypes.items, item.2 ∉ removedNames schema
  types : ∀ type ∈ keptTypes schema,
    ∀ name ∈ Declarations.referencedNames type, name ∉ removedNames schema
  inputs : ∀ type ∈ keptTypes schema, ∀ field ∈ inputFields type.body,
    ∀ usage ∈ field.directives, isArtifact usage = false →
      MayStand known .inputFieldDefinition usage
  parameters : ∀ directive ∈ schema.directives, isCompositionName directive.name = false →
    ∀ argument ∈ directive.arguments,
      argument.type.baseName ∉ removedNames schema ∧
        ∀ usage ∈ argument.directives, isArtifact usage = false

/-- What a subgraph declares. -/
def splitKnown (config : Config) (schema : SchemaDocument) : Known :=
  Known.ofDocument (rewrite config schema).toDocument

section

variable (config : Config) {schema : SchemaDocument}

theorem names_rewrite (schema : SchemaDocument) :
    (rewrite config schema).types.map (·.name) =
      (prune config schema).types.map (·.name) ++ scaffoldNames (emits config schema) := by
  rw [← scaffolded_prune, scaffolded, List.map_append, names_scaffoldTypes, List.map_map]
  congr 1
  exact List.map_congr_left fun type _ => name_scaffoldedType ..

private theorem distinctNames_rewrite (distinct : DistinctNames schema.types)
    (unclaimed : Unclaimed (emits config schema) schema) :
    DistinctNames (rewrite config schema).types := by
  have pruned : Unclaimed _ (prune config schema) := unclaimed_prune_iff.mpr unclaimed
  have scaffold : ∀ emitted, (scaffoldNames emitted).Nodup := by decide
  rw [DistinctNames, names_rewrite, List.nodup_append]
  refine ⟨distinctNames_prune distinct config, scaffold _, ?_⟩
  rintro name own other added rfl
  exact pruned.fresh added own

theorem allNames_splitKnown (schema : SchemaDocument) :
    (splitKnown config schema).allNames =
      builtinTypeNames ++ ((keptTypes schema).map (·.name) ++
        (missingLinkTypes schema).map (·.name) ++ scaffoldNames (emits config schema)) := by
  have pruned : (prune config schema).types.map (·.name) =
      (keptTypes schema).map (·.name) ++ (missingLinkTypes schema).map (·.name) := by
    rw [prune_types, List.map_append, List.map_map]
    rfl
  rw [splitKnown, Known.ofDocument, typeNames, typeDefinitions_toDocument, names_rewrite, pruned]

private theorem isCompositionName_of_isCompositionType {type : TypeDefinition}
    (composition : isCompositionType type = true) : isCompositionName type.name = true := by
  unfold isCompositionType at composition
  split at composition
  · exact composition
  · exact composition
  · cases composition

private theorem plain_of_added (emitted : Bool) :
    (∀ name ∈ builtinTypeNames, isCompositionName name = false) ∧
      (∀ type ∈ linkTypes, isCompositionName type.name = false) ∧
      ∀ name ∈ scaffoldNames emitted, isCompositionName name = false := by
  cases emitted <;> decide

theorem mem_allNames_splitKnown {known : Known} (kept : FoldKept known schema) {name : Name}
    (isKnown : name ∈ known.allNames) :
    name ∈ (splitKnown config schema).allNames ↔ name ∉ removedNames schema := by
  rw [allNames_splitKnown, List.mem_append, List.mem_append, List.mem_append]
  constructor
  · rintro present removed
    obtain ⟨type, typeRemoved, rfl⟩ := List.mem_map.mp removed
    obtain ⟨typeMember, composition⟩ := List.mem_filter.mp typeRemoved
    have named := isCompositionName_of_isCompositionType composition
    obtain ⟨builtinPlain, linkPlain, scaffoldPlain⟩ :=
      plain_of_added (emits config schema)
    rcases present with builtin | (own | link) | scaffold
    · rw [builtinPlain type.name builtin] at named
      cases named
    · obtain ⟨other, otherKept, sameName⟩ := List.mem_map.mp own
      obtain ⟨otherMember, plain⟩ := List.mem_filter.mp otherKept
      rw [kept.distinctTypes.eq_of_name_eq otherMember typeMember sameName, composition] at plain
      cases plain
    · obtain ⟨other, missing, sameName⟩ := List.mem_map.mp link
      rw [← sameName, linkPlain other (List.mem_of_mem_filter missing)] at named
      cases named
    · rw [scaffoldPlain type.name scaffold] at named
      cases named
  · intro stays
    rw [kept.names, List.mem_append] at isKnown
    refine isKnown.imp_right fun own => .inl (.inl ?_)
    obtain ⟨type, typeMember, rfl⟩ := List.mem_map.mp own
    apply List.mem_map_of_mem
    rw [keptTypes, List.mem_filter]
    refine ⟨typeMember, ?_⟩
    by_contra composition
    apply stays
    exact List.mem_map_of_mem (List.mem_filter.mpr ⟨typeMember, by simpa using composition⟩)

private theorem link_known (schema : SchemaDocument) :
    ∀ name ∈ linkTypes.map (·.name), name ∈ (splitKnown config schema).allNames := by
  rw [List.forall_mem_map]
  intro type member
  rw [allNames_splitKnown, List.mem_append, List.mem_append, List.mem_append]
  right; left
  cases found : schema.type? type.name with
  | none =>
      right
      exact List.mem_map_of_mem (List.mem_filter.mpr ⟨member, by rw [found]; rfl⟩)
  | some own =>
      left
      obtain ⟨ownMember, sameName⟩ := mem_of_findType? found
      rw [← sameName]
      apply List.mem_map_of_mem
      rw [keptTypes, List.mem_filter]
      refine ⟨ownMember, ?_⟩
      by_contra composition
      have named : isCompositionName own.name = true :=
        isCompositionName_of_isCompositionType (by simpa using composition)
      rw [sameName, (plain_of_added true).2.1 type member] at named
      cases named

private theorem splitKnown_directives (schema : SchemaDocument) :
    (splitKnown config schema).directives =
      [shareableDirective, keyDirective] ++ (missingLinkDirective schema ++
        ((schema.directives.filter (!isCompositionName ·.name)).reverse ++ builtinDirectives)) := by
  have link : (missingLinkDirective schema).reverse = missingLinkDirective schema := by
    unfold missingLinkDirective
    split <;> rfl
  rw [splitKnown, Known.ofDocument, directiveDefinitions_toDocument]
  change (_ ++ missingLinkDirective schema ++ [keyDirective, shareableDirective]).reverse ++
    builtinDirectives = _
  rw [List.reverse_append, List.reverse_append, link]
  simp only [List.append_assoc]
  rfl

private theorem declaresScaffold_split (schema : SchemaDocument) :
    DeclaresScaffold (splitKnown config schema) where
  key := by
    rw [Known.directive?, splitKnown_directives]
    rfl
  shareable := by
    rw [Known.directive?, splitKnown_directives]
    rfl
  names := by
    have link := link_known config schema
    have scaffold : ∀ name ∈ ["_Any", "FieldSet"], name ∈ (splitKnown config schema).allNames := by
      intro name member
      rw [allNames_splitKnown]
      exact List.mem_append_right _ (List.mem_append_right _ (List.mem_append_left _ member))
    intro name added
    rcases List.mem_append.mp added with own | builtin
    · simp only [List.mem_cons, List.not_mem_nil, or_false] at own
      rcases own with rfl | rfl | rfl | rfl
      · exact link "link__Import" (by decide)
      · exact link "link__Purpose" (by decide)
      · exact scaffold "_Any" (by decide)
      · exact scaffold "FieldSet" (by decide)
    · rw [allNames_splitKnown]
      exact List.mem_append_left _ builtin

private theorem narrows_split {known : Known} (kept : FoldKept known schema)
    (unclaimed : Unclaimed (emits config schema) schema) :
    Narrows (!isArtifact ·) known (splitKnown config schema) := by
  intro usage stays definition declared
  have plain : isCompositionName usage.name = false := by simpa [isArtifact] using stays
  obtain ⟨found, named⟩ := mem_of_directive? declared
  rw [kept.directives, List.mem_append, List.mem_reverse] at found
  have builtinApart : ∀ directive ∈ builtinDirectives,
      isScaffoldDirective directive.name = false ∧ directive.name ≠ "link" := by
    decide
  have scaffold : [shareableDirective, keyDirective].find? (·.name == usage.name) = none := by
    have free : isScaffoldDirective usage.name = false := by
      rw [← named]
      rcases found with own | builtin
      · exact unclaimed.directives definition own
      · exact (builtinApart definition builtin).1
    rw [isScaffoldDirective, List.any_eq_false] at free
    change scaffoldDirectives.reverse.find? _ = none
    rw [List.find?_eq_none]
    exact fun directive member => free directive (List.mem_reverse.mp member)
  have link : (missingLinkDirective schema).find? (·.name == usage.name) = none := by
    rw [List.find?_eq_none]
    intro directive member same
    obtain ⟨missing, rfl⟩ := mem_missingLinkDirective_iff.mp member
    have isLink : definition.name = "link" := named.trans (beq_iff_eq.mp same).symm
    rcases found with own | builtin
    · exact missing definition own isLink
    · exact (builtinApart definition builtin).2 isLink
  rw [← declared, Known.directive?, Known.directive?, splitKnown_directives, kept.directives,
    List.find?_append, List.find?_append, List.find?_append, List.find?_append, scaffold, link,
    find?_plainDirectives _ plain]
  rfl

private theorem plain_of_checkUsage {location : DirectiveLocation} {usage : DirectiveUsage}
    (kept : checkUsage (splitKnown config schema) location usage = []) :
    (!isArtifact usage) = true := by
  obtain ⟨definition, found, named, -⟩ := declares_of_checkUsage kept
  have addedPlain : ∀ directive ∈ [shareableDirective, keyDirective] ++ builtinDirectives,
      isCompositionName directive.name = false := by
    decide
  rw [splitKnown_directives, List.mem_append, List.mem_append, List.mem_append,
    List.mem_reverse] at found
  rw [isArtifact, ← named, Bool.not_eq_true']
  rcases found with scaffold | link | own | builtin
  · exact addedPlain definition (List.mem_append_left _ scaffold)
  · rw [(mem_missingLinkDirective_iff.mp link).2]
    decide
  · simpa using (List.mem_filter.mp own).2
  · exact addedPlain definition (List.mem_append_right _ builtin)

private theorem checkDirective_split_iff {known : Known} (kept : FoldKept known schema)
    (unclaimed : Unclaimed (emits config schema) schema) {directive : DirectiveDefinition}
    (member : directive ∈ schema.directives) :
    checkDefinition (splitKnown config schema) [] (.directive directive) = [] ↔
      ∀ argument ∈ directive.arguments,
        argument.type.baseName ∉ removedNames schema ∧
          ∀ usage ∈ argument.directives, isArtifact usage = false := by
  have keptBefore := kept.definitions directive member
  rw [checkDefinition_directive_narrowed_iff (narrows_split config kept unclaimed) keptBefore
    fun _ => plain_of_checkUsage config]
  apply forall₂_congr
  intro argument argumentMember
  have parameter := (checkDefinition_directive_eq_nil_iff.mp keptBefore).2 argument argumentMember
  rw [mem_allNames_splitKnown config kept (checkInputValue_eq_nil_iff.mp parameter).2.1]
  simp only [Bool.not_eq_true']

/-- The link directive that counts in a subgraph is the one of the supergraph, if it has one. -/
private theorem directive?_link_split {known : Known} (kept : FoldKept known schema) :
    (splitKnown config schema).directive? "link" =
      some ((schema.directive? "link").getD (linkDirective (required "String"))) := by
  have scaffold : [shareableDirective, keyDirective].find? (·.name == "link") = none := by rfl
  rw [Known.directive?, splitKnown_directives, List.find?_append, List.find?_append,
    List.find?_append, scaffold, find?_plainDirectives _ (by decide),
    find?_reverse_of_distinct kept.distinctDirectives, ← SchemaDocument.directive?,
    missingLinkDirective]
  cases schema.directive? "link" <;> rfl

private theorem checkSchema_split_iff {known : Known} (kept : FoldKept known schema) :
    checkDefinition (splitKnown config schema) []
        (.schema (rewrite config schema).schemaDefinition) = [] ↔
      (∀ definition, schema.directive? "link" = some definition → FitsLink definition) ∧
        ∀ item ∈ schema.rootTypes.items, item.2 ∉ removedNames schema := by
  have fits : FitsLink ((schema.directive? "link").getD (linkDirective (required "String"))) ↔
      ∀ definition, schema.directive? "link" = some definition → FitsLink definition := by
    cases schema.directive? "link" with
    | none => simp [fitsLink_linkDirective]
    | some definition => simp
  rw [checkDefinition_schema_eq_nil_iff]
  change (schema.rootTypes.items.map (·.1)).Nodup ∧ UsagesKept _ .schema [linkUsage _] ∧
    (∀ item ∈ schema.rootTypes.items, _) ↔ _
  rw [and_iff_right schema.rootTypes.nodup_operations_items, usagesKept_singleton_iff,
    checkUsage_linkUsage_iff (directive?_link_split config kept), fits]
  apply and_congr_right
  intro _
  exact forall₂_congr fun item member =>
    mem_allNames_splitKnown config kept (kept.roots item member)

private theorem usages_split {known : Known} (kept : FoldKept known schema)
    (unclaimed : Unclaimed (emits config schema) schema) {type : TypeDefinition}
    (member : type ∈ schema.types) :
    UsagesKept (splitKnown config schema) type.kind.location
      (cleanedType config schema type).directives := by
  have usages := kept.usages type member
  apply usagesKept_cleanedType (declaresScaffold_split config schema)
  · exact usages.filter (narrows_split config kept unclaimed)
  · intro marker selected
    have used := List.mem_of_mem_filter (mem_of_mem_selectedMarkers selected).2
    exact checkValue_of_checkUsage (usages.each marker used)

private theorem checkType_split_iff {known : Known} (kept : FoldKept known schema)
    (unclaimed : Unclaimed (emits config schema) schema) {type : TypeDefinition}
    (member : type ∈ schema.types) :
    checkDefinition (splitKnown config schema) [] (.type (rewrittenType config schema type)) = [] ↔
      (∀ name ∈ Declarations.referencedNames type, name ∉ removedNames schema) ∧
        ∀ field ∈ inputFields type.body, ∀ usage ∈ field.directives, isArtifact usage = false →
          MayStand known .inputFieldDefinition usage := by
  have parts := kept.parts type member
  have emitted (isEmitted : emits config schema = true) :
      entityUnion ∈ (splitKnown config schema).allNames := by
    rw [allNames_splitKnown, isEmitted]
    exact List.mem_append_right _ (List.mem_append_right _ (by decide))
  have free (isEmitted : emits config schema = true) (query : isQueryType schema type = true) :
      ∀ field ∈ (cleanedType config schema type).body.fields, field.name ≠ entitiesField := by
    change ∀ field ∈ (type.body.mapUsages _).fields, field.name ≠ entitiesField
    rw [TypeBody.fields_mapUsages, List.forall_mem_map]
    exact unclaimed.field isEmitted type member query
  rw [checkDefinition_rewrittenType_iff (declaresScaffold_split config schema) emitted
    ((kept.members type member).mapUsages _) free (usages_split config kept unclaimed member)]
  change PartsKept _ (type.body.mapUsages (·.filter (!isArtifact ·))) ↔ _
  rw [partsJoined_narrowed_iff (narrows_split config kept unclaimed) parts,
    forall₂_congr fun name referenced =>
      mem_allNames_splitKnown config kept (parts.known name referenced)]
  simp only [Bool.not_eq_true']

private theorem distinctDirectives_rewrite {known : Known} (kept : FoldKept known schema)
    (unclaimed : Unclaimed (emits config schema) schema) :
    ((rewrite config schema).directives.map (·.name)).Nodup := by
  have own : ((schema.directives.filter (!isCompositionName ·.name)).map (·.name)).Nodup :=
    (List.filter_sublist.map _).nodup kept.distinctDirectives
  have link : ((missingLinkDirective schema).map (·.name)).Nodup := by
    unfold missingLinkDirective
    split
    · exact List.nodup_nil
    · exact List.nodup_singleton _
  have scaffold : (scaffoldDirectives.map (·.name)).Nodup := by decide
  change ((_ ++ missingLinkDirective schema ++ scaffoldDirectives).map (·.name)).Nodup
  rw [List.map_append, List.map_append, List.nodup_append, List.nodup_append]
  refine ⟨⟨own, link, ?_⟩, scaffold, ?_⟩
  · rintro name ownMember other linkMember rfl
    obtain ⟨directive, isKept, rfl⟩ := List.mem_map.mp ownMember
    obtain ⟨link, linkMissing, sameName⟩ := List.mem_map.mp linkMember
    obtain ⟨missing, rfl⟩ := mem_missingLinkDirective_iff.mp linkMissing
    exact missing directive (List.mem_of_mem_filter isKept) sameName.symm
  · rintro name front other scaffoldMember rfl
    have taken : isScaffoldDirective name = true := by
      rw [isScaffoldDirective_iff]
      exact List.mem_pair.mp scaffoldMember
    rcases List.mem_append.mp front with ownMember | linkMember
    · obtain ⟨directive, isKept, rfl⟩ := List.mem_map.mp ownMember
      rw [unclaimed.directives directive (List.mem_of_mem_filter isKept)] at taken
      cases taken
    · obtain ⟨link, linkMissing, rfl⟩ := List.mem_map.mp linkMember
      rw [(mem_missingLinkDirective_iff.mp linkMissing).2] at taken
      cases taken

private theorem keyedTypes_known :
    ∀ name ∈ keyedTypes config.markerSelection schema,
      name ∈ (splitKnown config schema).allNames := by
  intro name member
  obtain ⟨type, keyed, rfl⟩ := List.mem_map.mp member
  obtain ⟨typeMember, entity⟩ := List.mem_filter.mp keyed
  rw [← isEntity_eq] at entity
  have survives := survives_of_kind_object (kind_of_isEntity entity)
  rw [allNames_splitKnown]
  apply List.mem_append_right
  apply List.mem_append_left
  apply List.mem_append_left
  exact List.mem_map_of_mem (List.mem_filter.mpr ⟨typeMember, by rw [survives]; rfl⟩)

private theorem checkDirectives_split_iff {known : Known} (kept : FoldKept known schema)
    (unclaimed : Unclaimed (emits config schema) schema) :
    (∀ directive ∈ (rewrite config schema).directives,
        checkDefinition (splitKnown config schema) [] (.directive directive) = []) ↔
      ∀ directive ∈ schema.directives, isCompositionName directive.name = false →
        ∀ argument ∈ directive.arguments,
          argument.type.baseName ∉ removedNames schema ∧
            ∀ usage ∈ argument.directives, isArtifact usage = false := by
  have split : (rewrite config schema).directives =
      schema.directives.filter (!isCompositionName ·.name) ++
        (missingLinkDirective schema ++ scaffoldDirectives) :=
    List.append_assoc ..
  have added : ∀ directive ∈ missingLinkDirective schema ++ scaffoldDirectives,
      checkDefinition (splitKnown config schema) [] (.directive directive) = [] := by
    intro directive member
    apply addedDirective_kept (declaresScaffold_split config schema)
    rcases List.mem_append.mp member with link | scaffold
    · rw [(mem_missingLinkDirective_iff.mp link).2]
      simp
    · rcases List.mem_pair.mp scaffold with rfl | rfl <;> simp
  rw [split, List.forall_mem_append, and_iff_left added]
  simp only [List.mem_filter, and_imp, Bool.not_eq_true']
  exact forall₂_congr fun directive member => imp_congr_right fun _ =>
    checkDirective_split_iff config kept unclaimed member

private theorem checkTypes_split_iff {known : Known} (kept : FoldKept known schema)
    (unclaimed : Unclaimed (emits config schema) schema) :
    (∀ type ∈ (rewrite config schema).types,
        checkDefinition (splitKnown config schema) [] (.type type) = []) ↔
      ∀ type ∈ keptTypes schema,
        (∀ name ∈ Declarations.referencedNames type, name ∉ removedNames schema) ∧
          ∀ field ∈ inputFields type.body, ∀ usage ∈ field.directives,
            isArtifact usage = false → MayStand known .inputFieldDefinition usage := by
  have split : (rewrite config schema).types =
      (keptTypes schema).map (rewrittenType config schema) ++
        (missingLinkTypes schema ++ [scalarType anyScalar, scalarType fieldSetScalar] ++
          if emits config schema then [unionOf (keyedTypes config.markerSelection schema)]
          else []) := by
    rw [← List.append_assoc, ← List.append_assoc]
    rfl
  have added : ∀ type ∈ missingLinkTypes schema ++
        [scalarType anyScalar, scalarType fieldSetScalar] ++
        (if emits config schema then [unionOf (keyedTypes config.markerSelection schema)] else []),
      checkDefinition (splitKnown config schema) [] (.type type) = [] := by
    intro type member
    rcases List.mem_append.mp member with fixed | union
    · apply addedType_kept
      rcases List.mem_append.mp fixed with link | scalar
      · rcases List.mem_pair.mp (List.mem_of_mem_filter link) with rfl | rfl <;> simp
      · rcases List.mem_pair.mp scalar with rfl | rfl <;> simp
    · split at union
      · rw [List.mem_singleton.mp union]
        exact unionOf_kept (keyedTypes_known config)
      · cases union
  rw [split, List.forall_mem_append, and_iff_left added, List.forall_mem_map]
  exact forall₂_congr fun type member =>
    checkType_split_iff config kept unclaimed (List.mem_of_mem_filter member)

theorem violations_rewrite_eq_nil_iff {known : Known} (kept : FoldKept known schema)
    (unclaimed : Unclaimed (emits config schema) schema) :
    violations (rewrite config schema).toDocument = [] ↔ StaysValid known schema := by
  have stated : (rewrite config schema).needsSchemaDefinition = true := rfl
  rw [violations_toDocument_eq_nil_iff, ← splitKnown,
    and_iff_right ⟨distinctDirectives_rewrite config kept unclaimed,
      distinctNames_rewrite config kept.distinctTypes unclaimed⟩, stated,
    checkSchema_split_iff config kept, checkDirectives_split_iff config kept unclaimed,
    checkTypes_split_iff config kept unclaimed]
  constructor
  · rintro ⟨schemaKept, parameters, typesKept⟩
    obtain ⟨link, roots⟩ := schemaKept rfl
    constructor
    case link => exact link
    case roots => exact roots
    case types => exact fun type member => (typesKept type member).1
    case inputs => exact fun type member => (typesKept type member).2
    case parameters => exact parameters
  · intro valid
    exact ⟨fun _ => ⟨valid.link, valid.roots⟩, valid.parameters,
      fun type member => ⟨valid.types type member, valid.inputs type member⟩⟩

end

/--
A supergraph that is loaded and split keeps the rules exactly if its subgraph refers to nothing that
is removed, has a link that fits, and has all usages where they may stand.
-/
theorem check_transform_iff {config : Config} (strict : config.collisionPolicy = .error)
    {document : Document} {schema result : SchemaDocument}
    (loaded : loadSupergraph document = .ok schema)
    (transformed : transform config schema = .ok result) :
    check result.toDocument = .ok [] ↔ StaysValid (Known.ofDocument document) schema := by
  obtain ⟨accepted, -, rfl⟩ := loadSupergraph_ok_iff.mp loaded
  have distinct := distinctNames_fold document
  have splittable := splittable_of_transform strict distinct transformed
  rw [transform_of_splittable distinct splittable] at transformed
  rw [← Except.ok.inj transformed, check_eq_ok_nil_iff]
  exact violations_rewrite_eq_nil_iff config (foldKept_of_violations accepted) splittable.unclaimed

private theorem loadSupergraph_taggedSupergraph :
    loadSupergraph taggedSupergraph.toDocument = .ok taggedSupergraph :=
  loadSupergraph_ok_iff.mpr ⟨List.isEmpty_iff.mp (by decide), rfl, rfl⟩

/-- The usage on the parameter is kept, although its directive is no longer declared. -/
theorem check_transform_taggedSupergraph :
    ∃ result, loadSupergraph taggedSupergraph.toDocument = .ok taggedSupergraph ∧
      transform Config.default taggedSupergraph = .ok result ∧
      check result.toDocument ≠ .ok [] := by
  have loaded := loadSupergraph_taggedSupergraph
  have transformed : ∃ result, transform Config.default taggedSupergraph = .ok result := ⟨_, rfl⟩
  obtain ⟨result, transformed⟩ := transformed
  refine ⟨result, loaded, transformed, fun accepted => ?_⟩
  have valid := (check_transform_iff rfl loaded transformed).mp accepted
  have tagged : ∃ directive ∈ taggedSupergraph.directives,
      isCompositionName directive.name = false ∧ ∃ argument ∈ directive.arguments,
        ∃ usage ∈ argument.directives, isArtifact usage = true := by
    decide
  obtain ⟨directive, declared, plain, argument, member, usage, used, artifact⟩ := tagged
  rw [(valid.parameters directive declared plain argument member).2 usage used] at artifact
  cases artifact

end FederationSplit.Federation
