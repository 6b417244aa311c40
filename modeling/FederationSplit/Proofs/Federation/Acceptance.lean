import FederationSplit.Proofs.Federation.Serving
import FederationSplit.Proofs.Rules.Narrowing
import FederationSplit.Proofs.Rules.Assembled
import FederationSplit.Proofs.TypeSystem.Resolving

namespace FederationSplit.Federation

open FederationSplit.Syntax
open FederationSplit.Schema
open FederationSplit.Rules

theorem owned_serviceTypes : ∀ type ∈ serviceTypes, type.name ∈ federationTypes := by
  decide

theorem owned_serviceDirectives :
    ∀ directive ∈ serviceDirectives, directive.name ∈ federationDirectives := by
  decide

theorem unowned_builtinDirectives :
    ∀ directive ∈ builtinDirectives, directive.name ∉ federationDirectives := by
  decide

theorem kind_serviceTypes : ∀ type ∈ serviceTypes, type.kind ≠ .object := by
  decide

/-- What the definitions of a service can refer to. -/
def serviceKnown (definitions : Definitions) : Known :=
  Known.ofDocument (validationDocument definitions)

private theorem statedSchema_declares (definitions : Definitions) :
    typeDefinitions { definitions := statedSchema definitions } = [] ∧
      directiveDefinitions { definitions := statedSchema definitions } = [] := by
  unfold statedSchema
  split <;> exact ⟨rfl, rfl⟩

theorem typeDefinitions_validationDocument (definitions : Definitions) :
    typeDefinitions (validationDocument definitions) =
      definitions.types ++ preludeTypes definitions := by
  rw [validationDocument, typeDefinitions_append, typeDefinitions_append, typeDefinitions_append,
    typeDefinitions_append, (statedSchema_declares definitions).1, typeDefinitions_map_type,
    typeDefinitions_map_directive, typeDefinitions_map_directive, typeDefinitions_map_type,
    List.nil_append, List.append_nil, List.append_nil]

theorem directiveDefinitions_validationDocument (definitions : Definitions) :
    directiveDefinitions (validationDocument definitions) =
      definitions.directives ++ preludeDirectives definitions := by
  rw [validationDocument, directiveDefinitions_append, directiveDefinitions_append,
    directiveDefinitions_append, directiveDefinitions_append,
    (statedSchema_declares definitions).2, directiveDefinitions_map_type,
    directiveDefinitions_map_directive, directiveDefinitions_map_directive,
    directiveDefinitions_map_type, List.nil_append, List.nil_append, List.append_nil]

theorem serviceKnown_allNames (definitions : Definitions) :
    (serviceKnown definitions).allNames =
      builtinTypeNames ++ (validationDeclarations definitions).types.map (·.name) := by
  rw [serviceKnown, Known.ofDocument, typeNames, typeDefinitions_validationDocument]
  rfl

theorem mem_allNames_serviceKnown {definitions : Definitions} {name : Name} :
    name ∈ (serviceKnown definitions).allNames ↔
      name ∈ builtinTypeNames ∨ name ∈ definitions.types.map (·.name) ∨
        name ∈ (preludeTypes definitions).map (·.name) := by
  rw [serviceKnown_allNames, validationDeclarations, List.map_append, List.mem_append,
    List.mem_append]

theorem serviceKnown_directives (definitions : Definitions) :
    (serviceKnown definitions).directives =
      (validationDeclarations definitions).directives.reverse ++ builtinDirectives := by
  rw [serviceKnown, Known.ofDocument, directiveDefinitions_validationDocument]
  rfl

theorem mem_statedSchema {definitions : Definitions} {definition : Definition} :
    definition ∈ statedSchema definitions ↔
      definitions.operationTypes.isEmpty = false ∧
        definition = .schema {
          description := none
          directives := []
          operationTypes := definitions.rootTypes.items } := by
  unfold statedSchema
  split <;> simp_all

theorem mem_validationDocument {definitions : Definitions} {definition : Definition} :
    definition ∈ (validationDocument definitions).definitions ↔
      definition ∈ statedSchema definitions ∨
        (∃ type ∈ (validationDeclarations definitions).types, .type type = definition) ∨
          ∃ directive ∈ (validationDeclarations definitions).directives,
            .directive directive = definition := by
  simp only [validationDocument, validationDeclarations, List.mem_append, List.mem_map]
  grind

private theorem isPlain_validationDocument (definitions : Definitions) :
    ∀ definition ∈ (validationDocument definitions).definitions, isPlain definition = true := by
  intro definition member
  rcases mem_validationDocument.mp member with stated | ⟨_, _, rfl⟩ | ⟨_, _, rfl⟩
  · rw [(mem_statedSchema.mp stated).2]
    rfl
  · rfl
  · rfl

private theorem countP_isSchemaDefinition_validationDocument (definitions : Definitions) :
    (validationDocument definitions).definitions.countP isSchemaDefinition ≤ 1 := by
  simp only [validationDocument, List.countP_append, countP_isSchemaDefinition_map_type,
    countP_isSchemaDefinition_map_directive, Nat.add_zero]
  refine Nat.le_trans List.countP_le_length ?_
  unfold statedSchema
  split
  · exact Nat.zero_le 1
  · exact Nat.le_refl 1

theorem violations_validationDocument_eq_nil_iff {definitions : Definitions} :
    violations (validationDocument definitions) = [] ↔
      (((validationDeclarations definitions).directives.map (·.name)).Nodup ∧
          DistinctNames (validationDeclarations definitions).types) ∧
        ∀ definition ∈ (validationDocument definitions).definitions,
          checkDefinition (serviceKnown definitions) [] definition = [] := by
  rw [violations_eq_nil_iff_of_single (isPlain_validationDocument definitions)
    (countP_isSchemaDefinition_validationDocument definitions),
    directiveDefinitions_validationDocument, typeDefinitions_validationDocument]
  rfl

/-- The definitions of a service each keep the rules, and no directive is defined twice. -/
structure Accepted (definitions : Definitions) : Prop where
  types : ∀ type ∈ definitions.types,
    checkDefinition (serviceKnown definitions) [] (.type type) = []
  directives : ∀ directive ∈ definitions.directives,
    checkDefinition (serviceKnown definitions) [] (.directive directive) = []
  distinct : (definitions.directives.map (·.name)).Nodup
  roots : ∀ item ∈ definitions.rootTypes.items, item.2 ∈ (serviceKnown definitions).allNames

theorem accepted_of_check {definitions : Definitions}
    (checked : check (validationDocument definitions) = .ok []) : Accepted definitions := by
  rw [check_eq_ok_nil_iff, violations_validationDocument_eq_nil_iff] at checked
  obtain ⟨⟨distinct, -⟩, kept⟩ := checked
  constructor
  case types =>
    intro type member
    exact kept _ (mem_validationDocument.mpr
      (.inr (.inl ⟨type, List.mem_append_left _ member, rfl⟩)))
  case directives =>
    intro directive member
    exact kept _ (mem_validationDocument.mpr
      (.inr (.inr ⟨directive, List.mem_append_left _ member, rfl⟩)))
  case distinct => exact ((List.sublist_append_left _ _).map _).nodup distinct
  case roots =>
    intro item member
    by_cases stated : definitions.operationTypes.isEmpty
    · have found := RootTypes.get_of_mem_items member
      rw [Definitions.rootTypes_get, if_pos stated] at found
      split at found
      · next declared =>
          rw [← Option.some.inj found, serviceKnown_allNames, validationDeclarations,
            List.map_append]
          exact List.mem_append_right _
            (List.mem_append_left _ (findType?_isSome_iff.mp declared))
      · cases found
    · have schema := kept _ (mem_validationDocument.mpr
        (.inl (mem_statedSchema.mpr ⟨Bool.eq_false_iff.mpr stated, rfl⟩)))
      exact (checkDefinition_schema_eq_nil_iff.mp schema).2.2 item member

/-! ### Composing -/

section

open TypeSystem

/--
The definitions of a service are without problems if they keep the rules and make a schema with
queries, whose keys are in order.
-/
theorem compositionProblems_eq_nil_iff {definitions : Definitions} :
    compositionProblems definitions = [] ↔
      definitions.problems = [] ∧ violations (validationDocument definitions) = [] ∧
        (∃ schema, resolve (validationDeclarations definitions) = .ok schema ∧
          schemaProblems schema = []) ∧
        definitions.rootTypes.query.isSome ∧
        ∀ type ∈ definitions.types,
          typeKeyProblems (validationDeclarations definitions) type = [] := by
  rw [← check_eq_ok_nil_iff]
  unfold compositionProblems
  split
  · next found => simp [found]
  · next sound =>
      unfold serviceProblems
      rw [and_iff_right sound]
      split
      · next failed => simp [failed]
      · next found => simp [found]
      · next checked =>
          rw [and_iff_right checked]
          cases resolved : resolve (validationDeclarations definitions) with
          | error fault => simp [resolved]
          | ok schema => simp [resolved, Option.isSome_iff_ne_none]

theorem compositionProblems_eq_nil {definitions : Definitions}
    (clean : compositionProblems definitions = []) :
    check (validationDocument definitions) = .ok [] ∧
      (∃ schema, resolve (validationDeclarations definitions) = .ok schema ∧
        schemaProblems schema = []) ∧
      definitions.rootTypes.query.isSome := by
  obtain ⟨-, kept, resolved, queries, -⟩ := compositionProblems_eq_nil_iff.mp clean
  exact ⟨check_eq_ok_nil_iff.mpr kept, resolved, queries⟩

theorem declarations_of_resolve {declarations : Declarations} {schema : ResolvedSchema}
    (resolved : resolve declarations = .ok schema) : schema.declarations = declarations := by
  obtain ⟨-, directives, middle, types, after, -, -, rfl⟩ := resolve_eq_ok_iff.mp resolved
  rfl

theorem root_kind_of_clean {definitions : Definitions}
    (clean : compositionProblems definitions = []) {operation : OperationType} {name : Name}
    (root : definitions.rootTypes.get operation = some name) :
    (validationDeclarations definitions).kind? name = some .object := by
  obtain ⟨-, ⟨schema, resolved, sound⟩, -⟩ := compositionProblems_eq_nil clean
  simp only [schemaProblems, declarations_of_resolve resolved, checkRoots,
    List.append_eq_nil_iff, List.flatMap_eq_nil_iff] at sound
  obtain ⟨⟨⟨⟨query, mutation⟩, subscription⟩, -⟩, -⟩ := sound
  have object {operation : OperationType}
      (kept : checkRoot (validationDeclarations definitions) operation name = []) :
      (validationDeclarations definitions).kind? name = some .object := by
    unfold checkRoot at kept
    split at kept
    · next object => exact object
    · cases kept
  cases operation with
  | query =>
      have stated : (validationDeclarations definitions).rootTypes.query = some name := root
      rw [stated] at query
      exact object query
  | mutation => exact object (mutation name (Option.mem_toList.mpr root))
  | subscription => exact object (subscription name (Option.mem_toList.mpr root))

theorem root_ne_fieldSet {definitions : Definitions} (served : Served definitions)
    (clean : compositionProblems definitions = []) {operation : OperationType} {name : Name}
    (root : definitions.rootTypes.get operation = some name) : name ≠ "FieldSet" := by
  rintro rfl
  have object := root_kind_of_clean clean root
  have undefined : findType? builtinTypes "FieldSet" = none := by decide
  rw [Declarations.kind?, Declarations.type?, undefined] at object
  obtain ⟨type, found, kind⟩ := Option.map_eq_some_iff.mp object
  obtain ⟨member, named⟩ := mem_of_findType? found
  rcases List.mem_append.mp member with own | prelude
  · apply served.types type own
    rw [named]
    decide
  · exact kind_serviceTypes type (List.mem_of_mem_filter prelude) kind

end

theorem compose_ok_iff {service : String} {document : Document} {schema : SchemaDocument} :
    compose service document = .ok schema ↔
      compositionProblems (serviceDefinitions document) = [] ∧
        schema = supergraph service (serviceDefinitions document) := by
  unfold compose
  simp only
  split
  · next clean =>
      rw [Except.ok.injEq]
      exact ⟨fun same => ⟨clean, same.symm⟩, fun holds => holds.2.symm⟩
  · next problems =>
      constructor
      · nofun
      · exact fun holds => absurd holds.1 problems

/-- A service sees the directives of federation as federation declares them. -/
theorem mem_serviceDirectives_of_directive? {definitions : Definitions}
    (served : Served definitions) {name : Name} (owned : name ∈ federationDirectives)
    {definition : DirectiveDefinition}
    (found : (serviceKnown definitions).directive? name = some definition) :
    definition ∈ serviceDirectives ∧ definition.name = name := by
  obtain ⟨member, named⟩ := mem_of_directive? found
  change definition ∈ (directiveDefinitions (validationDocument definitions)).reverse ++
    builtinDirectives at member
  rw [directiveDefinitions_validationDocument, List.mem_append, List.mem_reverse,
    List.mem_append] at member
  rcases member with (own | prelude) | builtin
  · exact absurd (named ▸ owned) (served.directives definition own)
  · exact ⟨List.mem_of_mem_filter prelude, named⟩
  · exact absurd (named ▸ owned) (unowned_builtinDirectives definition builtin)

theorem directive?_serviceKnown {definitions : Definitions} {name : Name}
    (unowned : name ∉ federationDirectives) :
    (serviceKnown definitions).directive? name =
      (definitions.directives.reverse ++ builtinDirectives).find? (·.name == name) := by
  have prelude : (preludeDirectives definitions).reverse.find? (·.name == name) = none := by
    rw [List.find?_eq_none]
    intro directive member named
    apply unowned
    rw [← beq_iff_eq.mp named]
    exact owned_serviceDirectives directive
      (List.mem_of_mem_filter (List.mem_reverse.mp member))
  rw [Known.directive?, serviceKnown, Known.ofDocument, directiveDefinitions_validationDocument,
    List.reverse_append, List.append_assoc, List.find?_append, prelude]
  rfl

private theorem gives_required {known : Known} {location : DirectiveLocation}
    {usage : DirectiveUsage} {definition : DirectiveDefinition}
    (found : known.directive? usage.name = some definition)
    (kept : checkUsage known location usage = []) {parameter : InputValueDefinition}
    (required : parameter ∈ requiredParameters definition) :
    (usage.argument? parameter.name).isSome := by
  rw [checkUsage, List.append_eq_nil_iff] at kept
  have complete := kept.2
  simp only [checkRequiredArguments, found, List.map_eq_nil_iff, List.filter_eq_nil_iff] at complete
  simpa [Option.isSome_iff_ne_none] using complete parameter required

theorem key_states_fields {definitions : Definitions} (served : Served definitions)
    (accepted : Accepted definitions) {type : TypeDefinition} (member : type ∈ definitions.types)
    {usage : DirectiveUsage} (used : usage ∈ usagesOf "key" type.directives) :
    (usage.argument? "fields").isSome := by
  obtain ⟨usageMember, isKey⟩ := List.mem_filter.mp used
  have named : usage.name = "key" := beq_iff_eq.mp isKey
  have kept := (checkDefinition_type_eq_nil_iff.mp (accepted.types type member)).2.1.each
    usage usageMember
  cases found : (serviceKnown definitions).directive? usage.name with
  | none =>
      simp [checkUsage, checkPlace, found] at kept
  | some definition =>
      obtain ⟨declared, sameName⟩ :=
        mem_serviceDirectives_of_directive? served (by rw [named]; decide) found
      have requires : ∀ definition ∈ serviceDirectives, definition.name = "key" →
          ∃ parameter ∈ requiredParameters definition, parameter.name = "fields" := by
        decide
      obtain ⟨parameter, required, isFields⟩ :=
        requires definition declared (sameName.trans named)
      rw [← isFields]
      exact gives_required found kept required

end FederationSplit.Federation
