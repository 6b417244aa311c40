import FederationSplit.Proofs.Federation.ServiceTypes
import FederationSplit.Proofs.Schema.Continuing

namespace FederationSplit.Federation

open FederationSplit.Syntax
open FederationSplit.Schema
open FederationSplit.Rules
open FederationSplit.TypeSystem

/-- An extension that adds query fields of federation to a type, and nothing else. -/
structure AddsFederationFields (extension : TypeExtension) : Prop where
  unused : extension.directives = []
  body : ∃ fields, extension.body = .object [] fields ∧
    ∀ field ∈ fields, field.name ∈ federationQueryFields

/-- A definition that a service with a query root has only for its own runtime. -/
inductive IsRuntime (root : Name) : Definition → Prop
  | type {type : TypeDefinition} (owned : type.name ∈ federationTypes) :
      IsRuntime root (.type type)
  | directive {directive : DirectiveDefinition} (owned : directive.name ∈ federationDirectives) :
      IsRuntime root (.directive directive)
  | queryFields {extension : TypeExtension} (named : extension.name = root)
      (adds : AddsFederationFields extension) : IsRuntime root (.typeExtension extension)

/-- Definitions for a runtime, each type once and none that a document defines or extends. -/
structure AddsRuntime (document : Document) (root : Name) (items : List Definition) : Prop where
  each : ∀ item ∈ items, IsRuntime root item
  distinct : (typeNames { definitions := items }).Nodup
  undefined : ∀ name ∈ typeNames { definitions := items }, name ∉ typeNames document
  unextended : ∀ extension ∈ typeExtensions document,
    extension.name ∉ typeNames { definitions := items }

section

variable {root : Name} {items : List Definition} (each : ∀ item ∈ items, IsRuntime root item)

include each

private theorem owned_typeNames : ∀ name ∈ typeNames { definitions := items },
    name ∈ federationTypes := by
  intro name member
  obtain ⟨type, typeMember, rfl⟩ := List.mem_map.mp member
  cases each _ (mem_typeDefinitions.mp typeMember) with
  | type owned => exact owned

private theorem owned_directiveDefinitions :
    ∀ directive ∈ directiveDefinitions { definitions := items },
      directive.name ∈ federationDirectives := by
  intro directive member
  obtain ⟨definition, definitionMember, found⟩ := List.mem_filterMap.mp member
  cases each definition definitionMember with
  | directive owned =>
      cases found
      exact owned
  | type | queryFields => cases found

private theorem adds_typeExtensions :
    ∀ extension ∈ typeExtensions { definitions := items },
      extension.name = root ∧ AddsFederationFields extension := by
  intro extension member
  obtain ⟨definition, definitionMember, found⟩ := List.mem_filterMap.mp member
  cases each definition definitionMember with
  | queryFields named adds =>
      cases found
      exact ⟨named, adds⟩
  | type | directive => cases found

private theorem schemaParts_runtime : schemaParts items = [] := by
  rw [schemaParts, List.filterMap_eq_nil_iff]
  intro definition member
  cases each definition member with
  | type | directive | queryFields => rfl

private theorem plain_runtime : ∀ item ∈ items, definitionProblem? [] item = none := by
  intro item member
  cases each item member with
  | type =>
      rw [definitionProblem?]
      exact if_neg List.not_mem_nil
  | directive | queryFields => rfl

end

theorem AddsFederationFields.kind {extension : TypeExtension}
    (adds : AddsFederationFields extension) : extension.body.kind = .object := by
  obtain ⟨fields, body, -⟩ := adds.body
  rw [body]
  rfl

private theorem withoutFederationFields_joinedType {type : TypeDefinition}
    {extensions : List TypeExtension}
    (adds : ∀ extension ∈ extensions, AddsFederationFields extension) :
    withoutFederationFields (joinedType type extensions) = withoutFederationFields type := by
  have among : ∀ extension ∈ extensionsOfKind type.kind extensions,
      AddsFederationFields extension := fun extension member =>
    adds extension (List.mem_of_mem_filter member)
  have unused : (extensionsOfKind type.kind extensions).flatMap (·.directives) = [] :=
    List.flatMap_eq_nil_iff.mpr fun extension member => (among extension member).unused
  cases body : type.body with
  | object interfaces fields =>
      have noInterfaces : ((extensionsOfKind type.kind extensions).map (·.body)).flatMap
          (·.interfaces) = [] := by
        rw [List.flatMap_map, List.flatMap_eq_nil_iff]
        intro extension member
        obtain ⟨added, addedBody, -⟩ := (among extension member).body
        rw [addedBody]
        rfl
      have noFields : (((extensionsOfKind type.kind extensions).map (·.body)).flatMap
          (·.fields)).filter (!federationQueryFields.contains ·.name) = [] := by
        rw [List.flatMap_map, List.filter_eq_nil_iff]
        intro field member
        obtain ⟨extension, extensionMember, fieldMember⟩ := List.mem_flatMap.mp member
        obtain ⟨added, addedBody, owned⟩ := (among extension extensionMember).body
        rw [addedBody] at fieldMember
        simpa using owned field fieldMember
      simp only [withoutFederationFields, joinedType, body, joinedBody, unused, noInterfaces,
        List.filter_append, noFields, List.append_nil]
  | scalar | interface | union | enum | inputObject =>
      have none : extensionsOfKind type.kind extensions = [] := by
        rw [extensionsOfKind, List.filter_eq_nil_iff]
        intro extension member
        rw [(adds extension member).kind, TypeDefinition.kind, body]
        exact Bool.false_ne_true
      rw [joinedType, none]
      exact congrArg withoutFederationFields (joinedType_nil type)

private theorem servedType_joinedType {query : Option Name} {type : TypeDefinition}
    {extensions : List TypeExtension} (root : extensions ≠ [] → query = some type.name)
    (adds : ∀ extension ∈ extensions, AddsFederationFields extension) :
    servedType query (joinedType type extensions) = servedType query type := by
  cases extensions with
  | nil => rw [joinedType_nil]
  | cons head tail =>
      have named : query = some type.name := root (List.cons_ne_nil head tail)
      have joinedNamed : query = some (joinedType type (head :: tail)).name := named
      rw [servedType, servedType, if_pos named, if_pos joinedNamed]
      exact withoutFederationFields_joinedType adds

private theorem unsupplied_builtinTypes : ∀ type ∈ builtinTypes,
    type.name ∉ federationTypes ∧ type.name ∉ suppliedNames := by
  decide

private theorem hasKind_serviceDefinitions_iff {document : Document} {name : Name}
    {kind : TypeKind} :
    HasKind (serviceDefinitions document).types name kind ↔
      name ∉ federationTypes ∧ HasKind (fold document).types name kind := by
  rw [serviceDefinitions_types]
  constructor
  · rintro ⟨type, member, rfl, rfl⟩
    obtain ⟨original, kept, rfl⟩ := List.mem_map.mp member
    obtain ⟨originalMember, unowned⟩ := List.mem_filter.mp kept
    rw [name_servedType, kind_servedType]
    exact ⟨by simpa using unowned, original, originalMember, rfl, rfl⟩
  · rintro ⟨unowned, type, member, rfl, rfl⟩
    refine ⟨_, List.mem_map_of_mem (List.mem_filter.mpr ⟨member, ?_⟩), name_servedType .., ?_⟩
    · simpa using unowned
    · exact kind_servedType ..

/-- The query root of a service without problems is a type of its own, or built in. -/
private theorem query_cases {document : Document} {root : Name}
    (clean : compositionProblems (serviceDefinitions document) = [])
    (query : (serviceDefinitions document).rootTypes.query = some root) :
    root ∉ federationTypes ∧
      (HasKind (fold document).types root .object ∨ root ∉ suppliedNames) := by
  have get : (serviceDefinitions document).rootTypes.get .query = some root := query
  have object := root_kind_of_clean clean get
  rw [Declarations.kind?, Declarations.type?] at object
  cases built : findType? builtinTypes root with
  | some type =>
      obtain ⟨member, rfl⟩ := mem_of_findType? built
      obtain ⟨unowned, unsupplied⟩ := unsupplied_builtinTypes type member
      exact ⟨unowned, .inr unsupplied⟩
  | none =>
      rw [built] at object
      obtain ⟨type, found, kind⟩ := Option.map_eq_some_iff.mp object
      obtain ⟨member, rfl⟩ := mem_of_findType? found
      rcases List.mem_append.mp member with own | prelude
      · obtain ⟨unowned, declared⟩ :=
          hasKind_serviceDefinitions_iff.mp ⟨type, own, rfl, kind⟩
        exact ⟨unowned, .inl declared⟩
      · exact absurd kind (kind_serviceTypes type (List.mem_of_mem_filter prelude))

/-! ### A service with its runtime -/

section

variable {document : Document} {root : Name} {items : List Definition}
  (adds : AddsRuntime document root items)

include adds

private theorem appendable_of_adds
    (based : HasKind (fold document).types root .object ∨
      typeExtensions { definitions := items } = []) : Appendable document items := by
  constructor
  case plain => exact plain_runtime adds.each
  case distinct => exact adds.distinct
  case undefined => exact adds.undefined
  case unextended => exact adds.unextended
  case based =>
      intro extension member
      rcases based with declared | none
      · obtain ⟨rfl, addsFields⟩ := adds_typeExtensions adds.each extension member
        rwa [addsFields.kind]
      · rw [none] at member
        cases member

private theorem names_served_appendAll (appendable : Appendable document items) :
    ((fold (appendAll document items)).types.filter
        (!federationTypes.contains ·.name)).map (·.name) =
      ((fold document).types.filter (!federationTypes.contains ·.name)).map (·.name) := by
  have ownNames (types : List TypeDefinition) :
      (types.filter (!federationTypes.contains ·.name)).map (·.name) =
        (types.map (·.name)).filter (!federationTypes.contains ·) := by
    rw [List.filter_map]
    rfl
  obtain ⟨new, among, names⟩ := names_fold_appendAll appendable
  have dropped : new.filter (!federationTypes.contains ·) = [] := by
    rw [List.filter_eq_nil_iff]
    intro name member
    simpa using owned_typeNames adds.each name (among name member)
  rw [ownNames, ownNames, names, names_fold, List.filter_append, List.filter_append, dropped,
    List.append_nil, List.filter_append]

private theorem stated_appendAll :
    (fold (appendAll document items)).schemaDirectives = (fold document).schemaDirectives ∧
      (fold (appendAll document items)).operationTypes = (fold document).operationTypes := by
  have parts : schemaParts (appendAll document items).definitions =
      schemaParts document.definitions := by
    have none := schemaParts_runtime adds.each
    rw [schemaParts] at none ⊢
    rw [appendAll, List.filterMap_append, none, List.append_nil]
    rfl
  obtain ⟨directives, operations⟩ := stated_fold_eq (appendAll document items)
  obtain ⟨ownDirectives, ownOperations⟩ := stated_fold_eq document
  rw [directives, operations, ownDirectives, ownOperations, parts]
  exact ⟨rfl, rfl⟩

private theorem query_appendAll (appendable : Appendable document items) :
    (serviceDefinitions (appendAll document items)).rootTypes =
      (serviceDefinitions document).rootTypes := by
  rw [serviceDefinitions_rootTypes, serviceDefinitions_rootTypes]
  exact Definitions.rootTypes_congr (names_served_appendAll adds appendable)
    (stated_appendAll adds).2

private theorem found_appendAll (appendable : Appendable document items) {type : TypeDefinition}
    (member : type ∈ (fold document).types) :
    (findType? (fold (appendAll document items)).types type.name).map (servedType (some root)) =
      some (servedType (some root) type) := by
  have gathers : gatheredType? document type.name = some type := by
    rw [← findType?_fold, findType?_eq_some_iff (distinctNames_fold document)]
    exact ⟨member, rfl⟩
  have undefined := appendable.other (List.mem_map_of_mem (f := (·.name)) member)
  have added : ∀ extension ∈
      extensionsOf type.name (typeExtensions { definitions := items }),
      extension.name = type.name ∧ extension.name = root ∧ AddsFederationFields extension := by
    intro extension extensionMember
    obtain ⟨among, named⟩ := List.mem_filter.mp extensionMember
    exact ⟨beq_iff_eq.mp named, adds_typeExtensions adds.each extension among⟩
  rw [findType?_fold, gatheredType?_appendAll gathers undefined, Option.map_some]
  congr 1
  apply servedType_joinedType
  · intro some
    obtain ⟨extension, extensionMember⟩ := List.exists_mem_of_ne_nil _ some
    obtain ⟨named, isRoot, -⟩ := added extension extensionMember
    exact congrArg Option.some (isRoot.symm.trans named)
  · exact fun extension extensionMember => (added extension extensionMember).2.2

private theorem types_appendAll (appendable : Appendable document items)
    (query : (serviceDefinitions document).rootTypes.query = some root) :
    (serviceDefinitions (appendAll document items)).types =
      (serviceDefinitions document).types := by
  have same : ∀ type ∈ (fold document).types.filter (!federationTypes.contains ·.name),
      ((fun name => (findType? (fold (appendAll document items)).types name).map
        (servedType (some root))) ∘ (·.name)) type = some (servedType (some root) type) :=
    fun type member => found_appendAll adds appendable (List.mem_of_mem_filter member)
  rw [serviceDefinitions_types, serviceDefinitions_types, query_appendAll adds appendable, query,
    eq_filterMap_findType? (distinctNames_fold (appendAll document items))
      fun _ member => List.mem_of_mem_filter member,
    names_served_appendAll adds appendable, List.map_filterMap, List.filterMap_map,
    List.filterMap_congr same]
  exact congrFun List.filterMap_eq_map _

private theorem serviceDefinitions_appendAll (appendable : Appendable document items)
    (sound : (fold document).problems = [])
    (query : (serviceDefinitions document).rootTypes.query = some root) :
    serviceDefinitions (appendAll document items) = serviceDefinitions document := by
  have directives : (serviceDefinitions (appendAll document items)).directives =
      (serviceDefinitions document).directives := by
    have dropped : (directiveDefinitions { definitions := items }).filter
        (!federationDirectives.contains ·.name) = [] := by
      rw [List.filter_eq_nil_iff]
      intro directive member
      simpa using owned_directiveDefinitions adds.each directive member
    have split : directiveDefinitions (appendAll document items) =
        directiveDefinitions document ++ directiveDefinitions { definitions := items } :=
      List.filterMap_append
    rw [serviceDefinitions_directives, serviceDefinitions_directives, fold_directives,
      fold_directives, split, List.filter_append, dropped, List.append_nil]
  have problems : (serviceDefinitions (appendAll document items)).problems =
      (serviceDefinitions document).problems := by
    rw [serviceDefinitions_problems, serviceDefinitions_problems, sound,
      problems_fold_appendAll appendable sound]
  have operations : (serviceDefinitions (appendAll document items)).operationTypes =
      (serviceDefinitions document).operationTypes := by
    rw [serviceDefinitions_operationTypes, serviceDefinitions_operationTypes]
    exact (stated_appendAll adds).2
  have schemaDirectives : (serviceDefinitions (appendAll document items)).schemaDirectives =
      (serviceDefinitions document).schemaDirectives := by
    simp only [serviceDefinitions, dropFederationDeclarations_eq]
    exact (stated_appendAll adds).1
  exact (Definitions.mk.injEq ..).mpr
    ⟨types_appendAll adds appendable query, directives, schemaDirectives, operations, problems⟩

/-- A query root that is not declared is declared by what extends it. -/
private theorem compose_appendAll_ne {service : String} {schema : SchemaDocument}
    (composed : compose service document = .ok schema)
    (query : (serviceDefinitions document).rootTypes.query = some root)
    (undeclared : ¬HasKind (fold document).types root .object)
    (extended : typeExtensions { definitions := items } ≠ []) :
    compose service (appendAll document items) ≠ .ok schema := by
  intro again
  obtain ⟨clean, rfl⟩ := compose_ok_iff.mp composed
  obtain ⟨cleanAgain, same⟩ := compose_ok_iff.mp again
  obtain ⟨unowned, either⟩ := query_cases clean query
  have unsupplied := either.resolve_left undeclared
  have declared : HasKind (fold (appendAll document items)).types root .object := by
    have sound : (fold (appendAll document items)).problems = [] :=
      (serviceDefinitions_problems _).symm.trans (compositionProblems_eq_nil_iff.mp cleanAgain).1
    obtain ⟨-, based, -⟩ := foldl_addExtension_of_sound (distinctNames_grouped _) sound
    obtain ⟨extension, member⟩ := List.exists_mem_of_ne_nil _ extended
    obtain ⟨rfl, addsFields⟩ := adds_typeExtensions adds.each extension member
    rw [← addsFields.kind]
    apply based
    rw [typeExtensions_appendAll]
    exact List.mem_append_right _ member
  have present : root ∈ (supergraph service (serviceDefinitions document)).types.map (·.name) := by
    obtain ⟨type, member, named, -⟩ := hasKind_serviceDefinitions_iff.mpr ⟨unowned, declared⟩
    rw [same, mem_names_supergraph]
    exact .inr (named ▸ List.mem_map_of_mem member)
  -- The document declares the root already, as something else than what its extension is.
  obtain ⟨type, member, named⟩ :=
    List.mem_map.mp ((mem_names_supergraph.mp present).resolve_left unsupplied)
  obtain ⟨-, other⟩ := hasKind_serviceDefinitions_iff.mp ⟨type, member, named, rfl⟩
  obtain ⟨gathered, gathers, kind⟩ := hasKind_fold_iff.mp other
  obtain ⟨_, gathersAgain, object⟩ := hasKind_fold_iff.mp declared
  rw [gatheredType?_appendAll gathers fun defined =>
    unowned (owned_typeNames adds.each root defined)] at gathersAgain
  rw [← Option.some.inj gathersAgain, kind_joinedType] at object
  exact undeclared (hasKind_fold_iff.mpr ⟨gathered, gathers, object⟩)

end

/--
A service that is composed is composed into the same supergraph with all that it declares for its
own runtime, unless this extends a query root that the service itself does not declare.
-/
theorem compose_appendAll_iff {service : String} {document : Document} {schema : SchemaDocument}
    (composed : compose service document = .ok schema) :
    ∃ root, schema.rootTypes.query = some root ∧
      ∀ items, AddsRuntime document root items →
        (compose service (appendAll document items) = .ok schema ↔
          HasKind (fold document).types root .object ∨
            typeExtensions { definitions := items } = []) := by
  obtain ⟨clean, same⟩ := compose_ok_iff.mp composed
  obtain ⟨-, -, queries⟩ := compositionProblems_eq_nil clean
  obtain ⟨root, query⟩ := Option.isSome_iff_exists.mp queries
  refine ⟨root, by rw [same]; exact query, fun items adds => ⟨fun again => ?_, fun based => ?_⟩⟩
  · by_contra neither
    rw [not_or] at neither
    exact compose_appendAll_ne adds composed query neither.1 neither.2 again
  · have sound : (fold document).problems = [] :=
      (serviceDefinitions_problems document).symm.trans
        (compositionProblems_eq_nil_iff.mp clean).1
    rw [compose_ok_iff,
      serviceDefinitions_appendAll adds (appendable_of_adds adds based) sound query]
    exact ⟨clean, same⟩

def introspectedService : Document where
  definitions :=
    [.schema {
        description := none
        directives := []
        operationTypes := [(.query, "__Schema")] },
      .type (plainObject "Cup" [plainField "size" (.named "Int")])]

def queriedService : Document where
  definitions := [.type (plainObject "Query" [plainField "size" (.named "Int")])]

def runtimeOf (root : Name) : List Definition :=
  [.typeExtension {
      name := root
      directives := []
      body := .object [] [plainField "_service" (.named "Int")] },
    .directive keyDirective, .type (scalarType "_Any")]

private theorem addsRuntime_runtimeOf {document : Document} {root : Name}
    (undefined : "_Any" ∉ typeNames document)
    (unextended : ∀ extension ∈ typeExtensions document, extension.name ≠ "_Any") :
    AddsRuntime document root (runtimeOf root) := by
  have queryFields : AddsFederationFields {
      name := root
      directives := []
      body := .object [] [plainField "_service" (.named "Int")] } :=
    ⟨rfl, _, rfl, by decide⟩
  have names : typeNames { definitions := runtimeOf root } = ["_Any"] := rfl
  constructor
  case each =>
      intro item member
      simp only [runtimeOf, List.mem_cons, List.not_mem_nil, or_false] at member
      rcases member with rfl | rfl | rfl
      · exact .queryFields rfl queryFields
      · exact .directive (by decide)
      · exact .type (by decide)
  case distinct =>
      rw [names]
      exact List.nodup_singleton _
  case undefined =>
      rw [names]
      exact List.forall_mem_singleton.mpr undefined
  case unextended =>
      intro extension member
      rw [names, List.mem_singleton]
      exact unextended extension member

private theorem compose_introspectedService :
    compose "cups" introspectedService =
      .ok (supergraph "cups" (serviceDefinitions introspectedService)) :=
  compose_ok_iff.mpr ⟨List.isEmpty_iff.mp (by decide), rfl⟩

/-- The query root that one service declares makes the difference between it and the other. -/
theorem compose_runtimeOf :
    (∃ schema, compose "cups" queriedService = .ok schema ∧
      compose "cups" (appendAll queriedService (runtimeOf "Query")) = .ok schema) ∧
    ∃ schema, compose "cups" introspectedService = .ok schema ∧
      compose "cups" (appendAll introspectedService (runtimeOf "__Schema")) ≠ .ok schema := by
  constructor
  · have composed : compose "cups" queriedService =
        .ok (supergraph "cups" (serviceDefinitions queriedService)) :=
      compose_ok_iff.mpr ⟨List.isEmpty_iff.mp (by decide), rfl⟩
    obtain ⟨root, query, appended⟩ := compose_appendAll_iff composed
    obtain rfl : "Query" = root := Option.some.inj query
    have adds : AddsRuntime queriedService "Query" (runtimeOf "Query") :=
      addsRuntime_runtimeOf (by decide) nofun
    exact ⟨_, composed, (appended _ adds).mpr (.inl ⟨_, .head _, rfl, rfl⟩)⟩
  · obtain ⟨root, query, appended⟩ := compose_appendAll_iff compose_introspectedService
    obtain rfl : "__Schema" = root := Option.some.inj query
    have adds : AddsRuntime introspectedService "__Schema" (runtimeOf "__Schema") :=
      addsRuntime_runtimeOf (by decide) nofun
    refine ⟨_, compose_introspectedService, fun again => ?_⟩
    rcases (appended _ adds).mp again with ⟨type, member, named, -⟩ | none
    · revert type
      decide
    · cases none

/-- A query field of federation can make a difference to the service that has it. -/
theorem introspected_root_declared :
    ¬ ∀ (service : String) (document : Document) (schema : SchemaDocument) (root : Name)
        (items : List Definition),
      compose service document = .ok schema → schema.rootTypes.query = some root →
      AddsRuntime document root items →
      compose service (appendAll document items) = .ok schema := by
  intro claim
  have adds : AddsRuntime introspectedService "__Schema" (runtimeOf "__Schema") :=
    addsRuntime_runtimeOf (by decide) nofun
  have again := claim _ _ _ _ _ compose_introspectedService rfl adds
  have extended : typeExtensions { definitions := runtimeOf "__Schema" } ≠ [] :=
    List.cons_ne_nil _ _
  refine compose_appendAll_ne adds compose_introspectedService rfl ?_ extended again
  rintro ⟨type, member, named, -⟩
  revert type
  decide

end FederationSplit.Federation
