import FederationSplit.Proofs.Federation.Additions
import FederationSplit.Proofs.Federation.Carryovers
import FederationSplit.Proofs.Schema.Appending

namespace FederationSplit.Federation

open FederationSplit.Syntax
open FederationSplit.Schema
open FederationSplit.Rules
open FederationSplit.TypeSystem

/-! ### One type more -/

private theorem dropFederationDeclarations_insert {definitions : Definitions}
    {front back : List TypeDefinition} (types : definitions.types = front ++ back)
    {type : TypeDefinition} (unowned : type.name ∉ federationTypes)
    (unconventional : ∀ operation, RootTypes.conventionalName operation ≠ type.name)
    (noQuery : (withoutFederationDefinitions definitions).rootTypes.query ≠ some type.name) :
    ∃ newFront newBack, (dropFederationDeclarations definitions).types = newFront ++ newBack ∧
      dropFederationDeclarations { definitions with types := front ++ type :: back } =
        { dropFederationDeclarations definitions with
          types := newFront ++ type :: newBack } := by
  let kept (types : List TypeDefinition) : List TypeDefinition :=
    types.filter (!federationTypes.contains ·.name)
  have keptTypes : (withoutFederationDefinitions definitions).types = kept front ++ kept back := by
    rw [withoutFederationDefinitions, types, List.filter_append]
  have inserted : withoutFederationDefinitions
      { definitions with types := front ++ type :: back } =
      { withoutFederationDefinitions definitions with
        types := kept front ++ type :: kept back } := by
    have keeps : (!federationTypes.contains type.name) = true := by simpa using unowned
    rw [withoutFederationDefinitions, List.filter_append, List.filter_cons, if_pos keeps]
    rfl
  let serve : TypeDefinition → TypeDefinition :=
    servedType (withoutFederationDefinitions definitions).rootTypes.query
  have served : serve type = type := if_neg noQuery
  refine ⟨(kept front).map serve, (kept back).map serve, ?_, ?_⟩
  · rw [dropFederationDeclarations_eq, keptTypes, List.map_append]
  · rw [dropFederationDeclarations_eq, inserted,
      Definitions.rootTypes_insert keptTypes unconventional, List.map_append, List.map_cons,
      dropFederationDeclarations_eq]
    exact congrArg (fun middle => { withoutFederationDefinitions definitions with
      types := (kept front).map serve ++ middle :: (kept back).map serve }) served

/-- A type of a name can be added to a document, as far as the document and the name tell. -/
structure FreshType (document : Document) (name : Name) : Prop where
  undeclared : name ∉ (fold document).types.map (·.name)
  unowned : name ∉ federationTypes
  unbuilt : name ∉ builtinScalars.map (·.name)
  unconventional : ∀ operation, RootTypes.conventionalName operation ≠ name
  unreserved : checkName name = []
  ordinary : isCompositionName name = false

private theorem findType?_builtinTypes {name : Name} (unbuilt : name ∉ builtinScalars.map (·.name))
    (unreserved : checkName name = []) : findType? builtinTypes name = none := by
  rw [findType?_eq_none_iff, builtinTypes, List.map_append, List.mem_append, not_or]
  refine ⟨unbuilt, fun introspection => ?_⟩
  have reserved : ∀ name ∈ introspectionTypes.map (·.name), checkName name ≠ [] := by decide
  exact reserved name introspection unreserved

/-- The names that are set aside for a new type: its own, and that of the directive it replaces. -/
def typeAside (name : Name) (unbuilt : findType? builtinTypes name = none) : Aside where
  types := [name]
  directives := federationDirectives.filter (· == name)
  unbuilt := List.forall_mem_singleton.mpr unbuilt

private theorem mem_typeAside_directives {name other : Name}
    {unbuilt : findType? builtinTypes name = none} :
    other ∈ (typeAside name unbuilt).directives ↔ other ∈ federationDirectives ∧ other = name := by
  simp [typeAside]

private theorem asideOf_typeAside {name : Name} (unowned : name ∉ federationTypes)
    (unbuilt : findType? builtinTypes name = none) : AsideOf name (typeAside name unbuilt) where
  only := by
    intro other isAside
    rcases List.mem_append.mp isAside with isType | isDirective
    · exact List.mem_singleton.mp isType
    · exact (mem_typeAside_directives.mp isDirective).2
  types := by
    rintro type member rfl
    exact absurd (owned_serviceTypes type member) unowned
  directives := by
    rintro directive member rfl
    exact mem_typeAside_directives.mpr ⟨owned_serviceDirectives directive member, rfl⟩

section

variable {document : Document} {name : Name} (fresh : FreshType document name)

include fresh

private theorem undeclared_of_fresh :
    name ∉ (validationDeclarations (serviceDefinitions document)).types.map (·.name) := by
  rw [validationDeclarations, List.map_append, List.mem_append, not_or]
  constructor
  · intro own
    obtain ⟨type, member, rfl⟩ := List.mem_map.mp own
    rw [serviceDefinitions_types] at member
    obtain ⟨original, kept, rfl⟩ := List.mem_map.mp member
    apply fresh.undeclared
    rw [name_servedType]
    exact List.mem_map_of_mem (List.mem_of_mem_filter kept)
  · intro prelude
    obtain ⟨type, member, rfl⟩ := List.mem_map.mp prelude
    exact fresh.unowned (owned_serviceTypes type (List.mem_of_mem_filter member))

private theorem query_ne_of_fresh
    (clean : compositionProblems (serviceDefinitions document) = []) :
    (serviceDefinitions document).rootTypes.query ≠ some name := by
  intro root
  have get : (serviceDefinitions document).rootTypes.get .query = some name := root
  have object := root_kind_of_clean clean get
  rw [Declarations.kind?, Declarations.type?,
    findType?_builtinTypes fresh.unbuilt fresh.unreserved] at object
  obtain ⟨type, found, -⟩ := Option.map_eq_some_iff.mp object
  obtain ⟨member, rfl⟩ := mem_of_findType? found
  exact undeclared_of_fresh fresh (List.mem_map_of_mem member)

private theorem serviceDefinitions_append_type
    (clean : compositionProblems (serviceDefinitions document) = []) :
    ∃ front back, (serviceDefinitions document).types = front ++ back ∧
      serviceDefinitions (append document (.type (plainType name))) =
        { serviceDefinitions document with types := front ++ plainType name :: back } := by
  have sound : (fold document).problems = [] :=
    (serviceDefinitions_problems document).symm.trans (compositionProblems_eq_nil_iff.mp clean).1
  have undeclared : (plainType name).name ∉ (fold document).types.map (·.name) := fresh.undeclared
  obtain ⟨front, back, types, folded⟩ := fold_append_type sound undeclared
  have noQuery : (withoutFederationDefinitions (fold document)).rootTypes.query ≠
      some (plainType name).name := by
    rw [← serviceDefinitions_rootTypes]
    exact query_ne_of_fresh fresh clean
  rw [serviceDefinitions, serviceDefinitions, folded]
  exact dropFederationDeclarations_insert types fresh.unowned fresh.unconventional noQuery

private theorem spared_typeAside :
    Spared (typeAside name (findType?_builtinTypes fresh.unbuilt fresh.unreserved))
      (serviceDefinitions document) where
  types := by
    intro type member isAside
    apply undeclared_of_fresh fresh
    rw [← List.mem_singleton.mp isAside]
    exact List.mem_map_of_mem (List.mem_append_left _ member)
  directives := fun directive member isAside =>
    (served_serviceDefinitions document).directives directive member
      (mem_typeAside_directives.mp isAside).1

private theorem declaresMore_type {front back : List TypeDefinition}
    (clean : compositionProblems (serviceDefinitions document) = [])
    (types : (serviceDefinitions document).types = front ++ back)
    (inserted : serviceDefinitions (append document (.type (plainType name))) =
      { serviceDefinitions document with types := front ++ plainType name :: back }) :
    DeclaresMore name (typeAside name (findType?_builtinTypes fresh.unbuilt fresh.unreserved))
      (serviceDefinitions document)
      (serviceDefinitions (append document (.type (plainType name)))) := by
  have spared := spared_typeAside fresh
  have accepted := accepted_of_check (compositionProblems_eq_nil clean).1
  have served := served_serviceDefinitions document
  have servedAppended := served_serviceDefinitions (append document (.type (plainType name)))
  rw [inserted] at servedAppended ⊢
  constructor
  case served => exact served
  case servedAppended => exact servedAppended
  case problems => rfl
  case operationTypes => rfl
  case rootTypes => exact Definitions.rootTypes_insert types fresh.unconventional
  case distinct => exact accepted.distinct
  case names =>
    intro other
    simp only [declaredNames, types, plainType, plainObject, List.map_append, List.map_cons,
      List.mem_append, List.mem_cons]
    tauto
  case types =>
    rw [types]
    simp [Aside.others, typeAside, plainType, plainObject]
  case directives => rfl
  case asideOf => exact asideOf_typeAside fresh.unowned _
  case spared => exact spared
  case newTypes =>
    intro type member isAside
    rw [List.mem_append, List.mem_cons, or_left_comm, ← List.mem_append, ← types] at member
    exact member.resolve_right fun own => spared.types type own isAside
  case newDirectives =>
    exact fun directive member isAside => absurd isAside (spared.directives directive member)
  case unreserved => exact fresh.unreserved

private theorem unreferenced_of_fresh
    (clean : compositionProblems (serviceDefinitions document) = []) :
    ∀ other ∈ (validationDeclarations (serviceDefinitions document)).references,
      other ≠ name := by
  rintro other referenced rfl
  have kept := (compositionProblems_eq_nil_iff.mp clean).2.1
  have known := mem_allNames_of_references kept other referenced
  rw [serviceKnown_allNames, List.mem_append] at known
  rcases known with builtin | declared
  · have unbuilt := findType?_builtinTypes fresh.unbuilt fresh.unreserved
    exact findType?_eq_none_iff.mp unbuilt builtin
  · exact undeclared_of_fresh fresh declared

private theorem compositionProblems_append_type_iff
    (clean : compositionProblems (serviceDefinitions document) = []) :
    compositionProblems (serviceDefinitions (append document (.type (plainType name)))) = [] ↔
      (name ∈ federationDirectives →
        ∀ usage ∈ (validationDeclarations (serviceDefinitions document)).usages,
          usage.name ≠ name) := by
  obtain ⟨front, back, types, inserted⟩ := serviceDefinitions_append_type fresh clean
  have more := declaresMore_type fresh clean types inserted
  constructor
  · rintro appended owned usage used rfl
    have kept := (compositionProblems_eq_nil_iff.mp appended).2.1
    have known := isSome_directive?_of_usages kept usage (more.adds.usages usage used)
    rw [directive?_of_more more owned (mem_typeAside_directives.mpr ⟨owned, rfl⟩)] at known
    cases known
  · intro unused
    refine compositionProblems_of_adds more.adds ?_ clean ?_
    · intro usage used isAside
      obtain ⟨owned, named⟩ := mem_typeAside_directives.mp isAside
      exact unused (named ▸ owned) usage used named
    · intro other referenced isAside
      exact unreferenced_of_fresh fresh clean other referenced (List.mem_singleton.mp isAside)

end

/-! ### One directive more -/

def plainDirective (name : Name) : DirectiveDefinition :=
  directiveOnce name [] [.object]

/-- A directive of a name can be added to a document, as far as both tell. -/
structure FreshDirective (document : Document) (name : Name) : Prop where
  undeclared : name ∉ (fold document).directives.map (·.name)
  unowned : name ∉ federationDirectives
  unbuilt : name ∉ builtinDirectives.map (·.name)
  unreserved : checkName name = []

private theorem mem_filter_serviceTypes {name other : Name} :
    other ∈ (serviceTypes.map (·.name)).filter (· == name) ↔
      other ∈ serviceTypes.map (·.name) ∧ other = name := by
  rw [List.mem_filter, beq_iff_eq]

/-- The names that are set aside for a new directive: its own, and that of the type it replaces. -/
def directiveAside (name : Name) : Aside where
  types := (serviceTypes.map (·.name)).filter (· == name)
  directives := [name]
  unbuilt := by
    have unbuilt : ∀ name ∈ serviceTypes.map (·.name), findType? builtinTypes name = none := by
      decide
    exact fun other isAside => unbuilt other (mem_filter_serviceTypes.mp isAside).1

private theorem asideOf_directiveAside {name : Name} (unowned : name ∉ federationDirectives) :
    AsideOf name (directiveAside name) where
  only := by
    intro other isAside
    rcases List.mem_append.mp isAside with isType | isDirective
    · exact (mem_filter_serviceTypes.mp isType).2
    · exact List.mem_singleton.mp isDirective
  types := by
    rintro type member rfl
    exact mem_filter_serviceTypes.mpr ⟨List.mem_map_of_mem member, rfl⟩
  directives := by
    rintro directive member rfl
    exact absurd (owned_serviceDirectives directive member) unowned

section

variable {document : Document} {name : Name} (fresh : FreshDirective document name)

include fresh

private theorem serviceDefinitions_append_directive :
    serviceDefinitions (append document (.directive (plainDirective name))) =
      { serviceDefinitions document with
        directives := (serviceDefinitions document).directives ++ [plainDirective name] } := by
  have keeps : (!federationDirectives.contains (plainDirective name).name) = true := by
    simpa [plainDirective, directiveOnce] using fresh.unowned
  have kept : withoutFederationDefinitions
      { fold document with
        directives := (fold document).directives ++ [plainDirective name] } =
      { withoutFederationDefinitions (fold document) with
        directives := (withoutFederationDefinitions (fold document)).directives ++
          [plainDirective name] } := by
    rw [withoutFederationDefinitions, List.filter_append, List.filter_cons, if_pos keeps]
    rfl
  rw [serviceDefinitions, fold_append_directive, dropFederationDeclarations_eq, kept,
    serviceDefinitions, dropFederationDeclarations_eq]
  rfl

private theorem undeclared_directive :
    ∀ directive ∈ (serviceDefinitions document).directives, directive.name ≠ name := by
  rintro directive member rfl
  rw [serviceDefinitions_directives] at member
  exact fresh.undeclared (List.mem_map_of_mem (List.mem_of_mem_filter member))

private theorem spared_directiveAside :
    Spared (directiveAside name) (serviceDefinitions document) where
  types := by
    intro type member isAside
    obtain ⟨service, serviceMember, named⟩ :=
      List.mem_map.mp (mem_filter_serviceTypes.mp isAside).1
    exact (served_serviceDefinitions document).types type member
      (named ▸ owned_serviceTypes service serviceMember)
  directives := fun directive member isAside =>
    undeclared_directive fresh directive member (List.mem_singleton.mp isAside)

private theorem declaresMore_directive
    (clean : compositionProblems (serviceDefinitions document) = []) :
    DeclaresMore name (directiveAside name) (serviceDefinitions document)
      (serviceDefinitions (append document (.directive (plainDirective name)))) := by
  have spared := spared_directiveAside fresh
  have accepted := accepted_of_check (compositionProblems_eq_nil clean).1
  have served := served_serviceDefinitions document
  have servedAppended :=
    served_serviceDefinitions (append document (.directive (plainDirective name)))
  rw [serviceDefinitions_append_directive fresh] at servedAppended ⊢
  constructor
  case served => exact served
  case servedAppended => exact servedAppended
  case problems => rfl
  case operationTypes => rfl
  case rootTypes => rfl
  case distinct =>
    rw [List.map_append, List.nodup_append]
    refine ⟨accepted.distinct, List.nodup_singleton _, ?_⟩
    simp only [List.forall_mem_map, List.map_cons, List.map_nil, List.forall_mem_singleton]
    exact undeclared_directive fresh
  case names =>
    intro other
    simp only [declaredNames, plainDirective, directiveOnce, List.map_append, List.map_cons,
      List.map_nil, List.mem_append, List.mem_singleton]
    tauto
  case types => rfl
  case directives => simp [Aside.otherDirectives, directiveAside, plainDirective, directiveOnce]
  case asideOf => exact asideOf_directiveAside fresh.unowned
  case spared => exact spared
  case newTypes => exact fun type member isAside => absurd isAside (spared.types type member)
  case newDirectives =>
    intro directive member isAside
    rcases List.mem_append.mp member with own | new
    · exact absurd isAside (spared.directives directive own)
    · rw [List.mem_singleton.mp new]
      rfl
  case unreserved => exact fresh.unreserved

private theorem unused_of_fresh (clean : compositionProblems (serviceDefinitions document) = []) :
    ∀ usage ∈ (validationDeclarations (serviceDefinitions document)).usages,
      usage.name ≠ name := by
  rintro usage used rfl
  have kept := (compositionProblems_eq_nil_iff.mp clean).2.1
  obtain ⟨definition, found⟩ :=
    Option.isSome_iff_exists.mp (isSome_directive?_of_usages kept usage used)
  obtain ⟨member, named⟩ := mem_of_directive? found
  rw [serviceKnown_directives, List.mem_append, List.mem_reverse] at member
  rcases member with declared | builtin
  · rcases List.mem_append.mp declared with own | prelude
    · exact undeclared_directive fresh definition own named
    · apply fresh.unowned
      rw [← named]
      exact owned_serviceDirectives definition (List.mem_of_mem_filter prelude)
  · apply fresh.unbuilt
    rw [← named]
    exact List.mem_map_of_mem builtin

private theorem compositionProblems_append_directive_iff
    (clean : compositionProblems (serviceDefinitions document) = []) :
    compositionProblems
        (serviceDefinitions (append document (.directive (plainDirective name)))) = [] ↔
      (name ∈ serviceTypes.map (·.name) →
        name ∉ (validationDeclarations (serviceDefinitions document)).references) := by
  have more := declaresMore_directive fresh clean
  constructor
  · intro appended owned referenced
    have kept := (compositionProblems_eq_nil_iff.mp appended).2.1
    have unreplaced : ∀ directive ∈ serviceDirectives,
        directive.name ∉ (directiveAside name).directives := by
      intro directive member isAside
      have ownedDirective := owned_serviceDirectives directive member
      rw [List.mem_singleton.mp isAside] at ownedDirective
      exact fresh.unowned ownedDirective
    have known := mem_allNames_of_references kept name
      (more.adds.references unreplaced name referenced)
    exact allNames_of_more more owned (mem_filter_serviceTypes.mpr ⟨owned, rfl⟩) known
  · intro unreferenced
    refine compositionProblems_of_adds more.adds ?_ clean ?_
    · intro usage used isAside
      exact unused_of_fresh fresh clean usage used (List.mem_singleton.mp isAside)
    · intro other referenced isAside
      obtain ⟨owned, rfl⟩ := mem_filter_serviceTypes.mp isAside
      exact unreferenced owned referenced

end

/-! ### The supergraph -/

private theorem supergraph_insert (service : String) {definitions : Definitions}
    {front back : List TypeDefinition} (types : definitions.types = front ++ back)
    {type : TypeDefinition}
    (unconventional : ∀ operation, RootTypes.conventionalName operation ≠ type.name)
    (others : ∀ added ∈ suppliedTypes service, added.name ≠ type.name) :
    ∃ newFront newBack, (supergraph service definitions).types = newFront ++ newBack ∧
      supergraph service { definitions with types := front ++ type :: back } =
        { supergraph service definitions with
          types := newFront ++ composeType (graphName service) type :: newBack } := by
  have othersComposed : ∀ added ∈ suppliedTypes service,
      added.name ≠ (composeType (graphName service) type).name := others
  obtain ⟨newFront, newBack, without, inserted⟩ := foldl_setType_insert othersComposed
    (front.map (composeType (graphName service))) (back.map (composeType (graphName service)))
  refine ⟨newFront, newBack, ?_, ?_⟩
  · rw [supergraph, types, List.map_append]
    exact without
  · rw [supergraph, Definitions.rootTypes_insert types unconventional, List.map_append,
      List.map_cons, ← suppliedTypes, inserted, supergraph]

private theorem others_of_fresh {document : Document} {name : Name}
    (fresh : FreshType document name) (service : String) :
    ∀ added ∈ suppliedTypes service, added.name ≠ (plainType name).name := by
  have taken : ∀ name ∈ suppliedNames,
      isCompositionName name = true ∨ name ∈ federationTypes := by
    decide
  rw [← map_name_suppliedTypes service, List.forall_mem_map] at taken
  intro added member named
  rcases taken added member with composition | owned
  · rw [named] at composition
    exact Bool.false_ne_true (fresh.ordinary.symm.trans composition)
  · rw [named] at owned
    exact fresh.unowned owned

/--
A service that is composed is composed as well with one more type or directive of a new name, and
the supergraph has it then and differs in nothing else. The exceptions are a type with the name of a
directive of federation that the service uses, and a directive with the name of a type of federation
that is referred to: federation does not declare the other one then.
-/
theorem compose_append {service : String} {document : Document} {schema : SchemaDocument}
    (composed : compose service document = .ok schema) (name : Name) :
    (FreshType document name →
        ∃ front back, schema.types = front ++ back ∧
          ∀ extended, compose service (append document (.type (plainType name))) = .ok extended ↔
            (name ∈ federationDirectives →
                ∀ usage ∈ (validationDeclarations (serviceDefinitions document)).usages,
                  usage.name ≠ name) ∧
              extended = { schema with
                types := front ++ composeType (graphName service) (plainType name) :: back }) ∧
      (FreshDirective document name →
        ∀ extended,
          compose service (append document (.directive (plainDirective name))) = .ok extended ↔
            (name ∈ serviceTypes.map (·.name) →
                name ∉ (validationDeclarations (serviceDefinitions document)).references) ∧
              extended = { schema with
                directives := schema.directives ++ [plainDirective name] }) := by
  obtain ⟨clean, rfl⟩ := compose_ok_iff.mp composed
  refine ⟨fun fresh => ?type, fun fresh extended => ?directive⟩
  case type =>
    obtain ⟨front, back, types, inserted⟩ := serviceDefinitions_append_type fresh clean
    obtain ⟨newFront, newBack, composedTypes, grown⟩ :=
      supergraph_insert service types fresh.unconventional (others_of_fresh fresh service)
    refine ⟨newFront, newBack, composedTypes, fun extended => ?_⟩
    rw [compose_ok_iff, compositionProblems_append_type_iff fresh clean, inserted, grown]
  case directive =>
    have grown : supergraph service
        (serviceDefinitions (append document (.directive (plainDirective name)))) =
        { supergraph service (serviceDefinitions document) with
          directives := (supergraph service (serviceDefinitions document)).directives ++
            [plainDirective name] } := by
      rw [serviceDefinitions_append_directive fresh, supergraph, supergraph, List.append_assoc]
      rfl
    rw [compose_ok_iff, compositionProblems_append_directive_iff fresh clean, grown]

/-- Whether a name can be added depends on what is used: two that can, and two that cannot. -/
theorem sealedService_appended :
    ∃ schema, compose "cups" sealedService = .ok schema ∧
      (∃ front back, schema.types = front ++ back ∧
        compose "cups" (append sealedService (.type (plainType "cup"))) =
          .ok { schema with types := front ++ composeType "CUPS" (plainType "cup") :: back }) ∧
      (∀ extended, compose "cups" (append sealedService (.type (plainType "tag"))) ≠ .ok extended) ∧
      compose "cups" (append sealedService (.directive (plainDirective "Query"))) =
        .ok { schema with directives := schema.directives ++ [plainDirective "Query"] } ∧
      ∀ extended,
        compose "cups" (append sealedService (.directive (plainDirective "FieldSet"))) ≠
          .ok extended := by
  have composed := compose_sealedService
  have cup : FreshType sealedService "cup" :=
    ⟨by decide, by decide, by decide, fun operation => by cases operation <;> decide,
      by decide, by decide⟩
  have tag : FreshType sealedService "tag" :=
    ⟨by decide, by decide, by decide, fun operation => by cases operation <;> decide,
      by decide, by decide⟩
  have query : FreshDirective sealedService "Query" :=
    ⟨by decide, by decide, by decide, by decide⟩
  have fieldSet : FreshDirective sealedService "FieldSet" :=
    ⟨by decide, by decide, by decide, by decide⟩
  obtain ⟨front, back, types, cupAppended⟩ := (compose_append composed "cup").1 cup
  obtain ⟨_, _, -, tagAppended⟩ := (compose_append composed "tag").1 tag
  have queryAppended := (compose_append composed "Query").2 query
  have fieldSetAppended := (compose_append composed "FieldSet").2 fieldSet
  have unowned : "cup" ∉ federationDirectives := by decide
  have unneeded : "Query" ∉ serviceTypes.map (·.name) := by decide
  have tagUsed : ¬∀ usage ∈ (validationDeclarations (serviceDefinitions sealedService)).usages,
      usage.name ≠ "tag" := by
    decide
  refine ⟨_, composed, ⟨front, back, types, ?_⟩, fun extended done => ?_, ?_,
    fun extended done => ?_⟩
  · exact (cupAppended _).mpr ⟨fun owned => absurd owned unowned, rfl⟩
  · exact tagUsed (((tagAppended extended).mp done).1 (by decide))
  · exact (queryAppended _).mpr ⟨fun needed => absurd needed unneeded, rfl⟩
  · exact ((fieldSetAppended extended).mp done).1 (by decide) (by decide)

end FederationSplit.Federation
