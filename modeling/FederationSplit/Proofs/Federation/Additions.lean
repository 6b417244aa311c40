import FederationSplit.Proofs.Federation.Acceptance
import FederationSplit.Proofs.Rules.Unaffected
import FederationSplit.Proofs.TypeSystem.Soundness
import FederationSplit.Proofs.TypeSystem.Standalone

namespace FederationSplit.Federation

open FederationSplit.Syntax
open FederationSplit.Schema
open FederationSplit.Rules
open FederationSplit.TypeSystem

private theorem clear_field {aside : Aside} {parent : TypeDefinition}
    (clear : ∀ name ∈ Declarations.referencedNames parent, name ∉ aside.types)
    {field : FieldDefinition} (member : field ∈ parent.body.fields) :
    field.type.baseName ∉ aside.types := by
  apply clear
  unfold Declarations.referencedNames
  unfold TypeBody.fields at member
  cases body : parent.body with
  | object interfaces fields | interface interfaces fields =>
      rw [body] at member
      exact List.mem_append_right _ (List.mem_flatMap.mpr ⟨field, member, List.mem_cons_self⟩)
  | scalar | union | enum | inputObject =>
      rw [body] at member
      cases member

mutual

private theorem selectionProblems_eq {aside : Aside} {first second : Declarations}
    (agree : Declarations.AgreeApart aside first second)
    (unneeded : Declarations.Unneeded aside first) {parent : TypeDefinition}
    (clear : ∀ name ∈ Declarations.referencedNames parent, name ∉ aside.types) :
    (selection : Selection) →
      selectionProblems first parent selection = selectionProblems second parent selection
  | .field _ name arguments _ selections => by
      unfold selectionProblems
      cases found : parent.body.fields.find? (·.name == name) with
      | none => rfl
      | some field =>
          have other := clear_field clear (List.mem_of_find?_eq_some found)
          dsimp only
          rw [agree.type?_eq other]
          cases declared : second.type? field.type.baseName with
          | none => rfl
          | some type =>
              have clearType :=
                unneeded.of_type? other ((agree.type?_eq other).trans declared)
              simp only [selectionSetProblems_eq agree unneeded clearType selections]
  | .fragmentSpread .. => rfl
  | .inlineFragment .. => rfl

private theorem selectionSetProblems_eq {aside : Aside} {first second : Declarations}
    (agree : Declarations.AgreeApart aside first second)
    (unneeded : Declarations.Unneeded aside first) {parent : TypeDefinition}
    (clear : ∀ name ∈ Declarations.referencedNames parent, name ∉ aside.types) :
    (selections : List Selection) →
      selectionSetProblems first parent selections = selectionSetProblems second parent selections
  | [] => rfl
  | selection :: rest => by
      rw [selectionSetProblems, selectionSetProblems,
        selectionProblems_eq agree unneeded clear selection,
        selectionSetProblems_eq agree unneeded clear rest]

end

section

variable {aside : Aside} {first second : Declarations}
  (agree : Declarations.AgreeApart aside first second)
  (unneeded : Declarations.Unneeded aside first)

include agree unneeded

private theorem typeKeyProblems_eq {type : TypeDefinition} (member : type ∈ first.types)
    (memberSecond : type ∈ second.types) (other : type.name ∉ aside.types) :
    typeKeyProblems first type = typeKeyProblems second type := by
  have declared {declarations : Declarations} (member : type ∈ declarations.types) :
      declarations.hasType type.name = true := by
    have named : declarations.types.any (·.name == type.name) = true :=
      List.any_eq_true.mpr ⟨type, member, beq_self_eq_true _⟩
    rw [Declarations.hasType, named, Bool.true_or, Bool.true_or]
  have keys (text : String) :
      keyProblems first type.name text = keyProblems second type.name text := by
    unfold keyProblems
    cases parseFieldSet text with
    | error error => rfl
    | ok selections =>
        simp only [declared member, declared memberSecond, ← agree.type?_eq other]
        cases found : first.type? type.name with
        | none => rfl
        | some parent =>
            simp only [Option.filter_some, if_pos,
              selectionSetProblems_eq agree unneeded (unneeded.of_type? other found) selections]
  have usages : keyUsageProblems first type.name = keyUsageProblems second type.name := by
    funext usage
    simp only [keyUsageProblems, keys]
  rw [typeKeyProblems, typeKeyProblems, usages]

end

/-! ### What is used and referred to -/

section

variable {definitions : Definitions} (kept : violations (validationDocument definitions) = [])

include kept

private theorem checkDefinition_of_kept :
    (∀ type ∈ (validationDeclarations definitions).types,
        checkDefinition (serviceKnown definitions) [] (.type type) = []) ∧
      ∀ directive ∈ (validationDeclarations definitions).directives,
        checkDefinition (serviceKnown definitions) [] (.directive directive) = [] := by
  obtain ⟨-, each⟩ := violations_validationDocument_eq_nil_iff.mp kept
  constructor
  · exact fun type member =>
      each _ (mem_validationDocument.mpr (.inr (.inl ⟨type, member, rfl⟩)))
  · exact fun directive member =>
      each _ (mem_validationDocument.mpr (.inr (.inr ⟨directive, member, rfl⟩)))

theorem isSome_directive?_of_usages :
    ∀ usage ∈ (validationDeclarations definitions).usages,
      ((serviceKnown definitions).directive? usage.name).isSome := by
  obtain ⟨types, directives⟩ := checkDefinition_of_kept kept
  rw [Declarations.usages, List.forall_mem_append, List.forall_mem_flatMap,
    List.forall_mem_flatMap]
  exact ⟨fun type member => isSome_directive?_of_type (types type member),
    fun directive member => isSome_directive?_of_directive (directives directive member)⟩

theorem mem_allNames_of_references :
    ∀ name ∈ (validationDeclarations definitions).references,
      name ∈ (serviceKnown definitions).allNames := by
  obtain ⟨types, directives⟩ := checkDefinition_of_kept kept
  rw [Declarations.references, List.forall_mem_append, List.forall_mem_flatMap,
    List.forall_mem_flatMap]
  refine ⟨fun type member => ?_, fun directive member => ?_⟩
  · exact (checkDefinition_type_eq_nil_iff.mp (types type member)).2.2.known
  · refine List.forall_mem_map.mpr fun argument given => ?_
    have arguments := (checkDefinition_directive_eq_nil_iff.mp (directives directive member)).2
    exact (checkInputValue_eq_nil_iff.mp (arguments argument given)).2.1

end

def plainType (name : Name) : TypeDefinition :=
  plainObject name [plainField "x" (.named "Int")]

/--
The second definitions have what the first ones have, apart from what is set aside. Of the first
only what federation declares is set aside, of the second only what is added.
-/
structure Adds (aside : Aside) (first second : Definitions) : Prop where
  problems : second.problems = first.problems
  stated : statedSchema second = statedSchema first
  agree : Declarations.AgreeApart aside (validationDeclarations first)
    (validationDeclarations second)
  distinctTypes : DistinctNames (validationDeclarations second).types
  distinctDirectives : ((validationDeclarations second).directives.map (·.name)).Nodup
  replacedTypes : ∀ type ∈ (validationDeclarations first).types, type.name ∈ aside.types →
    type ∈ serviceTypes
  replacedDirectives : ∀ directive ∈ (validationDeclarations first).directives,
    directive.name ∈ aside.directives → directive ∈ serviceDirectives
  addedTypes : ∀ type ∈ (validationDeclarations second).types, type.name ∈ aside.types →
    type = plainType type.name
  addedDirectives : ∀ directive ∈ (validationDeclarations second).directives,
    directive.name ∈ aside.directives → directive.arguments = []
  unreserved : ∀ name ∈ aside.types ++ aside.directives, checkName name = []
private theorem inert_serviceTypes : ∀ type ∈ serviceTypes, Inert type := by
  have purpose : linkPurpose = plainEnum "link__Purpose" ["SECURITY", "EXECUTION"] := rfl
  rw [serviceTypes, List.forall_mem_cons, List.forall_mem_cons, List.forall_mem_singleton, purpose]
  exact ⟨inert_scalarType (by decide), inert_scalarType (by decide),
    inert_plainEnum (by decide) (by decide) (by decide)⟩

private theorem quiet_serviceDirectives (declarations : Declarations) :
    ∀ directive ∈ serviceDirectives, Quiet (resolveDirective declarations directive) := by
  have flat : ∀ directive ∈ serviceDirectives, ∀ argument ∈ directive.arguments,
      argument.defaultValue.all isFlat = true := by
    decide
  exact fun directive member => quiet_resolveDirective_of_flat declarations (flat directive member)

private theorem inert_plainType {name : Name} (unreserved : checkName name = []) :
    Inert (plainType name) := by
  refine inert_plainObject unreserved (by decide) fun declarations => ?_
  have builtin : findType? builtinTypes "Int" = some (scalarType "Int") := by rfl
  have found : declarations.type? "Int" = some (scalarType "Int") := by
    rw [Declarations.type?, builtin]
    rfl
  rw [Declarations.isOutputType, Declarations.kind?, TypeRef.baseName, found]
  rfl

private theorem checkDefinition_plainType (definitions : Definitions) (name : Name) :
    checkDefinition (serviceKnown definitions) [] (.type (plainType name)) = [] := by
  rw [checkDefinition_type_eq_nil_iff]
  refine ⟨⟨List.nodup_nil, List.nodup_singleton _, ?arguments⟩, UsagesKept.nil .., ?parts⟩
  case arguments => exact List.forall_mem_singleton.mpr List.nodup_nil
  case parts =>
    have known : "Int" ∈ (serviceKnown definitions).allNames := by
      rw [serviceKnown_allNames]
      exact List.mem_append_left _ (by decide)
    have field : checkField (serviceKnown definitions) (plainField "x" (.named "Int")) = [] :=
      checkField_eq_nil_iff.mpr ⟨UsagesKept.nil .., known, List.forall_mem_nil _⟩
    exact (List.append_nil _).trans field

section

variable {aside : Aside} {first second : Definitions} (adds : Adds aside first second)

include adds

private theorem narrows_of_adds :
    Narrows (fun usage => !aside.directives.contains usage.name) (serviceKnown first)
      (serviceKnown second) := by
  intro usage stays definition found
  have other : usage.name ∉ aside.directives := by simpa using stays
  have same : (validationDeclarations first).directives.reverse.find? (·.name == usage.name) =
      (validationDeclarations second).directives.reverse.find? (·.name == usage.name) := by
    rw [← find?_filter_names DirectiveDefinition.name other, List.filter_reverse,
      show List.filter _ _ = aside.otherDirectives _ from rfl, adds.agree.directives,
      Aside.otherDirectives, ← List.filter_reverse,
      find?_filter_names DirectiveDefinition.name other]
  rwa [Known.directive?, serviceKnown_directives, List.find?_append, same, ← List.find?_append,
    ← serviceKnown_directives, ← Known.directive?] at found

private theorem mem_allNames_of_adds {name : Name} (other : name ∉ aside.types)
    (known : name ∈ (serviceKnown first).allNames) : name ∈ (serviceKnown second).allNames := by
  rw [serviceKnown_allNames, List.mem_append] at known ⊢
  refine known.imp_right fun declared => ?_
  rw [← findType?_isSome_iff] at declared ⊢
  rwa [← aside.findType?_others other, ← adds.agree.types, aside.findType?_others other]

private theorem root_of_adds (clean : compositionProblems first = []) :
    ∀ operation name, first.rootTypes.get operation = some name → name ∉ aside.types := by
  intro operation name root isAside
  have object := root_kind_of_clean clean root
  rw [Declarations.kind?, Declarations.type?, aside.unbuilt name isAside] at object
  obtain ⟨type, found, kind⟩ := Option.map_eq_some_iff.mp object
  obtain ⟨member, rfl⟩ := mem_of_findType? found
  exact kind_serviceTypes type (adds.replacedTypes type member isAside) kind

variable (unused : ∀ usage ∈ (validationDeclarations first).usages,
    usage.name ∉ aside.directives)
  (unneeded : Declarations.Unneeded aside (validationDeclarations first))

include unneeded

private theorem keys_of_adds
    (keys : ∀ type ∈ first.types, typeKeyProblems (validationDeclarations first) type = []) :
    ∀ type ∈ second.types, typeKeyProblems (validationDeclarations second) type = [] := by
  intro type member
  have declared : type ∈ (validationDeclarations second).types := List.mem_append_left _ member
  by_cases isAside : type.name ∈ aside.types
  · rw [adds.addedTypes type declared isAside]
    rfl
  · have before := adds.agree.symm.mem_types declared isAside
    rw [← typeKeyProblems_eq adds.agree unneeded before declared isAside]
    rcases List.mem_append.mp before with own | prelude
    · exact keys type own
    · have unkeyed : ∀ type ∈ serviceTypes, usagesOf "key" type.directives = [] := by decide
      rw [typeKeyProblems, unkeyed type (List.mem_of_mem_filter prelude)]
      split <;> rfl

private theorem schema_of_adds {schema : ResolvedSchema}
    (resolved : resolve (validationDeclarations first) = .ok schema)
    (sound : schemaProblems schema = []) :
    ∃ other, resolve (validationDeclarations second) = .ok other ∧ schemaProblems other = [] := by
  obtain ⟨other, resolvedOther, agree⟩ := resolve_of_agree adds.agree unneeded
    (fun type member isAside =>
      inert_serviceTypes type (adds.replacedTypes type member isAside))
    (fun type member isAside => by
      rw [adds.addedTypes type member isAside]
      exact inert_plainType (adds.unreserved _ (List.mem_append_left _ isAside)))
    (fun directive member isAside =>
      quiet_serviceDirectives _ directive (adds.replacedDirectives directive member isAside))
    adds.addedDirectives resolved
  refine ⟨other, resolvedOther, schemaProblems_of_agree agree ?_
    (fun name isAside => adds.unreserved name (List.mem_append_right _ isAside)) sound⟩
  rw [declarations_of_resolve resolved]
  exact unneeded.roots

include unused

private theorem violations_of_adds (kept : violations (validationDocument first) = []) :
    violations (validationDocument second) = [] := by
  obtain ⟨types, directives⟩ := checkDefinition_of_kept kept
  have known {name : Name} (other : name ∉ aside.types)
      (referenced : name ∈ (serviceKnown first).allNames) :
      name ∈ (serviceKnown second).allNames := mem_allNames_of_adds adds other referenced
  rw [Declarations.usages, List.forall_mem_append, List.forall_mem_flatMap,
    List.forall_mem_flatMap] at unused
  refine violations_validationDocument_eq_nil_iff.mpr
    ⟨⟨adds.distinctDirectives, adds.distinctTypes⟩, fun definition member => ?_⟩
  rcases mem_validationDocument.mp member with stated | ⟨type, declared, rfl⟩ |
    ⟨directive, declared, rfl⟩
  · rw [adds.stated] at stated
    have before := (violations_validationDocument_eq_nil_iff.mp kept).2 definition
      (mem_validationDocument.mpr (.inl stated))
    obtain ⟨-, rfl⟩ := mem_statedSchema.mp stated
    rw [checkDefinition_schema_eq_nil_iff] at before ⊢
    refine ⟨before.1, UsagesKept.nil .., fun item isItem => ?_⟩
    exact known (unneeded.roots _ _ (RootTypes.get_of_mem_items isItem)) (before.2.2 item isItem)
  · by_cases isAside : type.name ∈ aside.types
    · rw [adds.addedTypes type declared isAside]
      exact checkDefinition_plainType second type.name
    · have before := adds.agree.symm.mem_types declared isAside
      refine checkDefinition_type_unaffected (narrows_of_adds adds) (types type before)
        (fun usage used => by simpa using unused.1 type before usage used) fun name referenced => ?_
      exact known (unneeded.types type before isAside name referenced)
        ((checkDefinition_type_eq_nil_iff.mp (types type before)).2.2.known name referenced)
  · by_cases isAside : directive.name ∈ aside.directives
    · rw [checkDefinition_directive_eq_nil_iff, adds.addedDirectives directive declared isAside]
      exact ⟨List.nodup_nil, List.forall_mem_nil _⟩
    · have before := adds.agree.symm.mem_directives declared isAside
      refine checkDefinition_directive_unaffected (narrows_of_adds adds)
        (directives directive before)
        (fun usage used => by simpa using unused.2 directive before usage used)
        fun argument given => ?_
      have arguments := (checkDefinition_directive_eq_nil_iff.mp (directives directive before)).2
      exact known (unneeded.directives directive before isAside argument given)
        (checkInputValue_eq_nil_iff.mp (arguments argument given)).2.1

omit unneeded

/--
Definitions to which something is added are without problems if nothing needs what is gone. What is
replaced is one of the declarations of federation.
-/
theorem compositionProblems_of_adds (clean : compositionProblems first = [])
    (unreferenced : ∀ name ∈ (validationDeclarations first).references, name ∉ aside.types) :
    compositionProblems second = [] := by
  obtain ⟨problems, kept, ⟨schema, resolved, sound⟩, queries, keys⟩ :=
    compositionProblems_eq_nil_iff.mp clean
  have unneeded := Declarations.Unneeded.of_references unreferenced (root_of_adds adds clean)
  refine compositionProblems_eq_nil_iff.mpr ⟨adds.problems.trans problems,
    violations_of_adds adds unused unneeded kept, schema_of_adds adds unneeded resolved sound, ?_,
    keys_of_adds adds unneeded keys⟩
  have sameRoots : first.rootTypes = second.rootTypes := adds.agree.rootTypes
  rwa [← sameRoots]

end

section

variable {aside : Aside} {first second : Definitions} (adds : Adds aside first second)

include adds

theorem Adds.usages :
    ∀ usage ∈ (validationDeclarations first).usages,
      usage ∈ (validationDeclarations second).usages := by
  have noTypeUsage : ∀ type ∈ serviceTypes, type.usages = [] := by
    simp only [serviceTypes, List.forall_mem_cons]
    exact ⟨rfl, rfl, rfl, List.forall_mem_nil _⟩
  have noDirectiveUsage : ∀ directive ∈ serviceDirectives, directive.usages = [] := by
    decide
  intro usage used
  rcases List.mem_append.mp used with inTypes | inDirectives
  · obtain ⟨type, member, inside⟩ := List.mem_flatMap.mp inTypes
    by_cases isAside : type.name ∈ aside.types
    · rw [noTypeUsage type (adds.replacedTypes type member isAside)] at inside
      cases inside
    · exact List.mem_append_left _
        (List.mem_flatMap.mpr ⟨type, adds.agree.mem_types member isAside, inside⟩)
  · obtain ⟨directive, member, inside⟩ := List.mem_flatMap.mp inDirectives
    by_cases isAside : directive.name ∈ aside.directives
    · rw [noDirectiveUsage directive (adds.replacedDirectives directive member isAside)] at inside
      cases inside
    · exact List.mem_append_right _
        (List.mem_flatMap.mpr ⟨directive, adds.agree.mem_directives member isAside, inside⟩)

/-- What the first definitions refer to the second ones refer to, if no directive is replaced. -/
theorem Adds.references
    (unreplaced : ∀ directive ∈ serviceDirectives, directive.name ∉ aside.directives) :
    ∀ name ∈ (validationDeclarations first).references,
      name ∈ (validationDeclarations second).references := by
  have noReference : ∀ type ∈ serviceTypes, Declarations.referencedNames type = [] := by decide
  intro name referenced
  rcases List.mem_append.mp referenced with inTypes | inDirectives
  · obtain ⟨type, member, inside⟩ := List.mem_flatMap.mp inTypes
    by_cases isAside : type.name ∈ aside.types
    · rw [noReference type (adds.replacedTypes type member isAside)] at inside
      cases inside
    · exact List.mem_append_left _
        (List.mem_flatMap.mpr ⟨type, adds.agree.mem_types member isAside, inside⟩)
  · obtain ⟨directive, member, inside⟩ := List.mem_flatMap.mp inDirectives
    have isOther : directive.name ∉ aside.directives := fun isAside =>
      unreplaced directive (adds.replacedDirectives directive member isAside) isAside
    exact List.mem_append_right _
      (List.mem_flatMap.mpr ⟨directive, adds.agree.mem_directives member isOther, inside⟩)

end

/-! ### What federation declares -/

section

variable {first second : Definitions} {name : Name}
  (names : ∀ other, other ∈ declaredNames second ↔ other = name ∨ other ∈ declaredNames first)

include names

private theorem contains_declaredNames (other : Name) :
    (!(declaredNames second).contains other) =
      (other != name && !(declaredNames first).contains other) := by
  rw [Bool.eq_iff_iff]
  simp [names]

theorem preludeTypes_of_names :
    preludeTypes second = (preludeTypes first).filter (·.name != name) := by
  simp only [preludeTypes, List.filter_filter, contains_declaredNames names]

theorem preludeDirectives_of_names :
    preludeDirectives second = (preludeDirectives first).filter (·.name != name) := by
  simp only [preludeDirectives, List.filter_filter, contains_declaredNames names]

end

private theorem filter_of_covered {α : Type} (nameOf : α → Name) {names : List Name} {name : Name}
    {items : List α} (covered : ∀ item ∈ items, nameOf item = name → name ∈ names) :
    (items.filter (nameOf · != name)).filter (fun item => !names.contains (nameOf item)) =
      items.filter fun item => !names.contains (nameOf item) := by
  rw [List.filter_filter]
  apply List.filter_congr
  intro item member
  rw [Bool.and_eq_left_iff_imp]
  intro kept
  rw [bne_iff_ne]
  intro named
  have among := covered item member named
  rw [← named] at among
  simp [among] at kept

private theorem nodup_append_of_owned {α : Type} {nameOf : α → Name} {own prelude : List α}
    {owned : List Name} (distinct : (own.map nameOf).Nodup)
    (preludeDistinct : (prelude.map nameOf).Nodup) (unowned : ∀ item ∈ own, nameOf item ∉ owned)
    (isOwned : ∀ item ∈ prelude, nameOf item ∈ owned) :
    ((own ++ prelude).map nameOf).Nodup := by
  rw [List.map_append, List.nodup_append]
  refine ⟨distinct, preludeDistinct, ?_⟩
  simp only [List.forall_mem_map]
  intro item member other otherMember same
  exact unowned item member (same ▸ isOwned other otherMember)

section

variable {definitions : Definitions} (served : Served definitions)

include served

theorem distinctNames_validationDeclarations :
    DistinctNames (validationDeclarations definitions).types :=
  nodup_append_of_owned served.distinct
    ((List.filter_sublist.map _).nodup (by decide : (serviceTypes.map (·.name)).Nodup))
    served.types fun type member => owned_serviceTypes type (List.mem_of_mem_filter member)

theorem nodup_directives_validationDeclarations
    (distinct : (definitions.directives.map (·.name)).Nodup) :
    ((validationDeclarations definitions).directives.map (·.name)).Nodup :=
  nodup_append_of_owned distinct
    ((List.filter_sublist.map _).nodup (by decide : (serviceDirectives.map (·.name)).Nodup))
    served.directives fun directive member =>
      owned_serviceDirectives directive (List.mem_of_mem_filter member)

end

/-- One name is set aside, for whatever federation declares under it. -/
structure AsideOf (name : Name) (aside : Aside) : Prop where
  only : ∀ other ∈ aside.types ++ aside.directives, other = name
  types : ∀ type ∈ serviceTypes, type.name = name → name ∈ aside.types
  directives : ∀ directive ∈ serviceDirectives, directive.name = name →
    name ∈ aside.directives

structure Spared (aside : Aside) (definitions : Definitions) : Prop where
  types : ∀ type ∈ definitions.types, type.name ∉ aside.types
  directives : ∀ directive ∈ definitions.directives, directive.name ∉ aside.directives

/--
The second definitions have a type or a directive more than the first ones. It is set aside with
what federation declares under its name for the first ones, but not for the second ones.
-/
structure DeclaresMore (name : Name) (aside : Aside) (first second : Definitions) : Prop where
  served : Served first
  servedAppended : Served second
  problems : second.problems = first.problems
  operationTypes : second.operationTypes = first.operationTypes
  rootTypes : second.rootTypes = first.rootTypes
  distinct : (second.directives.map (·.name)).Nodup
  names : ∀ other, other ∈ declaredNames second ↔ other = name ∨ other ∈ declaredNames first
  types : aside.others first.types = aside.others second.types
  directives : aside.otherDirectives first.directives = aside.otherDirectives second.directives
  asideOf : AsideOf name aside
  spared : Spared aside first
  newTypes : ∀ type ∈ second.types, type.name ∈ aside.types → type = plainType name
  newDirectives : ∀ directive ∈ second.directives, directive.name ∈ aside.directives →
    directive.arguments = []
  unreserved : checkName name = []

section

variable {name : Name} {aside : Aside} {first second : Definitions}
  (more : DeclaresMore name aside first second)

include more

private theorem mem_preludeTypes_of_more {type : TypeDefinition}
    (member : type ∈ preludeTypes second) : type.name ∉ aside.types := by
  rw [preludeTypes_of_names more.names] at member
  intro isAside
  have named := more.asideOf.only type.name (List.mem_append_left _ isAside)
  exact bne_iff_ne.mp (List.mem_filter.mp member).2 named

private theorem mem_preludeDirectives_of_more {directive : DirectiveDefinition}
    (member : directive ∈ preludeDirectives second) : directive.name ∉ aside.directives := by
  rw [preludeDirectives_of_names more.names] at member
  intro isAside
  have named := more.asideOf.only directive.name (List.mem_append_right _ isAside)
  exact bne_iff_ne.mp (List.mem_filter.mp member).2 named

private theorem agree_of_more :
    Declarations.AgreeApart aside (validationDeclarations first)
      (validationDeclarations second) where
  types := by
    have prelude : aside.others (preludeTypes second) = aside.others (preludeTypes first) := by
      rw [preludeTypes_of_names more.names]
      exact filter_of_covered TypeDefinition.name fun type member =>
        more.asideOf.types type (List.mem_of_mem_filter member)
    change aside.others (first.types ++ preludeTypes first) =
      aside.others (second.types ++ preludeTypes second)
    rw [aside.others_append, aside.others_append, more.types, prelude]
  directives := by
    have prelude : aside.otherDirectives (preludeDirectives second) =
        aside.otherDirectives (preludeDirectives first) := by
      rw [preludeDirectives_of_names more.names]
      exact filter_of_covered DirectiveDefinition.name fun directive member =>
        more.asideOf.directives directive (List.mem_of_mem_filter member)
    change aside.otherDirectives (first.directives ++ preludeDirectives first) =
      aside.otherDirectives (second.directives ++ preludeDirectives second)
    rw [aside.otherDirectives_append, aside.otherDirectives_append, more.directives, prelude]
  rootTypes := more.rootTypes.symm

theorem DeclaresMore.adds : Adds aside first second where
  problems := more.problems
  stated := by simp only [statedSchema, more.operationTypes, more.rootTypes]
  agree := agree_of_more more
  distinctTypes := distinctNames_validationDeclarations more.servedAppended
  distinctDirectives := nodup_directives_validationDeclarations more.servedAppended more.distinct
  replacedTypes type member isAside := by
    rcases List.mem_append.mp member with own | prelude
    · exact absurd isAside (more.spared.types type own)
    · exact List.mem_of_mem_filter prelude
  replacedDirectives directive member isAside := by
    rcases List.mem_append.mp member with own | prelude
    · exact absurd isAside (more.spared.directives directive own)
    · exact List.mem_of_mem_filter prelude
  addedTypes type member isAside := by
    rcases List.mem_append.mp member with own | prelude
    · rw [more.newTypes type own isAside]
      rfl
    · exact absurd isAside (mem_preludeTypes_of_more more prelude)
  addedDirectives directive member isAside := by
    rcases List.mem_append.mp member with own | prelude
    · exact more.newDirectives directive own isAside
    · exact absurd isAside (mem_preludeDirectives_of_more more prelude)
  unreserved other isAside := by
    rw [more.asideOf.only other isAside]
    exact more.unreserved

theorem directive?_of_more (owned : name ∈ federationDirectives)
    (isAside : name ∈ aside.directives) : (serviceKnown second).directive? name = none := by
  rw [Known.directive?, serviceKnown_directives, List.find?_eq_none]
  intro directive member named
  have sameName : directive.name = name := beq_iff_eq.mp named
  rcases List.mem_append.mp member with declared | builtin
  · rcases List.mem_append.mp (List.mem_reverse.mp declared) with own | prelude
    · exact more.servedAppended.directives directive own (sameName ▸ owned)
    · exact mem_preludeDirectives_of_more more prelude (sameName ▸ isAside)
  · exact unowned_builtinDirectives directive builtin (sameName ▸ owned)

theorem allNames_of_more (owned : name ∈ serviceTypes.map (·.name))
    (isAside : name ∈ aside.types) : name ∉ (serviceKnown second).allNames := by
  rw [serviceKnown_allNames, List.mem_append, validationDeclarations, List.map_append,
    List.mem_append]
  rintro (builtin | own | prelude)
  · have other : ∀ name ∈ serviceTypes.map (·.name), name ∉ builtinTypeNames := by decide
    exact other name owned builtin
  · obtain ⟨type, member, rfl⟩ := List.mem_map.mp own
    obtain ⟨service, serviceMember, named⟩ := List.mem_map.mp owned
    exact more.servedAppended.types type member
      (named ▸ owned_serviceTypes service serviceMember)
  · obtain ⟨type, member, rfl⟩ := List.mem_map.mp prelude
    exact mem_preludeTypes_of_more more member isAside

end

end FederationSplit.Federation
