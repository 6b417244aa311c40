import FederationSplit.Proofs.Rules.Parts
import FederationSplit.Proofs.Schema.Regrouping

namespace FederationSplit.Rules

open FederationSplit.Syntax
open FederationSplit.Schema
open FederationSplit.TypeSystem

/--
The parts of a type keep the rules, its own usages apart. An input field keeps them where it stood:
as that of a definition, or as that of an extension, which is checked like an argument.
-/
def PartsJoined (known : Known) : TypeBody → Prop
  | .inputObject fields =>
      ∀ field ∈ fields, ∃ location ∈
        [DirectiveLocation.inputFieldDefinition, DirectiveLocation.argumentDefinition],
        checkInputValue known location field = []
  | body => PartsKept known body

private theorem checkUsages_nil (known : Known) (location : DirectiveLocation) :
    checkUsages known location [] = [] := rfl

private theorem partsJoined_of_checkTypeParts {known : Known} {location : DirectiveLocation}
    (among : location ∈
      [DirectiveLocation.inputFieldDefinition, DirectiveLocation.argumentDefinition])
    {directives : List DirectiveUsage} {body : TypeBody}
    (kept : checkTypeParts known location directives body = []) :
    checkUsages known body.kind.location directives = [] ∧ PartsJoined known body := by
  unfold PartsJoined PartsKept
  cases body with
  | inputObject fields =>
      simp only [checkTypeParts, List.append_eq_nil_iff, List.flatMap_eq_nil_iff] at kept
      exact ⟨kept.1, fun field member => ⟨location, among, kept.2 field member⟩⟩
  | scalar | object | interface | union | enum =>
      simp only [checkTypeParts, List.append_eq_nil_iff, checkUsages_nil] at kept ⊢
      tauto

theorem PartsJoined.join {known : Known} {body more result : TypeBody}
    (joined : extendBody? body more = some result) (kept : PartsJoined known body)
    (moreKept : PartsJoined known more) : PartsJoined known result := by
  unfold extendBody? at joined
  split at joined <;> cases joined
  case h_1 => exact kept
  all_goals
    simp only [PartsJoined, PartsKept, checkTypeParts, checkUsages_nil, List.append_eq_nil_iff,
      List.flatMap_append, List.forall_mem_append] at kept moreKept ⊢
    tauto

theorem PartsJoined.known {known : Known} {type : TypeDefinition}
    (joined : PartsJoined known type.body) :
    ∀ name ∈ Declarations.referencedNames type, name ∈ known.allNames := by
  cases body : type.body with
  | inputObject fields =>
      rw [body] at joined
      rw [Declarations.referencedNames, body, List.forall_mem_map]
      intro field member
      obtain ⟨_, -, kept⟩ := joined field member
      exact (checkInputValue_eq_nil_iff.mp kept).2.1
  | scalar | object | interface | union | enum =>
      rw [body] at joined
      apply PartsKept.known
      rwa [body]

def inputFields : TypeBody → List InputValueDefinition
  | .inputObject fields => fields
  | _ => []

/--
The parts of a type keep the rules with fewer usages if the types that they refer to are known
still, and if an input field that an extension has added has no usage that may not stand on it.
-/
theorem partsJoined_narrowed_iff {keeps : DirectiveUsage → Bool} {known narrowed : Known}
    (narrows : Narrows keeps known narrowed) {type : TypeDefinition}
    (joined : PartsJoined known type.body) :
    PartsKept narrowed (type.body.mapUsages (·.filter keeps)) ↔
      (∀ name ∈ Declarations.referencedNames type, name ∈ narrowed.allNames) ∧
        ∀ field ∈ inputFields type.body, ∀ usage ∈ field.directives, keeps usage = true →
          MayStand known .inputFieldDefinition usage := by
  cases body : type.body with
  | inputObject fields =>
      rw [body] at joined
      have each : ∀ field ∈ fields,
          (checkInputValue narrowed .inputFieldDefinition (field.mapUsages (·.filter keeps)) = [] ↔
            field.type.baseName ∈ narrowed.allNames ∧ ∀ usage ∈ field.directives,
              keeps usage = true → MayStand known .inputFieldDefinition usage) := by
        intro field member
        obtain ⟨_, -, kept⟩ := joined field member
        exact checkInputValue_elsewhere_iff narrows kept
      rw [PartsKept, TypeBody.mapUsages, checkTypeParts, checkUsages_nil, List.nil_append,
        List.flatMap_eq_nil_iff, List.forall_mem_map, forall₂_congr each,
        Declarations.referencedNames, body, List.forall_mem_map]
      exact forall₂_and
  | scalar | object | interface | union | enum =>
      have kept : PartsKept known type.body := by
        rw [body] at joined ⊢
        exact joined
      rw [← body, partsKept_narrowed narrows kept, body]
      simp [inputFields]

private theorem fieldNames_join {body more result : TypeBody}
    (joined : extendBody? body more = some result) :
    fieldNames result = fieldNames body ++ fieldNames more := by
  unfold extendBody? at joined
  split at joined <;> cases joined <;> simp [fieldNames]

private theorem enumValueNames_join {body more result : TypeBody}
    (joined : extendBody? body more = some result) :
    enumValueNames result = enumValueNames body ++ enumValueNames more := by
  unfold extendBody? at joined
  split at joined <;> cases joined <;> simp [enumValueNames]

private theorem arguments_join {body more result : TypeBody}
    (joined : extendBody? body more = some result)
    (distinct : ∀ field ∈ body.fields, (field.arguments.map (·.name)).Nodup)
    (moreDistinct : ∀ field ∈ more.fields, (field.arguments.map (·.name)).Nodup) :
    ∀ field ∈ result.fields, (field.arguments.map (·.name)).Nodup := by
  have fields : result.fields = body.fields ++ more.fields := by
    unfold extendBody? at joined
    split at joined <;> cases joined <;> simp [TypeBody.fields]
  rw [fields, List.forall_mem_append]
  exact ⟨distinct, moreDistinct⟩

private def partOfType (type : TypeDefinition) : TypePart where
  name := type.name
  directives := type.directives
  body := type.body

private def partOfExtension (extension : TypeExtension) : TypePart where
  name := extension.name
  directives := extension.directives
  body := extension.body

private theorem perm_parts (definitions : List Definition) :
    (definitions.filterMap TypePart.ofDefinition?).Perm
      ((typeDefinitions { definitions }).map partOfType ++
        (typeExtensions { definitions }).map partOfExtension) := by
  induction definitions with
  | nil => exact List.Perm.nil
  | cons head tail induction =>
      cases head with
      | type type => exact induction.cons (partOfType type)
      | typeExtension extension =>
          exact (induction.cons (partOfExtension extension)).trans List.perm_middle.symm
      | operation | fragment | schema | schemaExtension | directive => exact induction

private theorem perm_partsOf {document : Document} {type : TypeDefinition}
    (distinct : DistinctNames (typeDefinitions document))
    (member : type ∈ typeDefinitions document) :
    (partsOf type.name document.definitions).Perm
      (partOfType type ::
        (extensionsOf type.name (typeExtensions document)).map partOfExtension) := by
  have perm := (perm_parts document.definitions).filter (·.name == type.name)
  rw [List.filter_append, List.filter_map, List.filter_map] at perm
  change (partsOf type.name document.definitions).Perm
    (((typeDefinitions document).filter (·.name == type.name)).map partOfType ++ _) at perm
  rwa [distinct.filter_name member] at perm

/-- What a schema that is folded from a document without violations keeps of the rules. -/
structure FoldKept (known : Known) (schema : SchemaDocument) : Prop where
  names : known.allNames = builtinTypeNames ++ schema.types.map (·.name)
  directives : known.directives = schema.directives.reverse ++ builtinDirectives
  distinctTypes : DistinctNames schema.types
  distinctDirectives : (schema.directives.map (·.name)).Nodup
  members : ∀ type ∈ schema.types, MembersDistinct type.body
  usages : ∀ type ∈ schema.types, UsagesKept known type.kind.location type.directives
  parts : ∀ type ∈ schema.types, PartsJoined known type.body
  definitions : ∀ directive ∈ schema.directives,
    checkDefinition known [] (.directive directive) = []
  roots : ∀ item ∈ schema.rootTypes.items, item.2 ∈ known.allNames

section

variable {document : Document} (kept : violations document = [])

include kept

private theorem checkTypeParts_of_violations {definition : Definition}
    (member : definition ∈ document.definitions) {part : TypePart}
    (isPart : TypePart.ofDefinition? definition = some part) :
    checkUsages (Known.ofDocument document) part.body.kind.location part.directives = [] ∧
      PartsJoined (Known.ofDocument document) part.body := by
  obtain ⟨front, back, split⟩ := List.append_of_mem member
  have step := checkDefinition_of_violations kept split
  cases definition with
  | type type =>
      cases isPart
      rw [checkDefinition, List.append_eq_nil_iff] at step
      exact partsJoined_of_checkTypeParts (by decide) step.2
  | typeExtension extension =>
      cases isPart
      rw [checkDefinition, List.append_eq_nil_iff] at step
      exact partsJoined_of_checkTypeParts (by decide) step.2
  | operation | fragment | schema | schemaExtension | directive => cases isPart

private theorem fold_types_of_violations :
    (fold document).types =
      (typeDefinitions document).map (extended (typeExtensions document)) :=
  fold_types (distinctNames_of_violations kept) (extends_of_violations kept)

section

variable {type : TypeDefinition} (member : type ∈ typeDefinitions document)

omit kept in
private theorem mem_definitions_of_extension {extension : TypeExtension} {name : Name}
    (among : extension ∈ extensionsOf name (typeExtensions document)) :
    Definition.typeExtension extension ∈ document.definitions := by
  obtain ⟨definition, definitionMember, selects⟩ :=
    List.mem_filterMap.mp (List.mem_of_mem_filter among)
  cases definition <;> cases selects
  exact definitionMember

include member

private theorem kind_of_extension :
    ∀ extension ∈ extensionsOf type.name (typeExtensions document),
      type.kind = extension.body.kind := by
  intro extension among
  obtain ⟨extensionMember, named⟩ := List.mem_filter.mp among
  obtain ⟨other, otherMember, sameName, sameKind⟩ :=
    extends_of_violations kept extension extensionMember
  rwa [(distinctNames_of_violations kept).eq_of_name_eq otherMember member
    (sameName.trans (beq_iff_eq.mp named))] at sameKind

private theorem perm_collected {α : Type} (collect : TypePart → List α) :
    ((partsOf type.name document.definitions).flatMap collect).Perm
      (collect (partOfType type) ++
        (extensionsOf type.name (typeExtensions document)).flatMap
          (collect <| partOfExtension ·)) := by
  have joined :=
    (perm_partsOf (distinctNames_of_violations kept) member).flatMap_right collect
  rwa [List.flatMap_cons, List.flatMap_map] at joined

private theorem membersDistinct_extended :
    MembersDistinct (extended (typeExtensions document) type).body := by
  have sameKind := kind_of_extension kept member
  obtain ⟨values, fields, -⟩ := partsDistinct_of_violations kept type.name
  constructor
  case values =>
    rw [collect_extended sameKind enumValueNames_join]
    exact (perm_collected kept member (enumValueNames ·.body)).nodup_iff.mp values
  case fields =>
    rw [collect_extended sameKind fieldNames_join]
    exact (perm_collected kept member (fieldNames ·.body)).nodup_iff.mp fields
  case arguments =>
    apply holds_extended sameKind arguments_join
    · exact nodup_arguments_of_violations kept (mem_typeDefinitions.mp member) rfl
    · intro extension among
      exact nodup_arguments_of_violations kept (mem_definitions_of_extension among) rfl

private theorem usagesKept_extended :
    UsagesKept (Known.ofDocument document) type.kind.location
      (extended (typeExtensions document) type).directives := by
  have sameKind := kind_of_extension kept member
  obtain ⟨-, -, singular⟩ := partsDistinct_of_violations kept type.name
  constructor
  case singular =>
    rw [directives_extended sameKind]
    have same := ((perm_collected kept member (·.directives)).map (·.name)).filter fun name =>
      ((Known.ofDocument document).directive? name).any (!·.isRepeatable)
    exact same.nodup_iff.mp singular
  case each =>
    rw [directives_extended sameKind, List.forall_mem_append, List.forall_mem_flatMap]
    constructor
    · have own := checkTypeParts_of_violations kept (mem_typeDefinitions.mp member) rfl
      exact List.flatMap_eq_nil_iff.mp own.1
    · intro extension among
      have added :=
        checkTypeParts_of_violations kept (mem_definitions_of_extension among) rfl
      rw [sameKind extension among]
      exact List.flatMap_eq_nil_iff.mp added.1

private theorem partsJoined_extended :
    PartsJoined (Known.ofDocument document) (extended (typeExtensions document) type).body := by
  apply holds_extended (kind_of_extension kept member) PartsJoined.join
  · exact (checkTypeParts_of_violations kept (mem_typeDefinitions.mp member) rfl).2
  · intro extension among
    exact (checkTypeParts_of_violations kept (mem_definitions_of_extension among) rfl).2

end

private theorem known_roots
    (names : (fold document).types.map (·.name) = typeNames document) :
    ∀ item ∈ (fold document).toSchemaDocument.rootTypes.items,
      item.2 ∈ (Known.ofDocument document).allNames := by
  intro item member
  have found := RootTypes.get_of_mem_items member
  change (fold document).rootTypes.get item.1 = some item.2 at found
  rw [Definitions.rootTypes_get] at found
  split at found
  · split at found
    · next declared =>
        rw [← Option.some.inj found, Known.ofDocument, ← names]
        exact List.mem_append_right _ (findType?_isSome_iff.mp declared)
    · cases found
  · obtain ⟨front, back, split, -⟩ := List.lookup_eq_some_iff.mp found
    have stated : (item.1, item.2) ∈ (fold document).operationTypes := by simp [split]
    obtain ⟨definition, definitionMember, states⟩ := mem_operationTypes_fold stated
    exact known_of_operationTypes kept definitionMember _ states

/-- A document without violations is folded into a schema that keeps the rules so far. -/
theorem foldKept_of_violations :
    FoldKept (Known.ofDocument document) (fold document).toSchemaDocument := by
  have types := fold_types_of_violations kept
  have names : (fold document).types.map (·.name) = typeNames document := by
    rw [types, List.map_map]
    exact List.map_congr_left fun type _ => name_extended _ type
  have each {property : TypeDefinition → Prop}
      (holds : ∀ type ∈ typeDefinitions document,
        property (extended (typeExtensions document) type)) :
      ∀ type ∈ (fold document).toSchemaDocument.types, property type := by
    change ∀ type ∈ (fold document).types, property type
    rw [types, List.forall_mem_map]
    exact holds
  have directives : (fold document).toSchemaDocument.directives = directiveDefinitions document :=
    fold_directives document
  constructor
  case names =>
    change builtinTypeNames ++ typeNames document = builtinTypeNames ++ _
    rw [← names]
    rfl
  case directives =>
    rw [directives]
    rfl
  case distinctTypes => exact distinctNames_fold document
  case distinctDirectives =>
    rw [directives]
    exact nodup_directives_of_violations kept
  case members => exact each fun type member => membersDistinct_extended kept member
  case usages =>
    apply each
    intro type member
    rw [kind_extended]
    exact usagesKept_extended kept member
  case parts => exact each fun type member => partsJoined_extended kept member
  case definitions =>
    rw [directives]
    exact fun directive member => checkDirective_of_violations kept member
  case roots => exact known_roots kept names

end

end FederationSplit.Rules
