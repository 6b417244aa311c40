import FederationSplit.Proofs.Rules.Plain
import FederationSplit.Proofs.Schema.Extending
import FederationSplit.Proofs.Schema.Regrouping

namespace FederationSplit.Schema

open FederationSplit.Syntax
open FederationSplit.Rules

def isSchemaPart : Definition → Bool
  | .schema _ | .schemaExtension _ => true
  | _ => false

def statedOperations (document : Document) : List OperationType :=
  (schemaParts document.definitions).flatMap fun schema => schema.operationTypes.map (·.1)

/-- The schema definitions of a document and their extensions in one, as they are folded. -/
def mergedSchema (document : Document) : SchemaDefinition where
  description := none
  directives := (fold document).schemaDirectives
  operationTypes := (fold document).operationTypes

/-- A document with its schema definitions and their extensions in one definition. -/
def withSchemaMerged (document : Document) : Document where
  definitions :=
    (if document.definitions.any isSchemaPart then [.schema (mergedSchema document)] else []) ++
      document.definitions.filter (!isSchemaPart ·)

private theorem addDefinition_addSchema {definition : Definition}
    (other : isSchemaPart definition = false) (definitions : Definitions)
    (schema : SchemaDefinition) :
    (definitions.addSchema schema).addDefinition definition =
      (definitions.addDefinition definition).addSchema schema := by
  cases definition with
  | schema | schemaExtension => cases other
  | type type =>
      simp only [Definitions.addDefinition]
      change (if (findType? definitions.types type.name).isSome then _ else _) = _
      split <;> rfl
  | operation | fragment | typeExtension | directive => rfl

private theorem foldl_addDefinition_addSchema {items : List Definition}
    (others : ∀ definition ∈ items, isSchemaPart definition = false) (definitions : Definitions)
    (schema : SchemaDefinition) :
    items.foldl Definitions.addDefinition (definitions.addSchema schema) =
      (items.foldl Definitions.addDefinition definitions).addSchema schema := by
  induction items generalizing definitions with
  | nil => rfl
  | cons head tail induction =>
      rw [List.forall_mem_cons] at others
      rw [List.foldl_cons, addDefinition_addSchema others.1, induction others.2]
      rfl

private theorem filter_isSchemaPart (items : List Definition) :
    ∀ definition ∈ items.filter (!isSchemaPart ·), isSchemaPart definition = false := by
  intro definition member
  simpa using (List.mem_filter.mp member).2

private theorem foldl_addDefinition_eq (definitions : Definitions) (items : List Definition) :
    items.foldl Definitions.addDefinition definitions =
      (schemaParts items).foldl Definitions.addSchema
        ((items.filter (!isSchemaPart ·)).foldl Definitions.addDefinition definitions) := by
  induction items generalizing definitions with
  | nil => rfl
  | cons head tail induction =>
      cases head with
      | schema schema | schemaExtension schema =>
          have moved :=
            foldl_addDefinition_addSchema (filter_isSchemaPart tail) definitions schema
          rw [List.foldl_cons, induction]
          exact congrArg (List.foldl Definitions.addSchema · (schemaParts tail)) moved
      | operation | fragment | type | typeExtension | directive => exact induction _

private theorem stated_addDefinition {definition : Definition}
    (other : isSchemaPart definition = false) (definitions : Definitions) :
    (definitions.addDefinition definition).schemaDirectives = definitions.schemaDirectives ∧
      (definitions.addDefinition definition).operationTypes = definitions.operationTypes := by
  cases definition with
  | schema | schemaExtension => cases other
  | type type =>
      rw [Definitions.addDefinition]
      split <;> exact ⟨rfl, rfl⟩
  | operation | fragment | typeExtension | directive => exact ⟨rfl, rfl⟩

private theorem stated_foldl_addDefinition {items : List Definition}
    (others : ∀ definition ∈ items, isSchemaPart definition = false) (definitions : Definitions) :
    (items.foldl Definitions.addDefinition definitions).schemaDirectives =
        definitions.schemaDirectives ∧
      (items.foldl Definitions.addDefinition definitions).operationTypes =
        definitions.operationTypes := by
  induction items generalizing definitions with
  | nil => exact ⟨rfl, rfl⟩
  | cons head tail induction =>
      rw [List.forall_mem_cons] at others
      obtain ⟨directives, operations⟩ := stated_addDefinition others.1 definitions
      rw [List.foldl_cons, (induction others.2 _).1, (induction others.2 _).2]
      exact ⟨directives, operations⟩

private theorem stated_addExtension (definitions : Definitions) (extension : TypeExtension) :
    (definitions.addExtension extension).schemaDirectives = definitions.schemaDirectives ∧
      (definitions.addExtension extension).operationTypes = definitions.operationTypes := by
  unfold Definitions.addExtension
  split
  · exact ⟨rfl, rfl⟩
  · split <;> exact ⟨rfl, rfl⟩

theorem stated_foldl_addExtension (extensions : List TypeExtension)
    (definitions : Definitions) :
    (extensions.foldl Definitions.addExtension definitions).schemaDirectives =
        definitions.schemaDirectives ∧
      (extensions.foldl Definitions.addExtension definitions).operationTypes =
        definitions.operationTypes := by
  induction extensions generalizing definitions with
  | nil => exact ⟨rfl, rfl⟩
  | cons head tail induction =>
      obtain ⟨directives, operations⟩ := stated_addExtension definitions head
      rw [List.foldl_cons, (induction _).1, (induction _).2]
      exact ⟨directives, operations⟩

private theorem foldl_addSchema_eq (definitions : Definitions) (schemas : List SchemaDefinition) :
    schemas.foldl Definitions.addSchema definitions =
      { definitions with
        schemaDirectives := (schemas.foldl Definitions.addSchema definitions).schemaDirectives
        operationTypes := (schemas.foldl Definitions.addSchema definitions).operationTypes } := by
  induction schemas generalizing definitions with
  | nil => rfl
  | cons head tail induction => exact induction (definitions.addSchema head)

private theorem nodup_setOperationType {items : List (OperationType × Name)}
    (distinct : (items.map (·.1)).Nodup) (operation : OperationType) (type : Name) :
    ((setOperationType operation type items).map (·.1)).Nodup ∧
      ∀ other ∈ (setOperationType operation type items).map (·.1),
        other = operation ∨ other ∈ items.map (·.1) := by
  induction items with
  | nil =>
      exact ⟨List.nodup_singleton _, fun other member => .inl (List.mem_singleton.mp member)⟩
  | cons head tail induction =>
      obtain ⟨headFresh, tailDistinct⟩ := List.nodup_cons.mp distinct
      rw [setOperationType]
      split
      · next same =>
          rw [List.map_cons, ← same]
          exact ⟨distinct, fun other member => .inr member⟩
      · next different =>
          obtain ⟨setDistinct, among⟩ := induction tailDistinct
          rw [List.map_cons, List.nodup_cons]
          refine ⟨⟨fun member => ?_, setDistinct⟩, fun other member => ?_⟩
          · rcases among head.1 member with same | there
            · exact different same
            · exact headFresh there
          · rcases List.mem_cons.mp member with rfl | there
            · exact .inr List.mem_cons_self
            · exact (among other there).imp id (List.mem_cons_of_mem _)

theorem nodup_foldl_setOperationType {stated : List (OperationType × Name)}
    (distinct : (stated.map (·.1)).Nodup) (items : List (OperationType × Name)) :
    ((items.foldl (fun set (operation, type) => setOperationType operation type set)
      stated).map (·.1)).Nodup := by
  induction items generalizing stated with
  | nil => exact distinct
  | cons head tail induction => exact induction (nodup_setOperationType distinct ..).1

private theorem nodup_foldl_addSchema {definitions : Definitions}
    (distinct : (definitions.operationTypes.map (·.1)).Nodup) (schemas : List SchemaDefinition) :
    ((schemas.foldl Definitions.addSchema definitions).operationTypes.map (·.1)).Nodup := by
  induction schemas generalizing definitions with
  | nil => exact distinct
  | cons head tail induction => exact induction (nodup_foldl_setOperationType distinct _)

section

variable (document : Document)

private theorem stated_fold :
    (fold document).schemaDirectives =
        (document.definitions.foldl Definitions.addDefinition
          Definitions.empty).schemaDirectives ∧
      (fold document).operationTypes =
        (document.definitions.foldl Definitions.addDefinition
          Definitions.empty).operationTypes :=
  stated_foldl_addExtension _ _

theorem nodup_operationTypes_fold : ((fold document).operationTypes.map (·.1)).Nodup := by
  have others := stated_foldl_addDefinition (filter_isSchemaPart document.definitions)
    Definitions.empty
  rw [(stated_fold document).2, foldl_addDefinition_eq]
  apply nodup_foldl_addSchema
  rw [others.2]
  exact List.nodup_nil

private theorem schemaParts_filter (items : List Definition) :
    schemaParts (items.filter (!isSchemaPart ·)) = [] := by
  rw [schemaParts, List.filterMap_eq_nil_iff]
  intro definition member
  have other := filter_isSchemaPart items definition member
  cases definition with
  | schema | schemaExtension => cases other
  | operation | fragment | type | typeExtension | directive => rfl

private theorem typeExtensions_filter (items : List Definition) :
    typeExtensions { definitions := items.filter (!isSchemaPart ·) } =
      typeExtensions { definitions := items } := by
  rw [typeExtensions, List.filterMap_filter, typeExtensions]
  apply List.filterMap_congr
  intro definition _
  cases definition <;> rfl

private theorem grouped_withSchemaMerged :
    (withSchemaMerged document).definitions.foldl Definitions.addDefinition Definitions.empty =
      document.definitions.foldl Definitions.addDefinition Definitions.empty := by
  have others := filter_isSchemaPart document.definitions
  obtain ⟨unused, unstated⟩ := stated_foldl_addDefinition others Definitions.empty
  obtain ⟨directives, operations⟩ := stated_fold document
  have distinct := nodup_operationTypes_fold document
  rw [withSchemaMerged]
  cases anyPart : document.definitions.any isSchemaPart with
  | false =>
      have same : document.definitions.filter (!isSchemaPart ·) = document.definitions := by
        rw [List.filter_eq_self]
        intro definition member
        simpa using List.any_eq_false.mp anyPart definition member
      simp only [same]
      rfl
  | true =>
      change (document.definitions.filter (!isSchemaPart ·)).foldl Definitions.addDefinition
        (Definitions.empty.addSchema (mergedSchema document)) = _
      rw [foldl_addDefinition_addSchema others, foldl_addDefinition_eq _ document.definitions,
        foldl_addSchema_eq, ← foldl_addDefinition_eq, ← directives, ← operations,
        Definitions.addSchema, unused, unstated]
      congr 1
      exact foldl_setOperationType distinct

/-- Merging the schema definitions of a document does not show in what it is folded into. -/
theorem fold_withSchemaMerged : fold (withSchemaMerged document) = fold document := by
  have extensions : typeExtensions (withSchemaMerged document) = typeExtensions document := by
    have schema : typeExtensions { definitions := if document.definitions.any isSchemaPart then
        [.schema (mergedSchema document)] else [] } = [] := by
      split <;> rfl
    rw [typeExtensions, withSchemaMerged, List.filterMap_append]
    exact (congrArg₂ (· ++ ·) schema (typeExtensions_filter document.definitions)).trans
      (List.nil_append _)
  rw [fold, fold, extensions, grouped_withSchemaMerged]

theorem nodup_statedOperations_withSchemaMerged :
    (statedOperations (withSchemaMerged document)).Nodup := by
  have parts : schemaParts (withSchemaMerged document).definitions =
      if document.definitions.any isSchemaPart then [mergedSchema document] else [] := by
    have others := schemaParts_filter document.definitions
    unfold schemaParts at others ⊢
    rw [withSchemaMerged, List.filterMap_append, others, List.append_nil]
    split <;> rfl
  rw [statedOperations, parts]
  split
  · rw [List.flatMap_singleton]
    exact nodup_operationTypes_fold document
  · exact List.nodup_nil

theorem countP_isSchemaDefinition_withSchemaMerged :
    (withSchemaMerged document).definitions.countP isSchemaDefinition ≤ 1 := by
  have others : (document.definitions.filter (!isSchemaPart ·)).countP isSchemaDefinition = 0 := by
    rw [List.countP_eq_zero]
    intro definition member
    have other := filter_isSchemaPart document.definitions definition member
    cases definition with
    | schema | schemaExtension => cases other
    | operation | fragment | type | typeExtension | directive => exact Bool.false_ne_true
  rw [withSchemaMerged, List.countP_append, others]
  split
  · exact Nat.le_refl 1
  · exact Nat.zero_le 1

end

def HasKind (types : List TypeDefinition) (name : Name) (kind : TypeKind) : Prop :=
  ∃ type ∈ types, type.name = name ∧ type.kind = kind

theorem HasKind.unique {types : List TypeDefinition} (distinct : DistinctNames types)
    {name : Name} {kind other : TypeKind} (found : HasKind types name kind)
    (foundOther : HasKind types name other) : kind = other := by
  obtain ⟨type, member, named, rfl⟩ := found
  obtain ⟨second, secondMember, secondNamed, rfl⟩ := foundOther
  rw [distinct.eq_of_name_eq member secondMember (named.trans secondNamed.symm)]

private theorem sound_of_addDefinition {definitions : Definitions} {definition : Definition}
    (sound : (definitions.addDefinition definition).problems = []) :
    definitions.problems = [] := by
  have added {problem : FoldingProblem} (none : (definitions.addProblem problem).problems = []) :
      definitions.problems = [] := (List.append_eq_nil_iff.mp none).1
  cases definition with
  | type type =>
      rw [Definitions.addDefinition] at sound
      split at sound
      · exact added sound
      · exact sound
  | operation | fragment => exact added sound
  | schema | schemaExtension | typeExtension | directive => exact sound

/-- Grouping definitions without problems leaves nothing out, and no type stands twice. -/
private theorem grouped_of_sound {definitions : Definitions} {items : List Definition}
    (distinct : DistinctNames definitions.types)
    (sound : (items.foldl Definitions.addDefinition definitions).problems = []) :
    definitions.problems = [] ∧
      (items.foldl Definitions.addDefinition definitions).types =
        definitions.types ++ typeDefinitions { definitions := items } := by
  induction items generalizing definitions with
  | nil => exact ⟨sound, (List.append_nil _).symm⟩
  | cons head tail induction =>
      obtain ⟨headSound, types⟩ :=
        induction (Definitions.distinctNames_addDefinition distinct head) sound
      refine ⟨sound_of_addDefinition headSound, types.trans ?_⟩
      cases head with
      | type type =>
          rw [Definitions.addDefinition] at headSound ⊢
          split at headSound
          · cases (List.append_eq_nil_iff.mp headSound).2
          · next fresh =>
              rw [if_neg fresh, List.append_assoc]
              rfl
      | operation | fragment | schema | schemaExtension | typeExtension | directive => rfl

private theorem addExtension_of_sound {definitions : Definitions} {extension : TypeExtension}
    (distinct : DistinctNames definitions.types)
    (sound : (definitions.addExtension extension).problems = []) :
    definitions.problems = [] ∧
      HasKind (definitions.addExtension extension).types extension.name extension.body.kind ∧
      ∀ name kind, HasKind definitions.types name kind →
        HasKind (definitions.addExtension extension).types name kind := by
  unfold Definitions.addExtension at sound ⊢
  cases found : findType? definitions.types extension.name with
  | none =>
      simp only [found] at sound ⊢
      refine ⟨sound, ⟨_, List.mem_append_right _ List.mem_cons_self, rfl, rfl⟩, ?_⟩
      rintro name kind ⟨type, member, described⟩
      exact ⟨type, List.mem_append_left _ member, described⟩
  | some type =>
      obtain ⟨member, named⟩ := mem_of_findType? found
      cases joined : extendType? type extension with
      | none =>
          simp only [found, joined] at sound
          cases (List.append_eq_nil_iff.mp sound).2
      | some extended =>
          simp only [found, joined] at sound ⊢
          obtain ⟨body, joinedBody, rfl⟩ := Option.map_eq_some_iff.mp joined
          have kind : body.kind = type.kind := kind_of_extendBody? joinedBody
          have sameKind : type.kind = extension.body.kind := sameKind_of_extendBody? joinedBody
          refine ⟨sound, ⟨_, (mem_setType distinct).mpr (.inl rfl), named, kind.trans sameKind⟩, ?_⟩
          rintro name kind ⟨other, otherMember, rfl, rfl⟩
          by_cases same : other.name = type.name
          · rw [distinct.eq_of_name_eq otherMember member same]
            exact ⟨_, (mem_setType distinct).mpr (.inl rfl), rfl, kind⟩
          · exact ⟨other, (mem_setType distinct).mpr (.inr ⟨otherMember, same⟩), rfl, rfl⟩

/-- Extensions that are folded without problems each find a type, and no type is lost. -/
theorem foldl_addExtension_of_sound {definitions : Definitions}
    {extensions : List TypeExtension} (distinct : DistinctNames definitions.types)
    (sound : (extensions.foldl Definitions.addExtension definitions).problems = []) :
    definitions.problems = [] ∧
      (∀ extension ∈ extensions,
        HasKind (extensions.foldl Definitions.addExtension definitions).types extension.name
          extension.body.kind) ∧
      ∀ name kind, HasKind definitions.types name kind →
        HasKind (extensions.foldl Definitions.addExtension definitions).types name kind := by
  induction extensions generalizing definitions with
  | nil => exact ⟨sound, nofun, fun _ _ found => found⟩
  | cons head tail induction =>
      obtain ⟨headSound, others, kept⟩ :=
        induction (Definitions.distinctNames_addExtension distinct head) sound
      obtain ⟨before, found, keptByHead⟩ := addExtension_of_sound distinct headSound
      exact ⟨before, List.forall_mem_cons.mpr ⟨kept _ _ found, others⟩,
        fun name kind here => kept _ _ (keptByHead name kind here)⟩

section

variable {document : Document} (sound : (fold document).problems = [])

include sound

private theorem grouped_of_fold :
    DistinctNames (typeDefinitions document) ∧
      ∀ type ∈ typeDefinitions document, HasKind (fold document).types type.name type.kind := by
  have distinct := distinctNames_grouped document.definitions
  obtain ⟨grouped, -, kept⟩ := foldl_addExtension_of_sound distinct sound
  have types : (document.definitions.foldl Definitions.addDefinition Definitions.empty).types =
      typeDefinitions document := (grouped_of_sound DistinctNames.nil grouped).2
  rw [types] at distinct kept
  exact ⟨distinct, fun type member => kept _ _ ⟨type, member, rfl, rfl⟩⟩

theorem distinctNames_of_sound : DistinctNames (typeDefinitions document) :=
  (grouped_of_fold sound).1

theorem hasKind_of_sound :
    ∀ part ∈ document.definitions.filterMap TypePart.ofDefinition?,
      HasKind (fold document).types part.name part.body.kind := by
  intro part member
  obtain ⟨definition, definitionMember, isPart⟩ := List.mem_filterMap.mp member
  cases definition with
  | type type =>
      cases isPart
      exact (grouped_of_fold sound).2 type (mem_typeDefinitions.mpr definitionMember)
  | typeExtension extension =>
      cases isPart
      have distinct := distinctNames_grouped document.definitions
      obtain ⟨-, extensions, -⟩ := foldl_addExtension_of_sound distinct sound
      exact extensions extension
        (List.mem_filterMap.mpr ⟨.typeExtension extension, definitionMember, rfl⟩)
  | operation | fragment | schema | schemaExtension | directive => cases isPart

end

end FederationSplit.Schema
