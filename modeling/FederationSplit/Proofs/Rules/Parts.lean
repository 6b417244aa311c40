import FederationSplit.Proofs.Rules.Narrowing
import FederationSplit.Proofs.Schema.Merging
import FederationSplit.Proofs.Syntax.Reading
import Mathlib.Data.List.Induction

namespace FederationSplit.Rules

open FederationSplit.Syntax
open FederationSplit.Schema

private theorem checkDefinition_of_checkDefinitions {known : Known}
    {earlier front back : List Definition} {definition : Definition}
    (kept : checkDefinitions known earlier (front ++ definition :: back) = []) :
    checkDefinition known (earlier.reverse ++ front) definition = [] := by
  induction front generalizing earlier with
  | nil =>
      rw [List.append_nil]
      exact (List.append_eq_nil_iff.mp kept).1
  | cons head tail induction =>
      have rest := induction (List.append_eq_nil_iff.mp kept).2
      rwa [List.reverse_cons, List.append_assoc] at rest

/-- In a document without violations each definition keeps the rules behind those before it. -/
theorem checkDefinition_of_violations {document : Document} (kept : violations document = [])
    {front back : List Definition} {definition : Definition}
    (split : document.definitions = front ++ definition :: back) :
    checkDefinition (Known.ofDocument document) front definition = [] := by
  rw [violations, split] at kept
  exact checkDefinition_of_checkDefinitions kept

/-- Items that are collected from definitions are distinct if none repeats one before it. -/
private theorem nodup_collected {α β : Type} {definitions : List Definition}
    {select : Definition → Option β} {collect : β → List α}
    (fresh : ∀ front definition back, definitions = front ++ definition :: back →
      ∀ selected, select definition = some selected →
        (collect selected).Nodup ∧
          ∀ item ∈ collect selected, item ∉ (front.filterMap select).flatMap collect) :
    ((definitions.filterMap select).flatMap collect).Nodup := by
  induction definitions using List.reverseRecOn with
  | nil => exact List.nodup_nil
  | append_singleton front last induction =>
      have before : ((front.filterMap select).flatMap collect).Nodup := by
        apply induction
        intro first definition back split
        apply fresh first definition (back ++ [last])
        rw [split, List.append_assoc]
        rfl
      rw [List.filterMap_append, List.flatMap_append, List.nodup_append]
      cases selects : select last with
      | none =>
          simp only [List.filterMap_cons, selects, List.filterMap_nil, List.flatMap_nil]
          exact ⟨before, List.nodup_nil, nofun⟩
      | some selected =>
          obtain ⟨distinct, new⟩ := fresh front last [] rfl selected selects
          simp only [List.filterMap_cons, selects, List.filterMap_nil, List.flatMap_singleton]
          refine ⟨before, distinct, ?_⟩
          intro item earlier other later same
          exact new other later (same ▸ earlier)

section

variable {document : Document} (kept : violations document = [])

include kept

theorem distinctNames_of_violations : DistinctNames (typeDefinitions document) := by
  rw [DistinctNames, List.map_eq_flatMap]
  apply nodup_collected
  intro front definition back split type selects
  cases definition with
  | type other =>
      cases selects
      have step := checkDefinition_of_violations kept split
      simp only [checkDefinition, List.append_eq_nil_iff, ite_eq_right_iff, List.contains_iff_mem,
        reduceCtorEq, imp_false, typeNames] at step
      refine ⟨List.nodup_singleton _, fun name named => ?_⟩
      rw [List.mem_singleton.mp named, ← List.map_eq_flatMap]
      exact step.1.1
  | operation | fragment | schema | schemaExtension | typeExtension | directive =>
      cases selects

theorem nodup_directives_of_violations :
    ((directiveDefinitions document).map (·.name)).Nodup := by
  rw [List.map_eq_flatMap]
  apply nodup_collected
  intro front definition back split directive selects
  cases definition with
  | directive other =>
      cases selects
      have step := checkDefinition_of_violations kept split
      simp only [checkDefinition, List.append_eq_nil_iff, ite_eq_right_iff, reduceCtorEq,
        imp_false] at step
      refine ⟨List.nodup_singleton _, fun name named => ?_⟩
      rw [List.mem_singleton.mp named, ← List.map_eq_flatMap]
      intro member
      obtain ⟨other, otherMember, sameName⟩ := List.mem_map.mp member
      apply step.1.2
      rw [List.any_eq_true]
      exact ⟨other, otherMember, beq_iff_eq.mpr sameName⟩
  | operation | fragment | schema | schemaExtension | typeExtension | type =>
      cases selects

theorem countP_isSchemaDefinition_of_violations :
    document.definitions.countP isSchemaDefinition ≤ 1 := by
  have single {front back : List Definition} (split : document.definitions = front ++ back) :
      front.countP isSchemaDefinition ≤ 1 := by
    induction front using List.reverseRecOn generalizing back with
    | nil => exact Nat.zero_le 1
    | append_singleton front last induction =>
        rw [List.append_assoc] at split
        have before := induction split
        rw [List.countP_append, List.countP_singleton]
        cases last with
        | schema schema =>
            have step := checkDefinition_of_violations kept split
            simp only [checkDefinition, List.append_eq_nil_iff, ite_eq_right_iff, reduceCtorEq,
              imp_false, Bool.not_eq_true] at step
            rw [List.countP_eq_zero.mpr (List.any_eq_false.mp step.1)]
            exact Nat.le_refl 1
        | operation | fragment | schemaExtension | type | typeExtension | directive =>
            exact before
  exact single (List.append_nil _).symm

theorem nodup_statedOperations_of_violations : (statedOperations document).Nodup := by
  rw [statedOperations, schemaParts]
  apply nodup_collected
  intro front definition back split schema selects
  have step := checkDefinition_of_violations kept split
  cases definition with
  | schema other | schemaExtension other =>
      cases selects
      simp only [checkDefinition, checkSchemaPart, List.append_eq_nil_iff, List.map_eq_nil_iff,
        repeatsAfter_eq_nil_iff] at step
      tauto
  | operation | fragment | type | typeExtension | directive => cases selects

theorem checkDirective_of_violations {directive : DirectiveDefinition}
    (member : directive ∈ directiveDefinitions document) :
    checkDefinition (Known.ofDocument document) [] (.directive directive) = [] := by
  obtain ⟨front, back, split⟩ :=
    List.append_of_mem (mem_directiveDefinitions.mp member)
  have step := checkDefinition_of_violations kept split
  rw [checkDefinition, List.append_eq_nil_iff, List.append_eq_nil_iff] at step
  rw [checkDefinition, List.append_eq_nil_iff, List.append_eq_nil_iff]
  exact ⟨⟨step.1.1, rfl⟩, step.2⟩

theorem known_of_operationTypes {definition : Definition}
    (member : definition ∈ document.definitions) :
    ∀ item ∈ definition.operationTypes, item.2 ∈ (Known.ofDocument document).allNames := by
  obtain ⟨front, back, split⟩ := List.append_of_mem member
  have step := checkDefinition_of_violations kept split
  intro item stated
  cases definition with
  | schema schema =>
      simp only [checkDefinition, checkSchemaPart, List.append_eq_nil_iff, List.flatMap_eq_nil_iff,
        checkTypeName_eq_nil_iff] at step
      exact step.2.2 item stated
  | schemaExtension schema =>
      simp only [checkDefinition, checkSchemaPart, List.append_eq_nil_iff, List.flatMap_eq_nil_iff,
        checkTypeName_eq_nil_iff] at step
      exact step.2 item stated
  | operation | fragment | type | typeExtension | directive => cases stated

theorem extends_of_violations :
    ∀ extension ∈ typeExtensions document, Extends (typeDefinitions document) extension := by
  intro extension member
  obtain ⟨definition, definitionMember, selects⟩ := List.mem_filterMap.mp member
  obtain ⟨front, back, split⟩ := List.append_of_mem definitionMember
  have step := checkDefinition_of_violations kept split
  cases definition with
  | typeExtension other =>
      cases selects
      rw [checkDefinition, List.append_eq_nil_iff, List.append_eq_nil_iff] at step
      have based := step.1.2
      unfold checkExtended at based
      split at based
      · cases based
      · next type found =>
          split at based
          · next sameKind =>
              have named := List.find?_some found
              exact ⟨type, List.mem_reverse.mp (List.mem_of_find?_eq_some found),
                beq_iff_eq.mp named, sameKind⟩
          · cases based
  | operation | fragment | schema | schemaExtension | type | directive => cases selects

end

private theorem partsOf_eq_filterMap (name : Name) (definitions : List Definition) :
    partsOf name definitions =
      definitions.filterMap fun definition =>
        (TypePart.ofDefinition? definition).filter (·.name == name) := by
  rw [partsOf, List.filter_filterMap]

private theorem singularUsages_flatMap (known : Known) (parts : List TypePart) :
    singularUsages known (parts.flatMap (·.directives)) =
      parts.flatMap (singularUsages known ·.directives) := by
  induction parts with
  | nil => rfl
  | cons head tail induction =>
      rw [List.flatMap_cons, List.flatMap_cons, ← induction]
      simp only [singularUsages, List.map_append, List.filter_append]

/-- The parts of one type repeat no value, field or singular usage. -/
structure PartsDistinct (known : Known) (parts : List TypePart) : Prop where
  values : (parts.flatMap (enumValueNames ·.body)).Nodup
  fields : (parts.flatMap (fieldNames ·.body)).Nodup
  singular : (singularUsages known (parts.flatMap (·.directives))).Nodup

section

variable {document : Document} (kept : violations document = [])

include kept

private theorem checkMembers_of_violations {front back : List Definition} {definition : Definition}
    (split : document.definitions = front ++ definition :: back) {part : TypePart}
    (isPart : TypePart.ofDefinition? definition = some part) :
    checkMembers (Known.ofDocument document) front part = [] := by
  have step := checkDefinition_of_violations kept split
  cases definition with
  | type type =>
      cases isPart
      rw [checkDefinition, List.append_eq_nil_iff, List.append_eq_nil_iff] at step
      exact step.1.2
  | typeExtension extension =>
      cases isPart
      rw [checkDefinition, List.append_eq_nil_iff, List.append_eq_nil_iff] at step
      exact step.1.1
  | operation | fragment | schema | schemaExtension | directive => cases isPart

private theorem nodup_flatMap_partsOf {α : Type} {collect : TypePart → List α} (name : Name)
    (fresh : ∀ front part, checkMembers (Known.ofDocument document) front part = [] →
      (collect part).Nodup ∧
        ∀ item ∈ collect part, item ∉ (partsOf part.name front).flatMap collect) :
    ((partsOf name document.definitions).flatMap collect).Nodup := by
  rw [partsOf_eq_filterMap]
  apply nodup_collected
  intro front definition back split part selects
  obtain ⟨isPart, named⟩ := Option.filter_eq_some_iff.mp selects
  obtain rfl := beq_iff_eq.mp named
  rw [← partsOf_eq_filterMap]
  exact fresh front part (checkMembers_of_violations kept split isPart)

theorem partsDistinct_of_violations (name : Name) :
    PartsDistinct (Known.ofDocument document) (partsOf name document.definitions) := by
  constructor
  case values =>
    apply nodup_flatMap_partsOf kept
    intro front part members
    simp only [checkMembers, List.append_eq_nil_iff, List.map_eq_nil_iff,
      repeatsAfter_eq_nil_iff] at members
    exact members.1.1.1
  case fields =>
    apply nodup_flatMap_partsOf kept
    intro front part members
    simp only [checkMembers, List.append_eq_nil_iff, List.map_eq_nil_iff,
      repeatsAfter_eq_nil_iff] at members
    exact members.1.1.2
  case singular =>
    rw [singularUsages_flatMap]
    apply nodup_flatMap_partsOf kept
    intro front part members
    simp only [checkMembers, checkRepeatedUsages, List.append_eq_nil_iff, List.map_eq_nil_iff,
      repeatsAfter_eq_nil_iff, singularUsages_flatMap] at members
    exact members.2

theorem nodup_arguments_of_violations {definition : Definition}
    (member : definition ∈ document.definitions) {part : TypePart}
    (isPart : TypePart.ofDefinition? definition = some part) :
    ∀ field ∈ part.body.fields, (field.arguments.map (·.name)).Nodup := by
  obtain ⟨front, back, split⟩ := List.append_of_mem member
  have members := checkMembers_of_violations kept split isPart
  simp only [checkMembers, checkArgumentDefinitions, List.append_eq_nil_iff, List.map_eq_nil_iff,
    List.flatMap_eq_nil_iff, duplicates_eq_nil_iff] at members
  exact members.1.2

end

end FederationSplit.Rules
