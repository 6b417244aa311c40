import FederationSplit.Proofs.Rules.Narrowing

namespace FederationSplit.Rules

open FederationSplit.Syntax
open FederationSplit.TypeSystem

section

variable {known : Known}

private theorem isSome_directive?_of_kept {location : DirectiveLocation}
    {usages : List DirectiveUsage} (kept : UsagesKept known location usages) :
    ∀ usage ∈ usages, (known.directive? usage.name).isSome := by
  intro usage used
  obtain ⟨definition, found, -⟩ := mayStand_of_checkUsage (kept.each usage used)
  exact Option.isSome_iff_exists.mpr ⟨definition, found⟩

private theorem isSome_directive?_of_inputs {location : DirectiveLocation}
    {inputs : List InputValueDefinition}
    (kept : ∀ input ∈ inputs, checkInputValue known location input = []) :
    ∀ usage ∈ inputs.flatMap (·.directives), (known.directive? usage.name).isSome :=
  List.forall_mem_flatMap.mpr fun input member =>
    isSome_directive?_of_kept (checkInputValue_eq_nil_iff.mp (kept input member)).1

private theorem isSome_directive?_of_fields {fields : List FieldDefinition}
    (kept : ∀ field ∈ fields, checkField known field = []) :
    ∀ usage ∈ fields.flatMap FieldDefinition.usages, (known.directive? usage.name).isSome := by
  refine List.forall_mem_flatMap.mpr fun field member => ?_
  obtain ⟨own, -, arguments⟩ := checkField_eq_nil_iff.mp (kept field member)
  exact List.forall_mem_append.mpr
    ⟨isSome_directive?_of_kept own, isSome_directive?_of_inputs arguments⟩

theorem isSome_directive?_of_type {type : TypeDefinition}
    (kept : checkDefinition known [] (.type type) = []) :
    ∀ usage ∈ type.usages, (known.directive? usage.name).isSome := by
  obtain ⟨-, own, parts⟩ := checkDefinition_type_eq_nil_iff.mp kept
  refine List.forall_mem_append.mpr ⟨isSome_directive?_of_kept own, ?_⟩
  unfold PartsKept at parts
  cases body : type.body with
  | scalar | union => exact List.forall_mem_nil _
  | object interfaces fields | interface interfaces fields =>
      simp only [body, checkTypeParts, List.append_eq_nil_iff, List.flatMap_eq_nil_iff] at parts
      exact isSome_directive?_of_fields parts.2
  | enum values =>
      simp only [body, checkTypeParts, List.append_eq_nil_iff, List.flatMap_eq_nil_iff] at parts
      exact List.forall_mem_flatMap.mpr fun value member =>
        isSome_directive?_of_kept (checkEnumValue_eq_nil_iff.mp (parts.2 value member))
  | inputObject fields =>
      simp only [body, checkTypeParts, List.append_eq_nil_iff, List.flatMap_eq_nil_iff] at parts
      exact isSome_directive?_of_inputs parts.2

theorem isSome_directive?_of_directive {directive : DirectiveDefinition}
    (kept : checkDefinition known [] (.directive directive) = []) :
    ∀ usage ∈ directive.usages, (known.directive? usage.name).isSome :=
  isSome_directive?_of_inputs (checkDefinition_directive_eq_nil_iff.mp kept).2

end

section

variable {keeps : DirectiveUsage → Bool} {known narrowed : Known}
  (narrows : Narrows keeps known narrowed)

include narrows

/-- A type keeps the rules still if all its usages count as before and its references are known. -/
theorem checkDefinition_type_unaffected {type : TypeDefinition}
    (kept : checkDefinition known [] (.type type) = [])
    (stays : ∀ usage ∈ type.usages, keeps usage = true)
    (isKnown : ∀ name ∈ Declarations.referencedNames type, name ∈ narrowed.allNames) :
    checkDefinition narrowed [] (.type type) = [] := by
  obtain ⟨distinct, own, parts⟩ := checkDefinition_type_eq_nil_iff.mp kept
  obtain ⟨ownStay, bodyStays⟩ := List.forall_mem_append.mp stays
  refine checkDefinition_type_eq_nil_iff.mpr ⟨distinct, ?_, ?_⟩
  · have filtered := own.filter narrows
    rwa [List.filter_eq_self.mpr ownStay] at filtered
  · have filtered := (partsKept_narrowed narrows parts).mpr isKnown
    rwa [TypeBody.mapUsages_filter_of_all bodyStays] at filtered

theorem checkDefinition_directive_unaffected {directive : DirectiveDefinition}
    (kept : checkDefinition known [] (.directive directive) = [])
    (stays : ∀ usage ∈ directive.usages, keeps usage = true)
    (isKnown : ∀ argument ∈ directive.arguments, argument.type.baseName ∈ narrowed.allNames) :
    checkDefinition narrowed [] (.directive directive) = [] := by
  obtain ⟨distinct, arguments⟩ := checkDefinition_directive_eq_nil_iff.mp kept
  refine checkDefinition_directive_eq_nil_iff.mpr ⟨distinct, fun argument member => ?_⟩
  have filtered := (checkInputValue_narrowed narrows (arguments argument member)).mpr
    (isKnown argument member)
  have unchanged : argument.mapUsages (·.filter keeps) = argument := by
    rw [InputValueDefinition.mapUsages,
      List.filter_eq_self.mpr (List.forall_mem_flatMap.mp stays argument member)]
  rwa [unchanged] at filtered

end

end FederationSplit.Rules
