import FederationSplit.Proofs.Rules.Plain
import FederationSplit.Proofs.Schema.Usages
import FederationSplit.TypeSystem.Basic

namespace FederationSplit.Rules

open FederationSplit.Syntax
open FederationSplit.TypeSystem

/-! ### What is checked at one place -/

/-- Usages at one place that keep the rules. -/
structure UsagesKept (known : Known) (location : DirectiveLocation)
    (usages : List DirectiveUsage) : Prop where
  singular : (singularUsages known usages).Nodup
  each : ∀ usage ∈ usages, checkUsage known location usage = []

theorem usagesKept_iff {known : Known} {location : DirectiveLocation}
    {usages : List DirectiveUsage} :
    UsagesKept known location usages ↔
      checkRepeatedUsages known [] usages = [] ∧ checkUsages known location usages = [] := by
  rw [checkRepeatedUsages, List.map_eq_nil_iff, repeatsAfter_eq_nil_iff, checkUsages,
    List.flatMap_eq_nil_iff]
  constructor
  · rintro ⟨singular, each⟩
    exact ⟨⟨singular, fun _ _ => List.not_mem_nil⟩, each⟩
  · rintro ⟨⟨singular, _⟩, each⟩
    exact ⟨singular, each⟩

theorem UsagesKept.nil (known : Known) (location : DirectiveLocation) :
    UsagesKept known location [] where
  singular := List.nodup_nil
  each := nofun

theorem usagesKept_singleton_iff {known : Known} {location : DirectiveLocation}
    {usage : DirectiveUsage} :
    UsagesKept known location [usage] ↔ checkUsage known location usage = [] := by
  constructor
  · exact fun kept => kept.each usage List.mem_cons_self
  · intro kept
    constructor
    case singular => exact (List.nodup_singleton _).filter _
    case each =>
      intro other member
      rwa [List.mem_singleton.mp member]

theorem UsagesKept.append {known : Known} {location : DirectiveLocation}
    {usages more : List DirectiveUsage} (kept : UsagesKept known location usages)
    (each : ∀ usage ∈ more, checkUsage known location usage = [])
    (repeatable : ∀ usage ∈ more,
      (known.directive? usage.name).any (!·.isRepeatable) = false) :
    UsagesKept known location (usages ++ more) := by
  have noneSingular : singularUsages known more = [] := by
    rw [singularUsages, List.filter_eq_nil_iff]
    intro name member
    obtain ⟨usage, usageMember, rfl⟩ := List.mem_map.mp member
    rw [repeatable usage usageMember]
    exact Bool.false_ne_true
  constructor
  case singular =>
    have same : singularUsages known (usages ++ more) = singularUsages known usages := by
      have appended : singularUsages known (usages ++ more) =
          singularUsages known usages ++ singularUsages known more := by
        simp only [singularUsages, List.map_append, List.filter_append]
      rw [appended, noneSingular, List.append_nil]
    rw [same]
    exact kept.singular
  case each =>
    intro usage member
    rcases List.mem_append.mp member with old | new
    · exact kept.each usage old
    · exact each usage new

theorem checkValue_of_checkUsage {known : Known} {location : DirectiveLocation}
    {usage : DirectiveUsage} (kept : checkUsage known location usage = []) :
    ∀ argument ∈ usage.arguments, checkValue argument.value = [] := by
  simp only [checkUsage, List.append_eq_nil_iff, List.flatMap_eq_nil_iff] at kept
  exact kept.1.2

/-- The directive of a usage is known and allows it at a place. -/
def MayStand (known : Known) (location : DirectiveLocation) (usage : DirectiveUsage) : Prop :=
  ∃ definition, known.directive? usage.name = some definition ∧ location ∈ definition.locations

theorem checkPlace_eq_nil_iff {known : Known} {location : DirectiveLocation}
    {usage : DirectiveUsage} :
    checkPlace known location usage = [] ↔ MayStand known location usage := by
  unfold checkPlace MayStand
  cases known.directive? usage.name with
  | none => simp
  | some definition => simp

theorem mayStand_of_checkUsage {known : Known} {location : DirectiveLocation}
    {usage : DirectiveUsage} (kept : checkUsage known location usage = []) :
    MayStand known location usage := by
  simp only [checkUsage, List.append_eq_nil_iff] at kept
  exact checkPlace_eq_nil_iff.mp kept.1.1.1.1

/--
A usage keeps the rules where its directive may stand, if its arguments are parameters of the
directive, each given once and with a value that keeps the rules, and none is missing.
-/
theorem checkUsage_of_declared {known : Known} {location : DirectiveLocation}
    {usage : DirectiveUsage} {definition : DirectiveDefinition}
    (declared : known.directive? usage.name = some definition)
    (placed : location ∈ definition.locations)
    (named : ∀ argument ∈ usage.arguments, argument.name ∈ definition.arguments.map (·.name))
    (distinct : (usage.arguments.map (·.name)).Nodup)
    (values : ∀ argument ∈ usage.arguments, checkValue argument.value = [])
    (required : ∀ parameter ∈ requiredParameters definition,
      parameter.name ∈ usage.arguments.map (·.name)) :
    checkUsage known location usage = [] := by
  have place : checkPlace known location usage = [] :=
    checkPlace_eq_nil_iff.mpr ⟨definition, declared, placed⟩
  have names : checkArgumentNames known usage = [] := by
    rw [checkArgumentNames, declared, List.map_eq_nil_iff, List.filter_eq_nil_iff]
    intro argument member
    simpa using named argument member
  have once : checkDistinctArguments usage.arguments = [] := by
    rw [checkDistinctArguments, duplicates_eq_nil_iff.mpr distinct]
    rfl
  have complete : checkRequiredArguments known usage = [] := by
    rw [checkRequiredArguments, declared, List.map_eq_nil_iff, List.filter_eq_nil_iff]
    intro parameter member
    have given : (usage.argument? parameter.name).isSome := by
      rw [DirectiveUsage.argument?, List.find?_isSome]
      obtain ⟨argument, argumentMember, sameName⟩ := List.mem_map.mp (required parameter member)
      exact ⟨argument, argumentMember, beq_iff_eq.mpr sameName⟩
    simpa [Option.isSome_iff_ne_none] using given
  rw [checkUsage, place, names, once, List.flatMap_eq_nil_iff.mpr values, complete]
  rfl

theorem mem_of_directive? {known : Known} {name : Name} {definition : DirectiveDefinition}
    (found : known.directive? name = some definition) :
    definition ∈ known.directives ∧ definition.name = name := by
  have named := List.find?_some found
  exact ⟨List.mem_of_find?_eq_some found, beq_iff_eq.mp named⟩

theorem declares_of_checkUsage {known : Known} {location : DirectiveLocation}
    {usage : DirectiveUsage} (kept : checkUsage known location usage = []) :
    ∃ definition ∈ known.directives,
      definition.name = usage.name ∧ location ∈ definition.locations := by
  obtain ⟨definition, found, placed⟩ := mayStand_of_checkUsage kept
  obtain ⟨member, named⟩ := mem_of_directive? found
  exact ⟨definition, member, named, placed⟩

/-- A usage that keeps the rules at one place keeps them wherever it may stand. -/
theorem checkUsage_elsewhere_iff {known : Known} {location other : DirectiveLocation}
    {usage : DirectiveUsage} (kept : checkUsage known location usage = []) :
    checkUsage known other usage = [] ↔ MayStand known other usage := by
  simp only [checkUsage, List.append_eq_nil_iff] at kept ⊢
  rw [checkPlace_eq_nil_iff]
  tauto

theorem checkTypeName_eq_nil_iff {known : Known} {name : Name} :
    checkTypeName known name = [] ↔ name ∈ known.allNames := by
  unfold checkTypeName
  split
  · next found => simpa using found
  · next missing => simpa using missing

theorem checkInputValue_eq_nil_iff {known : Known} {location : DirectiveLocation}
    {definition : InputValueDefinition} :
    checkInputValue known location definition = [] ↔
      UsagesKept known location definition.directives ∧
        definition.type.baseName ∈ known.allNames ∧
        ∀ value ∈ definition.defaultValue, checkValue value = [] := by
  rw [checkInputValue, List.append_eq_nil_iff, List.append_eq_nil_iff, List.append_eq_nil_iff,
    checkTypeName_eq_nil_iff, List.flatMap_eq_nil_iff, usagesKept_iff]
  simp only [Option.mem_toList]
  tauto

theorem checkField_eq_nil_iff {known : Known} {definition : FieldDefinition} :
    checkField known definition = [] ↔
      UsagesKept known .fieldDefinition definition.directives ∧
        definition.type.baseName ∈ known.allNames ∧
        ∀ argument ∈ definition.arguments,
          checkInputValue known .argumentDefinition argument = [] := by
  rw [checkField, List.append_eq_nil_iff, List.append_eq_nil_iff, List.append_eq_nil_iff,
    checkTypeName_eq_nil_iff, List.flatMap_eq_nil_iff, usagesKept_iff]
  tauto

theorem checkEnumValue_eq_nil_iff {known : Known} {definition : EnumValueDefinition} :
    checkEnumValue known definition = [] ↔
      UsagesKept known .enumValue definition.directives := by
  rw [checkEnumValue, List.append_eq_nil_iff, usagesKept_iff]

structure MembersDistinct (body : TypeBody) : Prop where
  values : (enumValueNames body).Nodup
  fields : (fieldNames body).Nodup
  arguments : ∀ field ∈ body.fields, (field.arguments.map (·.name)).Nodup

/-- The parts of a type keep the rules, its own usages apart. -/
def PartsKept (known : Known) (body : TypeBody) : Prop :=
  checkTypeParts known .inputFieldDefinition [] body = []

theorem PartsKept.known {known : Known} {type : TypeDefinition}
    (kept : PartsKept known type.body) :
    ∀ name ∈ Declarations.referencedNames type, name ∈ known.allNames := by
  unfold PartsKept at kept
  unfold Declarations.referencedNames
  cases body : type.body with
  | scalar | enum => exact nofun
  | object interfaces fields | interface interfaces fields =>
      simp only [body, checkTypeParts, checkUsages, List.flatMap_nil, List.append_nil,
        List.append_eq_nil_iff, List.flatMap_eq_nil_iff, checkTypeName_eq_nil_iff,
        checkField_eq_nil_iff, checkInputValue_eq_nil_iff] at kept
      obtain ⟨interfacesKnown, fieldsKept⟩ := kept
      rw [List.forall_mem_append, List.forall_mem_flatMap]
      refine ⟨interfacesKnown, fun field member => ?_⟩
      rw [List.forall_mem_cons, List.forall_mem_map]
      obtain ⟨-, fieldKnown, argumentsKept⟩ := fieldsKept field member
      exact ⟨fieldKnown, fun argument argumentMember =>
        (argumentsKept argument argumentMember).2.1⟩
  | union members =>
      simpa only [body, checkTypeParts, checkUsages, List.flatMap_nil, List.nil_append,
        List.flatMap_eq_nil_iff, checkTypeName_eq_nil_iff] using kept
  | inputObject fields =>
      simp only [body, checkTypeParts, checkUsages, List.flatMap_nil, List.nil_append,
        List.flatMap_eq_nil_iff, checkInputValue_eq_nil_iff] at kept
      rw [List.forall_mem_map]
      exact fun field member => (kept field member).2.1

theorem checkDefinition_type_eq_nil_iff {known : Known} {type : TypeDefinition} :
    checkDefinition known [] (.type type) = [] ↔
      MembersDistinct type.body ∧ UsagesKept known type.kind.location type.directives ∧
        PartsKept known type.body := by
  have parts : checkTypeParts known .inputFieldDefinition type.directives type.body = [] ↔
      checkUsages known type.kind.location type.directives = [] ∧ PartsKept known type.body := by
    unfold checkTypeParts PartsKept TypeDefinition.kind
    cases type.body <;>
      simp [checkTypeParts, checkUsages, and_left_comm]
  have members : checkMembers known []
      { name := type.name, directives := type.directives, body := type.body } = [] ↔
      MembersDistinct type.body ∧ checkRepeatedUsages known [] type.directives = [] := by
    simp only [checkMembers, partsOf, List.filterMap_nil, List.filter_nil, List.flatMap_nil,
      List.append_eq_nil_iff, List.map_eq_nil_iff, repeatsAfter_eq_nil_iff, List.not_mem_nil,
      not_false_eq_true, implies_true, and_true, List.flatMap_eq_nil_iff, checkArgumentDefinitions,
      duplicates_eq_nil_iff]
    constructor
    · rintro ⟨⟨⟨values, fields⟩, arguments⟩, repeated⟩
      exact ⟨⟨values, fields, arguments⟩, repeated⟩
    · rintro ⟨⟨values, fields, arguments⟩, repeated⟩
      exact ⟨⟨⟨values, fields⟩, arguments⟩, repeated⟩
  rw [checkDefinition, List.append_eq_nil_iff, List.append_eq_nil_iff, members, parts,
    usagesKept_iff]
  simp only [typeNames, typeDefinitions, List.filterMap_nil, List.map_nil, List.contains_nil,
    Bool.false_eq_true, if_false, true_and]
  tauto

theorem checkDefinition_directive_eq_nil_iff {known : Known} {directive : DirectiveDefinition} :
    checkDefinition known [] (.directive directive) = [] ↔
      (directive.arguments.map (·.name)).Nodup ∧
        ∀ argument ∈ directive.arguments,
          checkInputValue known .argumentDefinition argument = [] := by
  rw [checkDefinition, List.append_eq_nil_iff, List.append_eq_nil_iff, checkArgumentDefinitions,
    List.map_eq_nil_iff, duplicates_eq_nil_iff, List.flatMap_eq_nil_iff]
  simp [directiveDefinitions]

theorem checkDefinition_of_bare {known : Known} {directive : DirectiveDefinition}
    {names : List Name} (distinct : (directive.arguments.map (·.name)).Nodup)
    (bare : ∀ argument ∈ directive.arguments, argument.directives.isEmpty = true ∧
      (argument.defaultValue.toList.flatMap checkValue).isEmpty = true ∧
      argument.type.baseName ∈ names)
    (isKnown : ∀ name ∈ names, name ∈ known.allNames) :
    checkDefinition known [] (.directive directive) = [] := by
  rw [checkDefinition_directive_eq_nil_iff]
  refine ⟨distinct, fun argument member => ?_⟩
  obtain ⟨unused, default, named⟩ := bare argument member
  rw [checkInputValue_eq_nil_iff, List.isEmpty_iff.mp unused]
  refine ⟨UsagesKept.nil .., isKnown _ named, fun value isDefault => ?_⟩
  exact List.flatMap_eq_nil_iff.mp (List.isEmpty_iff.mp default) value
    (Option.mem_toList.mpr isDefault)

theorem checkDefinition_schema_eq_nil_iff {known : Known} {schema : SchemaDefinition} :
    checkDefinition known [] (.schema schema) = [] ↔
      (schema.operationTypes.map (·.1)).Nodup ∧
        UsagesKept known .schema schema.directives ∧
        ∀ item ∈ schema.operationTypes, item.2 ∈ known.allNames := by
  simp only [checkDefinition, checkSchemaPart, schemaParts, List.filterMap_nil, List.flatMap_nil,
    List.any_nil, Bool.false_eq_true, if_false, List.nil_append, List.append_eq_nil_iff,
    List.map_eq_nil_iff, repeatsAfter_eq_nil_iff, List.not_mem_nil, not_false_eq_true,
    implies_true, and_true, List.flatMap_eq_nil_iff, checkTypeName_eq_nil_iff, usagesKept_iff]
  tauto

/-! ### Fewer usages -/

/-- The directives of the usages that stay count as before, if they are known at all. -/
def Narrows (keeps : DirectiveUsage → Bool) (known narrowed : Known) : Prop :=
  ∀ usage, keeps usage = true → ∀ definition, known.directive? usage.name = some definition →
    narrowed.directive? usage.name = some definition

section

variable {keeps : DirectiveUsage → Bool} {known narrowed : Known}
  (narrows : Narrows keeps known narrowed)

include narrows

private theorem directive?_narrowed {location : DirectiveLocation} {usage : DirectiveUsage}
    (stays : keeps usage = true) (kept : checkUsage known location usage = []) :
    narrowed.directive? usage.name = known.directive? usage.name := by
  obtain ⟨definition, found, -⟩ := mayStand_of_checkUsage kept
  rw [found]
  exact narrows usage stays definition found

private theorem checkUsage_narrowed {location : DirectiveLocation} {usage : DirectiveUsage}
    (stays : keeps usage = true) (kept : checkUsage known location usage = [])
    (other : DirectiveLocation) :
    checkUsage narrowed other usage = checkUsage known other usage := by
  have same := directive?_narrowed narrows stays kept
  simp only [checkUsage, checkPlace, checkArgumentNames, checkRequiredArguments, same]

private theorem singularUsages_narrowed {location : DirectiveLocation}
    {usages : List DirectiveUsage} (kept : UsagesKept known location usages) :
    (singularUsages narrowed (usages.filter keeps)).Nodup := by
  have same : singularUsages narrowed (usages.filter keeps) =
      singularUsages known (usages.filter keeps) := by
    rw [singularUsages, singularUsages]
    apply List.filter_congr
    intro name member
    obtain ⟨usage, usageMember, rfl⟩ := List.mem_map.mp member
    obtain ⟨used, stays⟩ := List.mem_filter.mp usageMember
    rw [directive?_narrowed narrows stays (kept.each usage used)]
  rw [same]
  exact ((List.filter_sublist.map _).filter _).nodup kept.singular

theorem UsagesKept.filter {location : DirectiveLocation} {usages : List DirectiveUsage}
    (kept : UsagesKept known location usages) :
    UsagesKept narrowed location (usages.filter keeps) := by
  constructor
  case singular => exact singularUsages_narrowed narrows kept
  case each =>
    intro usage member
    obtain ⟨usageMember, stays⟩ := List.mem_filter.mp member
    rw [checkUsage_narrowed narrows stays (kept.each usage usageMember)]
    exact kept.each usage usageMember

/-- Usages keep the rules at another place, too, if those that stay may stand there. -/
theorem UsagesKept.elsewhere_iff {location other : DirectiveLocation}
    {usages : List DirectiveUsage} (kept : UsagesKept known location usages) :
    UsagesKept narrowed other (usages.filter keeps) ↔
      ∀ usage ∈ usages, keeps usage = true → MayStand known other usage := by
  have each : ∀ usage ∈ usages, keeps usage = true →
      (checkUsage narrowed other usage = [] ↔ MayStand known other usage) := by
    intro usage member stays
    rw [checkUsage_narrowed narrows stays (kept.each usage member)]
    exact checkUsage_elsewhere_iff (kept.each usage member)
  constructor
  · intro still usage member stays
    exact (each usage member stays).mp (still.each usage (List.mem_filter.mpr ⟨member, stays⟩))
  · intro allowed
    constructor
    case singular => exact singularUsages_narrowed narrows kept
    case each =>
      intro usage member
      obtain ⟨usageMember, stays⟩ := List.mem_filter.mp member
      exact (each usage usageMember stays).mpr (allowed usage usageMember stays)

theorem checkInputValue_narrowed {location : DirectiveLocation}
    {definition : InputValueDefinition} (kept : checkInputValue known location definition = []) :
    checkInputValue narrowed location (definition.mapUsages (·.filter keeps)) = [] ↔
      definition.type.baseName ∈ narrowed.allNames := by
  rw [checkInputValue_eq_nil_iff] at kept ⊢
  constructor
  · exact fun stillKept => stillKept.2.1
  · exact fun isKnown => ⟨kept.1.filter narrows, isKnown, kept.2.2⟩

theorem checkInputValue_elsewhere_iff {location other : DirectiveLocation}
    {definition : InputValueDefinition} (kept : checkInputValue known location definition = []) :
    checkInputValue narrowed other (definition.mapUsages (·.filter keeps)) = [] ↔
      definition.type.baseName ∈ narrowed.allNames ∧
        ∀ usage ∈ definition.directives, keeps usage = true → MayStand known other usage := by
  rw [checkInputValue_eq_nil_iff] at kept ⊢
  obtain ⟨usages, -, values⟩ := kept
  change UsagesKept narrowed other (definition.directives.filter keeps) ∧ _ ∧ _ ↔ _
  rw [usages.elsewhere_iff narrows]
  constructor
  · rintro ⟨allowed, isKnown, -⟩
    exact ⟨isKnown, allowed⟩
  · rintro ⟨isKnown, allowed⟩
    exact ⟨allowed, isKnown, values⟩

private theorem checkInputValue_untouched_iff {location : DirectiveLocation}
    {definition : InputValueDefinition} (kept : checkInputValue known location definition = [])
    (stays : ∀ usage, checkUsage narrowed location usage = [] → keeps usage = true) :
    checkInputValue narrowed location definition = [] ↔
      definition.type.baseName ∈ narrowed.allNames ∧
        ∀ usage ∈ definition.directives, keeps usage = true := by
  have unchanged (all : ∀ usage ∈ definition.directives, keeps usage = true) :
      definition.mapUsages (·.filter keeps) = definition := by
    rw [InputValueDefinition.mapUsages, List.filter_eq_self.mpr all]
  have filtered := checkInputValue_narrowed narrows kept
  constructor
  · intro stillKept
    have all : ∀ usage ∈ definition.directives, keeps usage = true := fun usage used =>
      stays usage ((checkInputValue_eq_nil_iff.mp stillKept).1.each usage used)
    rw [unchanged all] at filtered
    exact ⟨filtered.mp stillKept, all⟩
  · rintro ⟨isKnown, all⟩
    rw [unchanged all] at filtered
    exact filtered.mpr isKnown

theorem checkDefinition_directive_narrowed_iff {directive : DirectiveDefinition}
    (kept : checkDefinition known [] (.directive directive) = [])
    (stays : ∀ usage, checkUsage narrowed .argumentDefinition usage = [] → keeps usage = true) :
    checkDefinition narrowed [] (.directive directive) = [] ↔
      ∀ argument ∈ directive.arguments,
        argument.type.baseName ∈ narrowed.allNames ∧
          ∀ usage ∈ argument.directives, keeps usage = true := by
  rw [checkDefinition_directive_eq_nil_iff] at kept ⊢
  rw [and_iff_right kept.1]
  exact forall₂_congr fun argument member =>
    checkInputValue_untouched_iff narrows (kept.2 argument member) stays

theorem checkField_narrowed {definition : FieldDefinition}
    (kept : checkField known definition = []) :
    checkField narrowed (definition.mapUsages (·.filter keeps)) = [] ↔
      ∀ name ∈ definition.type.baseName :: definition.arguments.map (·.type.baseName),
        name ∈ narrowed.allNames := by
  rw [checkField_eq_nil_iff] at kept ⊢
  obtain ⟨usages, -, arguments⟩ := kept
  rw [List.forall_mem_cons, List.forall_mem_map]
  constructor
  · rintro ⟨-, isKnown, argumentsKept⟩
    refine ⟨isKnown, fun argument member => ?_⟩
    rw [← checkInputValue_narrowed narrows (arguments argument member)]
    exact argumentsKept _ (List.mem_map_of_mem member)
  · rintro ⟨isKnown, argumentsKnown⟩
    refine ⟨usages.filter narrows, isKnown, fun argument member => ?_⟩
    obtain ⟨original, originalMember, rfl⟩ := List.mem_map.mp member
    exact (checkInputValue_narrowed narrows (arguments original originalMember)).mpr
      (argumentsKnown original originalMember)

omit narrows in
/--
The parts of a type whose members are changed keep the rules if the types that they refer to are
known, as long as the changed members on their own ask for no more.
-/
theorem partsKept_mapMembers {onField : FieldDefinition → FieldDefinition}
    {onValue : EnumValueDefinition → EnumValueDefinition}
    {onInput : InputValueDefinition → InputValueDefinition} {type : TypeDefinition}
    (fieldsKept : ∀ field, checkField known field = [] →
      (checkField narrowed (onField field) = [] ↔
        ∀ name ∈ field.type.baseName :: field.arguments.map (·.type.baseName),
          name ∈ narrowed.allNames))
    (valuesKept : ∀ value, checkEnumValue known value = [] →
      checkEnumValue narrowed (onValue value) = [])
    (inputsKept : ∀ input, checkInputValue known .inputFieldDefinition input = [] →
      (checkInputValue narrowed .inputFieldDefinition (onInput input) = [] ↔
        input.type.baseName ∈ narrowed.allNames))
    (kept : PartsKept known type.body) :
    PartsKept narrowed (type.body.mapMembers onField onValue onInput) ↔
      ∀ name ∈ Declarations.referencedNames type, name ∈ narrowed.allNames := by
  unfold PartsKept Declarations.referencedNames at *
  cases body : type.body with
  | scalar => simp [TypeBody.mapMembers, checkTypeParts, checkUsages]
  | object interfaces fields | interface interfaces fields =>
      simp only [body, checkTypeParts, checkUsages, List.flatMap_nil, List.append_nil,
        List.append_eq_nil_iff, List.flatMap_eq_nil_iff, checkTypeName_eq_nil_iff] at kept
      have same : (∀ field ∈ fields.map onField, checkField narrowed field = []) ↔
          ∀ name ∈ fields.flatMap (fun field =>
              field.type.baseName :: field.arguments.map (·.type.baseName)),
            name ∈ narrowed.allNames := by
        rw [List.forall_mem_map, List.forall_mem_flatMap]
        exact forall₂_congr fun field member => fieldsKept field (kept.2 field member)
      simp only [TypeBody.mapMembers, checkTypeParts, checkUsages, List.flatMap_nil,
        List.append_nil, List.append_eq_nil_iff, List.flatMap_eq_nil_iff, checkTypeName_eq_nil_iff,
        same, List.forall_mem_append]
  | union members =>
      simp only [TypeBody.mapMembers, checkTypeParts, checkUsages, List.flatMap_nil,
        List.nil_append, List.flatMap_eq_nil_iff, checkTypeName_eq_nil_iff]
  | enum values =>
      simp only [body, checkTypeParts, checkUsages, List.flatMap_nil, List.nil_append,
        List.flatMap_eq_nil_iff] at kept
      simp only [TypeBody.mapMembers, checkTypeParts, checkUsages, List.flatMap_nil,
        List.nil_append, List.flatMap_eq_nil_iff, List.forall_mem_map,
        List.not_mem_nil, false_implies, implies_true, iff_true]
      exact fun value member => valuesKept value (kept value member)
  | inputObject fields =>
      simp only [body, checkTypeParts, checkUsages, List.flatMap_nil, List.nil_append,
        List.flatMap_eq_nil_iff] at kept
      simp only [TypeBody.mapMembers, checkTypeParts, checkUsages, List.flatMap_nil,
        List.nil_append, List.flatMap_eq_nil_iff, List.forall_mem_map]
      exact forall₂_congr fun field member => inputsKept field (kept field member)

theorem checkEnumValue_narrowed {definition : EnumValueDefinition}
    (kept : checkEnumValue known definition = []) :
    checkEnumValue narrowed (definition.mapUsages (·.filter keeps)) = [] :=
  checkEnumValue_eq_nil_iff.mpr ((checkEnumValue_eq_nil_iff.mp kept).filter narrows)

theorem partsKept_narrowed {type : TypeDefinition} (kept : PartsKept known type.body) :
    PartsKept narrowed (type.body.mapUsages (·.filter keeps)) ↔
      ∀ name ∈ Declarations.referencedNames type, name ∈ narrowed.allNames := by
  rw [TypeBody.mapUsages_eq_mapMembers]
  exact partsKept_mapMembers (fun _ => checkField_narrowed narrows)
    (fun _ => checkEnumValue_narrowed narrows) (fun _ => checkInputValue_narrowed narrows) kept

end

section

variable {onField : FieldDefinition → FieldDefinition}
  {onValue : EnumValueDefinition → EnumValueDefinition}
  {onInput : InputValueDefinition → InputValueDefinition}

theorem enumValueNames_mapMembers (named : ∀ value, (onValue value).name = value.name)
    (body : TypeBody) :
    enumValueNames (body.mapMembers onField onValue onInput) = enumValueNames body := by
  cases body <;> simp [TypeBody.mapMembers, enumValueNames, named]

theorem fieldNames_mapMembers (fieldNamed : ∀ field, (onField field).name = field.name)
    (inputNamed : ∀ input, (onInput input).name = input.name) (body : TypeBody) :
    fieldNames (body.mapMembers onField onValue onInput) = fieldNames body := by
  cases body <;> simp [TypeBody.mapMembers, fieldNames, fieldNamed, inputNamed]

theorem MembersDistinct.mapMembers {body : TypeBody} (distinct : MembersDistinct body)
    (fieldNamed : ∀ field, (onField field).name = field.name)
    (argumentsNamed : ∀ field,
      (onField field).arguments.map (·.name) = field.arguments.map (·.name))
    (valueNamed : ∀ value, (onValue value).name = value.name)
    (inputNamed : ∀ input, (onInput input).name = input.name) :
    MembersDistinct (body.mapMembers onField onValue onInput) := by
  constructor
  case values =>
    rw [enumValueNames_mapMembers valueNamed]
    exact distinct.values
  case fields =>
    rw [fieldNames_mapMembers fieldNamed inputNamed]
    exact distinct.fields
  case arguments =>
    have same : (body.mapMembers onField onValue onInput).fields = body.fields.map onField := by
      cases body <;> rfl
    rw [same, List.forall_mem_map]
    intro field member
    rw [argumentsNamed]
    exact distinct.arguments field member

end

@[simp] theorem enumValueNames_mapUsages (change : List DirectiveUsage → List DirectiveUsage)
    (body : TypeBody) : enumValueNames (body.mapUsages change) = enumValueNames body := by
  rw [TypeBody.mapUsages_eq_mapMembers]
  apply enumValueNames_mapMembers
  exact fun _ => rfl

@[simp] theorem fieldNames_mapUsages (change : List DirectiveUsage → List DirectiveUsage)
    (body : TypeBody) : fieldNames (body.mapUsages change) = fieldNames body := by
  rw [TypeBody.mapUsages_eq_mapMembers]
  apply fieldNames_mapMembers
  · exact fun _ => rfl
  · exact fun _ => rfl

@[simp] theorem argumentNames_mapUsages (change : List DirectiveUsage → List DirectiveUsage)
    (field : FieldDefinition) :
    (field.mapUsages change).arguments.map (·.name) = field.arguments.map (·.name) := by
  rw [FieldDefinition.mapUsages, List.map_map]
  rfl

theorem MembersDistinct.mapUsages {body : TypeBody} (distinct : MembersDistinct body)
    (change : List DirectiveUsage → List DirectiveUsage) :
    MembersDistinct (body.mapUsages change) := by
  rw [TypeBody.mapUsages_eq_mapMembers]
  exact distinct.mapMembers (fun _ => rfl) (argumentNames_mapUsages change) (fun _ => rfl)
    (fun _ => rfl)

end FederationSplit.Rules
