import FederationSplit.Proofs.Federation.Acceptance
import FederationSplit.Proofs.Federation.Composing

namespace FederationSplit.Federation

open FederationSplit.Syntax
open FederationSplit.Schema
open FederationSplit.Rules
open FederationSplit.TypeSystem

/-- Nothing that a service declares or refers to is in the way of its supergraph. -/
structure Composable (definitions : Definitions) : Prop where
  directives : ∀ directive ∈ definitions.directives,
    directive.name ∉ supergraphDirectives.map (·.name)
  types : ∀ type ∈ definitions.types, type.name ∉ suppliedNames →
    "FieldSet" ∉ Declarations.referencedNames type
  arguments : ∀ directive ∈ definitions.directives, ∀ argument ∈ directive.arguments,
    argument.type.baseName ≠ "FieldSet" ∧
      ∀ usage ∈ argument.directives, usage.name ∉ federationDirectives

instance (definitions : Definitions) : Decidable (Composable definitions) :=
  decidable_of_iff
    ((∀ directive ∈ definitions.directives, directive.name ∉ supergraphDirectives.map (·.name)) ∧
      (∀ type ∈ definitions.types, type.name ∉ suppliedNames →
        "FieldSet" ∉ Declarations.referencedNames type) ∧
      ∀ directive ∈ definitions.directives, ∀ argument ∈ directive.arguments,
        argument.type.baseName ≠ "FieldSet" ∧
          ∀ usage ∈ argument.directives, usage.name ∉ federationDirectives)
    ⟨fun ⟨directives, types, arguments⟩ => ⟨directives, types, arguments⟩,
      fun composable => ⟨composable.directives, composable.types, composable.arguments⟩⟩

def supergraphKnown (service : String) (definitions : Definitions) : Known :=
  Known.ofDocument (supergraph service definitions).toDocument

def isCarried (usage : DirectiveUsage) : Bool :=
  !federationDirectives.contains usage.name

theorem isCarried_iff {usage : DirectiveUsage} :
    isCarried usage = true ↔ usage.name ∉ federationDirectives := by
  simp [isCarried]

section

variable (service : String) {definitions : Definitions}

private theorem mem_allNames_supergraph {name : Name} :
    name ∈ (supergraphKnown service definitions).allNames ↔
      name ∈ builtinTypeNames ∨
        name ∈ suppliedNames ∨ name ∈ definitions.types.map (·.name) := by
  rw [supergraphKnown, Known.ofDocument, typeNames, typeDefinitions_toDocument, List.mem_append,
    mem_names_supergraph]

theorem mem_allNames_supergraphKnown (served : Served definitions) {name : Name}
    (known : name ∈ (serviceKnown definitions).allNames) :
    name ∈ (supergraphKnown service definitions).allNames ↔ name ≠ "FieldSet" := by
  rw [mem_allNames_supergraph]
  constructor
  · rintro found rfl
    rcases found with builtin | added | own
    · revert builtin
      decide
    · revert added
      decide
    · obtain ⟨type, member, named⟩ := List.mem_map.mp own
      apply served.types type member
      rw [named]
      decide
  · intro other
    rcases mem_allNames_serviceKnown.mp known with builtin | own | prelude
    · exact .inl builtin
    · exact .inr (.inr own)
    · obtain ⟨type, member, rfl⟩ := List.mem_map.mp prelude
      have added : ∀ type ∈ serviceTypes, type.name ≠ "FieldSet" → type.name ∈ suppliedNames := by
        decide
      exact .inr (.inl (added type (List.mem_of_mem_filter member) other))

private theorem supergraphKnown_directives :
    (supergraphKnown service definitions).directives =
      definitions.directives.reverse ++ (supergraphDirectives.reverse ++ builtinDirectives) := by
  rw [supergraphKnown, Known.ofDocument, directiveDefinitions_toDocument, supergraph,
    List.reverse_append, List.append_assoc]

theorem narrows_isCarried :
    Narrows isCarried (serviceKnown definitions) (supergraphKnown service definitions) := by
  intro usage carried definition declared
  rw [directive?_serviceKnown (isCarried_iff.mp carried), List.find?_append] at declared
  rw [Known.directive?, supergraphKnown_directives, List.find?_append, List.find?_append]
  cases own : definitions.directives.reverse.find? (·.name == usage.name) with
  | some directive =>
      rw [own] at declared
      exact declared
  | none =>
      rw [own] at declared
      have builtin : builtinDirectives.find? (·.name == usage.name) = some definition := declared
      have apart : ∀ builtin ∈ builtinDirectives, ∀ added ∈ supergraphDirectives,
          added.name ≠ builtin.name := by
        decide
      have sameName := List.find?_some builtin
      have added : supergraphDirectives.reverse.find? (·.name == usage.name) = none := by
        rw [List.find?_eq_none]
        intro directive member named
        apply apart definition (List.mem_of_find?_eq_some builtin) directive
          (List.mem_reverse.mp member)
        rw [beq_iff_eq.mp named, beq_iff_eq.mp sameName]
      rw [added, builtin]
      rfl

private theorem nodup_supergraphDirectives : (supergraphDirectives.map (·.name)).Nodup := by
  decide

theorem directive?_of_mem_supergraphDirectives
    (free : ∀ directive ∈ definitions.directives,
      directive.name ∉ supergraphDirectives.map (·.name))
    {directive : DirectiveDefinition} (member : directive ∈ supergraphDirectives) :
    (supergraphKnown service definitions).directive? directive.name = some directive := by
  have own : definitions.directives.reverse.find? (·.name == directive.name) = none := by
    rw [List.find?_eq_none]
    intro other declared named
    apply free other (List.mem_reverse.mp declared)
    rw [beq_iff_eq.mp named]
    exact List.mem_map_of_mem member
  rw [Known.directive?, supergraphKnown_directives, List.find?_append, List.find?_append, own,
    find?_reverse_of_distinct nodup_supergraphDirectives,
    find?_directive_of_mem nodup_supergraphDirectives member]
  rfl

private theorem isCarried_of_checkUsage (served : Served definitions) {usage : DirectiveUsage}
    (kept : checkUsage (supergraphKnown service definitions) .argumentDefinition usage = []) :
    isCarried usage = true := by
  obtain ⟨definition, member, named, placed⟩ := declares_of_checkUsage kept
  rw [isCarried_iff, ← named]
  rw [supergraphKnown_directives] at member
  rcases List.mem_append.mp member with own | member
  · exact served.directives definition (List.mem_reverse.mp own)
  rcases List.mem_append.mp member with added | builtin
  · have elsewhere : ∀ directive ∈ supergraphDirectives,
        .argumentDefinition ∉ directive.locations := by
      decide
    exact absurd placed (elsewhere definition (List.mem_reverse.mp added))
  · have unowned : ∀ directive ∈ builtinDirectives, directive.name ∉ federationDirectives := by
      decide
    exact unowned definition builtin

theorem checkDirective_supergraph_iff (served : Served definitions)
    (accepted : Accepted definitions) {directive : DirectiveDefinition}
    (member : directive ∈ definitions.directives) :
    checkDefinition (supergraphKnown service definitions) [] (.directive directive) = [] ↔
      ∀ argument ∈ directive.arguments, argument.type.baseName ≠ "FieldSet" ∧
        ∀ usage ∈ argument.directives, usage.name ∉ federationDirectives := by
  have kept := accepted.directives directive member
  rw [checkDefinition_directive_narrowed_iff (narrows_isCarried service) kept
    fun _ => isCarried_of_checkUsage service served]
  simp only [isCarried_iff]
  apply forall₂_congr
  intro argument argumentMember
  have known := (checkDefinition_directive_eq_nil_iff.mp kept).2 argument argumentMember
  rw [mem_allNames_supergraphKnown service served (checkInputValue_eq_nil_iff.mp known).2.1]

/-! ### Usages that composing adds -/

/-- Usages of a directive of composition may stand at a place with these arguments, repeatedly. -/
def Admits (location : DirectiveLocation) (name : Name) (arguments : List Name) : Prop :=
  arguments.Nodup ∧ ∃ directive ∈ supergraphDirectives, directive.name = name ∧
    directive.isRepeatable = true ∧ location ∈ directive.locations ∧
    (∀ argument ∈ arguments, argument ∈ directive.arguments.map (·.name)) ∧
    ∀ parameter ∈ requiredParameters directive, parameter.name ∈ arguments

instance (location : DirectiveLocation) (name : Name) (arguments : List Name) :
    Decidable (Admits location name arguments) :=
  inferInstanceAs (Decidable (_ ∧ _))

omit definitions in
/-- What lies between two admitted sets of arguments is admitted. -/
theorem Admits.between {location : DirectiveLocation} {name : Name}
    {needed arguments taken : List Name} (least : Admits location name needed)
    (most : Admits location name taken) (distinct : arguments.Nodup)
    (given : ∀ argument ∈ needed, argument ∈ arguments)
    (allowed : ∀ argument ∈ arguments, argument ∈ taken) : Admits location name arguments := by
  obtain ⟨-, directive, member, named, repeatable, placed, -, required⟩ := least
  obtain ⟨-, other, otherMember, otherNamed, -, -, parameters, -⟩ := most
  obtain rfl := List.inj_on_of_nodup_map nodup_supergraphDirectives member otherMember
    (named.trans otherNamed.symm)
  exact ⟨distinct, directive, member, named, repeatable, placed,
    fun argument argumentMember => parameters argument (allowed argument argumentMember),
    fun parameter isRequired => given _ (required parameter isRequired)⟩

section

variable (free : ∀ directive ∈ definitions.directives,
  directive.name ∉ supergraphDirectives.map (·.name))

include free

private theorem kept_of_admits {location : DirectiveLocation} {usage : DirectiveUsage}
    (admits : Admits location usage.name (usage.arguments.map (·.name)))
    (values : ∀ argument ∈ usage.arguments, checkValue argument.value = []) :
    checkUsage (supergraphKnown service definitions) location usage = [] ∧
      ((supergraphKnown service definitions).directive? usage.name).any
        (!·.isRepeatable) = false := by
  obtain ⟨distinct, directive, member, named, repeatable, placed, parameters, required⟩ := admits
  have declared := directive?_of_mem_supergraphDirectives service free member
  rw [named] at declared
  constructor
  · exact checkUsage_of_declared declared placed
      (List.forall_mem_map.mp parameters) distinct values required
  · rw [declared, Option.any_some, repeatable]
    rfl

theorem usagesKept_append_admitted {location : DirectiveLocation}
    {usages added : List DirectiveUsage}
    (kept : UsagesKept (supergraphKnown service definitions) location usages)
    (admits : ∀ usage ∈ added, Admits location usage.name (usage.arguments.map (·.name)))
    (values : ∀ usage ∈ added, ∀ argument ∈ usage.arguments, checkValue argument.value = []) :
    UsagesKept (supergraphKnown service definitions) location (usages ++ added) :=
  kept.append
    (fun usage member =>
      (kept_of_admits service free (admits usage member) (values usage member)).1)
    (fun usage member =>
      (kept_of_admits service free (admits usage member) (values usage member)).2)

end

end

/-! ### Markers of types -/

private def keyMarkerArguments : List (List Name) :=
  [["graph"], ["graph", "key"], ["graph", "resolvable"], ["graph", "key", "resolvable"]]

private theorem arguments_keyMarker (graph : Name) (key : DirectiveUsage) :
    (keyMarker graph key).arguments.map (·.name) ∈ keyMarkerArguments := by
  rw [keyMarker]
  cases key.argument? "fields" with
  | none =>
      rcases resolvableArgument_cases key with same | same
      · rw [same]
        exact (by decide : ["graph"] ∈ keyMarkerArguments)
      · rw [same]
        exact (by decide : ["graph", "resolvable"] ∈ keyMarkerArguments)
  | some fields =>
      rcases resolvableArgument_cases key with same | same
      · rw [same]
        exact (by decide : ["graph", "key"] ∈ keyMarkerArguments)
      · rw [same]
        exact (by decide : ["graph", "key", "resolvable"] ∈ keyMarkerArguments)

private theorem admits_typeMarker (kind : TypeKind) :
    ∀ arguments ∈ keyMarkerArguments, Admits kind.location typeMarker arguments := by
  cases kind <;> decide

theorem admits_ownMarkers (graph : Name) (type : TypeDefinition) :
    ∀ usage ∈ ownMarkers graph type,
      Admits type.kind.location usage.name (usage.arguments.map (·.name)) := by
  have bare : ∀ usage ∈ [marker typeMarker graph []],
      Admits type.kind.location usage.name (usage.arguments.map (·.name)) := by
    intro usage member
    rw [List.mem_singleton.mp member]
    exact admits_typeMarker type.kind ["graph"] (by decide)
  have keyed : ∀ usage ∈ typeMarkers graph type.directives,
      Admits type.kind.location usage.name (usage.arguments.map (·.name)) := by
    unfold typeMarkers
    split
    · exact bare
    · intro usage member
      obtain ⟨key, -, rfl⟩ := List.mem_map.mp member
      exact admits_typeMarker type.kind _ (arguments_keyMarker graph key)
  unfold ownMarkers
  split
  · exact keyed
  · exact keyed
  · exact bare

theorem admits_memberMarkers (graph : Name) (body : TypeBody) :
    ∀ usage ∈ memberMarkers graph body,
      Admits body.kind.location usage.name (usage.arguments.map (·.name)) := by
  intro usage member
  cases body with
  | object interfaces fields =>
      obtain ⟨name, -, rfl⟩ := List.mem_map.mp member
      exact (by decide : Admits .object "join__implements" ["graph", "interface"])
  | interface interfaces fields =>
      obtain ⟨name, -, rfl⟩ := List.mem_map.mp member
      exact (by decide : Admits .interface "join__implements" ["graph", "interface"])
  | union members =>
      obtain ⟨name, -, rfl⟩ := List.mem_map.mp member
      exact (by decide : Admits .union "join__unionMember" ["graph", "member"])
  | scalar | enum | inputObject => cases member

private theorem values_of_ownMarkers {graph : Name} {type : TypeDefinition}
    (values : ∀ usage ∈ type.directives, ∀ argument ∈ usage.arguments,
      checkValue argument.value = []) :
    ∀ usage ∈ ownMarkers graph type, ∀ argument ∈ usage.arguments,
      checkValue argument.value = [] := by
  have bare : ∀ usage ∈ [marker typeMarker graph []], ∀ argument ∈ usage.arguments,
      checkValue argument.value = [] := by
    intro usage member argument argumentMember
    rw [List.mem_singleton.mp member] at argumentMember
    rw [List.mem_singleton.mp argumentMember]
    rfl
  have keyed : ∀ usage ∈ typeMarkers graph type.directives, ∀ argument ∈ usage.arguments,
      checkValue argument.value = [] := by
    unfold typeMarkers
    split
    · exact bare
    · intro usage member argument argumentMember
      obtain ⟨key, keyMember, rfl⟩ := List.mem_map.mp member
      rcases List.mem_cons.mp argumentMember with rfl | argumentMember
      · rfl
      rcases List.mem_append.mp argumentMember with fields | resolvable
      · obtain ⟨original, found, rfl⟩ := List.mem_map.mp fields
        exact values key (List.mem_of_mem_filter keyMember) original
          (List.mem_of_find?_eq_some (Option.mem_toList.mp found))
      · rcases resolvableArgument_cases key with same | same
        · rw [same] at resolvable
          cases resolvable
        · rw [same] at resolvable
          rw [List.mem_singleton.mp resolvable]
          rfl
  unfold ownMarkers
  split
  · exact keyed
  · exact keyed
  · exact bare

private theorem values_of_memberMarkers {graph : Name} {body : TypeBody} :
    ∀ usage ∈ memberMarkers graph body, ∀ argument ∈ usage.arguments,
      checkValue argument.value = [] := by
  intro usage member argument argumentMember
  cases body with
  | object interfaces fields | interface interfaces fields | union members =>
      obtain ⟨name, -, rfl⟩ := List.mem_map.mp member
      revert argument
      exact List.forall_mem_cons.mpr ⟨rfl, List.forall_mem_singleton.mpr rfl⟩
  | scalar | enum | inputObject => cases member

theorem values_composeType {graph : Name} {type : TypeDefinition}
    (values : ∀ usage ∈ type.directives, ∀ argument ∈ usage.arguments,
      checkValue argument.value = []) :
    ∀ usage ∈ (composeType graph type).directives, ∀ argument ∈ usage.arguments,
      checkValue argument.value = [] := by
  intro usage used
  rcases List.mem_append.mp used with used | members
  · rcases List.mem_append.mp used with own | markers
    · exact values usage (List.mem_of_mem_filter own)
    · exact values_of_ownMarkers values usage markers
  · exact values_of_memberMarkers usage members

theorem admits_fieldMarkers (graph : Name) (usages : List DirectiveUsage) :
    ∀ usage ∈ fieldMarkers graph usages,
      Admits .fieldDefinition usage.name (usage.arguments.map (·.name)) := by
  intro usage member
  obtain ⟨arguments, rfl, once, recorded⟩ := fieldMarkers_spec member
  have named : ∀ argument ∈ arguments,
      argument.name ∈ ["external", "requires", "provides", "override"] := by
    intro argument argumentMember
    obtain ⟨original, -, found⟩ := recorded argument argumentMember
    exact (recordedArgument?_eq_some found).1
  have least : Admits .fieldDefinition "join__field" ["graph"] := by decide
  have most : Admits .fieldDefinition "join__field"
      ["graph", "external", "requires", "provides", "override"] := by
    decide
  change Admits .fieldDefinition "join__field" ("graph" :: arguments.map (·.name))
  apply least.between most
  case distinct =>
    rw [List.nodup_cons]
    refine ⟨fun present => ?_, once⟩
    obtain ⟨argument, argumentMember, isGraph⟩ := List.mem_map.mp present
    have other := named argument argumentMember
    rw [isGraph] at other
    revert other
    decide
  case given => exact List.forall_mem_singleton.mpr List.mem_cons_self
  case allowed =>
    rw [List.forall_mem_cons, List.forall_mem_map]
    exact ⟨List.mem_cons_self, fun argument argumentMember =>
      List.mem_cons_of_mem _ (named argument argumentMember)⟩

private theorem values_of_fieldMarkers {graph : Name} {usages : List DirectiveUsage}
    (values : ∀ usage ∈ usages, ∀ argument ∈ usage.arguments, checkValue argument.value = []) :
    ∀ usage ∈ fieldMarkers graph usages, ∀ argument ∈ usage.arguments,
      checkValue argument.value = [] := by
  intro usage member
  obtain ⟨arguments, rfl, -, recorded⟩ := fieldMarkers_spec member
  refine List.forall_mem_cons.mpr ⟨rfl, fun argument argumentMember => ?_⟩
  obtain ⟨original, used, found⟩ := recorded argument argumentMember
  rcases (recordedArgument?_eq_some found).2 with same | ⟨source, sourceMember, same⟩
  · rw [same]
    rfl
  · rw [same]
    exact values original used source sourceMember

section

variable (service : String) {definitions : Definitions}

private theorem composeBody_eq_mapMembers (graph : Name) (body : TypeBody) :
    composeBody graph body =
      body.mapMembers (composeField graph) (composeEnumValue graph)
        (InputValueDefinition.mapUsages (·.filter isCarried)) := by
  cases body <;> rfl

section

variable (free : ∀ directive ∈ definitions.directives,
  directive.name ∉ supergraphDirectives.map (·.name))

include free

private theorem checkField_composeField (graph : Name) {field : FieldDefinition}
    (kept : checkField (serviceKnown definitions) field = []) :
    checkField (supergraphKnown service definitions) (composeField graph field) = [] ↔
      ∀ name ∈ field.type.baseName :: field.arguments.map (·.type.baseName),
        name ∈ (supergraphKnown service definitions).allNames := by
  have usages := (checkField_eq_nil_iff.mp kept).1
  have left := usages.filter (narrows_isCarried service)
  have marked : UsagesKept (supergraphKnown service definitions) .fieldDefinition
      (composeField graph field).directives :=
    usagesKept_append_admitted service free left (admits_fieldMarkers graph field.directives)
      (values_of_fieldMarkers fun usage used => checkValue_of_checkUsage (usages.each usage used))
  rw [← checkField_narrowed (narrows_isCarried service) kept, checkField_eq_nil_iff,
    checkField_eq_nil_iff]
  exact and_congr_left fun _ => iff_of_true marked left

private theorem checkEnumValue_composeEnumValue (graph : Name) {value : EnumValueDefinition}
    (kept : checkEnumValue (serviceKnown definitions) value = []) :
    checkEnumValue (supergraphKnown service definitions) (composeEnumValue graph value) = [] := by
  have left := (checkEnumValue_eq_nil_iff.mp kept).filter (narrows_isCarried service)
  apply checkEnumValue_eq_nil_iff.mpr
  apply usagesKept_append_admitted service free left
  · intro usage member
    rw [List.mem_singleton.mp member]
    exact (by decide : Admits .enumValue "join__enumValue" ["graph"])
  · intro usage member
    rw [List.mem_singleton.mp member]
    exact List.forall_mem_singleton.mpr rfl

/-- A type keeps the rules in the supergraph if it refers to no sets of fields. -/
theorem checkType_supergraph_iff (served : Served definitions) (accepted : Accepted definitions)
    {type : TypeDefinition} (member : type ∈ definitions.types) :
    checkDefinition (supergraphKnown service definitions) []
        (.type (composeType (graphName service) type)) = [] ↔
      "FieldSet" ∉ Declarations.referencedNames type := by
  obtain ⟨distinct, usages, parts⟩ :=
    checkDefinition_type_eq_nil_iff.mp (accepted.types type member)
  have values : ∀ usage ∈ type.directives, ∀ argument ∈ usage.arguments,
      checkValue argument.value = [] :=
    fun usage used => checkValue_of_checkUsage (usages.each usage used)
  have argumentsNamed (field : FieldDefinition) :
      (composeField (graphName service) field).arguments.map (·.name) =
        field.arguments.map (·.name) := by
    rw [composeField, List.map_map]
    rfl
  have composedDistinct : MembersDistinct (composeType (graphName service) type).body := by
    rw [composeType, composeBody_eq_mapMembers]
    exact distinct.mapMembers (fun _ => rfl) argumentsNamed (fun _ => rfl) (fun _ => rfl)
  have composedUsages : UsagesKept (supergraphKnown service definitions) type.kind.location
      (composeType (graphName service) type).directives :=
    usagesKept_append_admitted service free
      (usagesKept_append_admitted service free (usages.filter (narrows_isCarried service))
        (admits_ownMarkers (graphName service) type) (values_of_ownMarkers values))
      (admits_memberMarkers (graphName service) type.body) values_of_memberMarkers
  have composedParts : PartsKept (supergraphKnown service definitions)
      (composeType (graphName service) type).body ↔
        ∀ name ∈ Declarations.referencedNames type, name ≠ "FieldSet" := by
    rw [composeType, composeBody_eq_mapMembers,
      partsKept_mapMembers (fun _ => checkField_composeField service free (graphName service))
        (fun _ => checkEnumValue_composeEnumValue service free (graphName service))
        (fun _ => checkInputValue_narrowed (narrows_isCarried service)) parts]
    exact forall₂_congr fun name referenced =>
      mem_allNames_supergraphKnown service served (parts.known name referenced)
  rw [checkDefinition_type_eq_nil_iff, kind_composeType, and_iff_right composedDistinct,
    and_iff_right composedUsages, composedParts]
  exact ⟨fun other referenced => other _ referenced rfl,
    fun unreferenced name referenced same => unreferenced (same ▸ referenced)⟩

end

/-! ### What every supergraph declares -/

private theorem addedName_known {name : Name}
    (added : name ∈ suppliedNames ++ builtinTypeNames) :
    name ∈ (supergraphKnown service definitions).allNames := by
  rw [mem_allNames_supergraph]
  rcases List.mem_append.mp added with own | builtin
  · exact .inr (.inl own)
  · exact .inl builtin

private theorem supergraphDirective_kept {directive : DirectiveDefinition}
    (member : directive ∈ supergraphDirectives) :
    checkDefinition (supergraphKnown service definitions) [] (.directive directive) = [] := by
  have closed : ∀ directive ∈ supergraphDirectives,
      (directive.arguments.map (·.name)).Nodup ∧ ∀ argument ∈ directive.arguments,
        argument.directives.isEmpty = true ∧
        (argument.defaultValue.toList.flatMap checkValue).isEmpty = true ∧
        argument.type.baseName ∈ suppliedNames ++ builtinTypeNames := by
    decide
  obtain ⟨distinct, bare⟩ := closed directive member
  exact checkDefinition_of_bare distinct bare fun _ => addedName_known service

section

variable (free : ∀ directive ∈ definitions.directives,
  directive.name ∉ supergraphDirectives.map (·.name))

include free

private theorem graphEnum_kept :
    checkDefinition (supergraphKnown service definitions) [] (.type (graphEnum service)) = [] := by
  have declaredGraph : ∃ directive ∈ supergraphDirectives, directive.name = "join__graph" ∧
      .enumValue ∈ directive.locations ∧
      (∀ name ∈ ["name", "url"], name ∈ directive.arguments.map (·.name)) ∧
      ∀ parameter ∈ requiredParameters directive, parameter.name ∈ ["name", "url"] := by
    decide
  obtain ⟨directive, member, named, placed, parameters, required⟩ := declaredGraph
  have declared := directive?_of_mem_supergraphDirectives service free member
  rw [named] at declared
  have graph : checkUsage (supergraphKnown service definitions) .enumValue
      (DirectiveUsage.of "join__graph"
        [Argument.of "name" (.text service), Argument.of "url" (.text "")]) = [] :=
    checkUsage_of_declared declared placed (List.forall_mem_map.mp parameters)
      (by decide : ["name", "url"].Nodup)
      (List.forall_mem_cons.mpr ⟨rfl, List.forall_mem_singleton.mpr rfl⟩) required
  rw [checkDefinition_type_eq_nil_iff]
  refine ⟨⟨List.nodup_singleton _, List.nodup_nil, nofun⟩, UsagesKept.nil .., ?_⟩
  change [] ++ List.flatMap _ [_] = []
  rw [List.nil_append, List.flatMap_singleton, checkEnumValue_eq_nil_iff]
  exact usagesKept_singleton_iff.mpr graph

private theorem supergraphType_kept {type : TypeDefinition}
    (member : type ∈ suppliedTypes service) :
    checkDefinition (supergraphKnown service definitions) [] (.type type) = [] := by
  have fixedKept : ∀ type ∈ supergraphTypes,
      checkDefinition (supergraphKnown service definitions) [] (.type type) = [] := by
    simp only [supergraphTypes, List.forall_mem_cons]
    exact ⟨rfl, rfl, rfl, nofun⟩
  rcases List.mem_append.mp member with fixed | graph
  · exact fixedKept type fixed
  · rw [List.mem_singleton.mp graph]
    exact graphEnum_kept service free

theorem checkSchema_supergraph (served : Served definitions)
    (clean : compositionProblems definitions = []) :
    checkDefinition (supergraphKnown service definitions) []
      (.schema (supergraph service definitions).schemaDefinition) = [] := by
  have links : UsagesKept (supergraphKnown service definitions) .schema supergraphLinks := by
    change UsagesKept _ _ ([] ++ supergraphLinks)
    apply usagesKept_append_admitted service free (UsagesKept.nil ..)
    · decide
    · decide
  rw [checkDefinition_schema_eq_nil_iff]
  refine ⟨definitions.rootTypes.nodup_operations_items, links, fun item member => ?_⟩
  have accepted := accepted_of_check (compositionProblems_eq_nil clean).1
  rw [mem_allNames_supergraphKnown service served (accepted.roots item member)]
  exact root_ne_fieldSet served clean (RootTypes.get_of_mem_items member)

end

private theorem nodup_directives_supergraph_iff (accepted : Accepted definitions) :
    ((supergraph service definitions).directives.map (·.name)).Nodup ↔
      ∀ directive ∈ definitions.directives,
        directive.name ∉ supergraphDirectives.map (·.name) := by
  rw [supergraph, List.map_append, List.nodup_append, and_iff_right nodup_supergraphDirectives,
    and_iff_right accepted.distinct]
  constructor
  · intro apart directive member added
    exact apart directive.name added directive.name (List.mem_map_of_mem member) rfl
  · intro free name added other own same
    obtain ⟨directive, member, rfl⟩ := List.mem_map.mp own
    exact free directive member (same ▸ added)

/-- A service without problems has a supergraph that keeps the rules if nothing is in its way. -/
theorem violations_supergraph_eq_nil_iff (served : Served definitions)
    (clean : compositionProblems definitions = []) :
    violations (supergraph service definitions).toDocument = [] ↔ Composable definitions := by
  have accepted := accepted_of_check (compositionProblems_eq_nil clean).1
  rw [violations_toDocument_eq_nil_iff, ← supergraphKnown,
    nodup_directives_supergraph_iff service accepted]
  constructor
  · rintro ⟨⟨free, -⟩, -, directives, types⟩
    constructor
    case directives => exact free
    case types =>
      intro type member other
      rw [← checkType_supergraph_iff service free served accepted member]
      exact types _ ((mem_supergraph_types served.distinct).mpr (.inr ⟨type, member, other, rfl⟩))
    case arguments =>
      intro directive member
      rw [← checkDirective_supergraph_iff service served accepted member]
      exact directives directive (List.mem_append_right _ member)
  · intro composable
    have free := composable.directives
    refine ⟨⟨free, distinctNames_supergraph served.distinct service⟩,
      fun _ => checkSchema_supergraph service free served clean, ?_, ?_⟩
    · intro directive member
      rcases List.mem_append.mp member with added | own
      · exact supergraphDirective_kept service added
      · rw [checkDirective_supergraph_iff service served accepted own]
        exact composable.arguments directive own
    · intro type member
      rcases (mem_supergraph_types served.distinct).mp member with added | own
      · exact supergraphType_kept service free added
      · obtain ⟨original, declared, kept, rfl⟩ := own
        rw [checkType_supergraph_iff service free served accepted declared]
        exact composable.types original declared kept

end

end FederationSplit.Federation
