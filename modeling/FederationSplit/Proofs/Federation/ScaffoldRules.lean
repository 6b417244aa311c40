import FederationSplit.Proofs.Federation.Rewriting
import FederationSplit.Proofs.Rules.Narrowing

namespace FederationSplit.Federation

open FederationSplit.Syntax
open FederationSplit.Schema
open FederationSplit.Rules
open FederationSplit.Settings

/-- What the declarations of the scaffold and of a link refer to is known, and they count. -/
structure DeclaresScaffold (known : Known) : Prop where
  key : known.directive? "key" = some keyDirective
  shareable : known.directive? "shareable" = some shareableDirective
  names : ∀ name ∈ ["link__Import", "link__Purpose", "_Any", "FieldSet"] ++ builtinTypeNames,
    name ∈ known.allNames

/-- Directives of composition may be missed when any other directive is looked up. -/
theorem find?_plainDirectives (directives : List DirectiveDefinition) {name : Name}
    (plain : isCompositionName name = false) :
    (directives.filter (!isCompositionName ·.name)).reverse.find? (·.name == name) =
      directives.reverse.find? (·.name == name) := by
  have same : (fun directive : DirectiveDefinition => decide
      ((!isCompositionName directive.name) = true ∧ (directive.name == name) = true)) =
      (·.name == name) := by
    funext directive
    by_cases named : directive.name = name
    · simp [named, plain]
    · simp [named]
  rw [← List.filter_reverse, List.find?_filter, same]

/--
A link directive with which a schema can be linked to a specification: it may stand on a schema, it
takes an address, and it asks for nothing else.
-/
structure FitsLink (definition : DirectiveDefinition) : Prop where
  location : .schema ∈ definition.locations
  url : "url" ∈ definition.arguments.map (·.name)
  alone : ∀ parameter ∈ definition.arguments, parameter.type.isNonNull = true →
    parameter.defaultValue = none → parameter.name = "url"

theorem fitsLink_linkDirective (urlType : TypeRef) : FitsLink (linkDirective urlType) := by
  constructor
  case location => exact List.mem_singleton.mpr rfl
  case url => exact List.mem_cons_self
  case alone =>
    change ∀ parameter ∈ [_, _, _, _], _
    simp only [List.forall_mem_cons, List.not_mem_nil, false_implies, implies_true, and_true]
    exact ⟨fun _ _ => rfl, nofun, nofun, nofun⟩

private theorem forall_requiredParameters_iff {definition : DirectiveDefinition} {name : Name} :
    (∀ parameter ∈ requiredParameters definition, parameter.name = name) ↔
      ∀ parameter ∈ definition.arguments, parameter.type.isNonNull = true →
        parameter.defaultValue = none → parameter.name = name := by
  have mandatory {parameter : InputValueDefinition} :
      parameter ∈ definition.arguments.filter (fun argument =>
          argument.type.isNonNull && argument.defaultValue.isNone) ↔
        parameter ∈ definition.arguments ∧ parameter.type.isNonNull = true ∧
          parameter.defaultValue = none := by
    simp [List.mem_filter]
  constructor
  · intro named parameter member nonNull noDefault
    have isMandatory := mandatory.mpr ⟨member, nonNull, noDefault⟩
    -- Of several parameters of one name the last one is asked for.
    have present : ((definition.arguments.filter fun argument =>
        argument.type.isNonNull && argument.defaultValue.isNone).reverse.find?
          (·.name == parameter.name)).isSome :=
      List.find?_isSome.mpr ⟨parameter, List.mem_reverse.mpr isMandatory, beq_self_eq_true _⟩
    obtain ⟨last, found⟩ := Option.isSome_iff_exists.mp present
    have sameName := List.find?_some found
    rw [← beq_iff_eq.mp sameName]
    apply named
    exact List.mem_filterMap.mpr
      ⟨parameter.name, List.mem_eraseDups.mpr (List.mem_map_of_mem isMandatory), found⟩
  · intro named parameter member
    obtain ⟨_, _, found⟩ := List.mem_filterMap.mp member
    obtain ⟨member, nonNull, noDefault⟩ :=
      mandatory.mp (List.mem_reverse.mp (List.mem_of_find?_eq_some found))
    exact named parameter member nonNull noDefault

/-- A schema can be linked exactly if the link directive that counts fits. -/
theorem checkUsage_linkUsage_iff {known : Known} {definition : DirectiveDefinition}
    (declared : known.directive? "link" = some definition) (url : String) :
    checkUsage known .schema (linkUsage url) = [] ↔ FitsLink definition := by
  have declaredFor : known.directive? (linkUsage url).name = some definition := declared
  have missing (name : Name) : ((linkUsage url).argument? name).isNone = true ↔ name ≠ "url" := by
    rw [linkUsage, DirectiveUsage.argument?, DirectiveUsage.of, Argument.of]
    by_cases named : name = "url"
    · simp [named]
    · simp [named, Ne.symm named]
  have place : checkPlace known .schema (linkUsage url) = [] ↔
      .schema ∈ definition.locations := by
    rw [checkPlace, declaredFor]
    simp
  have names : checkArgumentNames known (linkUsage url) = [] ↔
      "url" ∈ definition.arguments.map (·.name) := by
    rw [checkArgumentNames, declaredFor]
    simp [linkUsage, DirectiveUsage.of, Argument.of]
  have required : checkRequiredArguments known (linkUsage url) = [] ↔
      ∀ parameter ∈ requiredParameters definition, parameter.name = "url" := by
    rw [checkRequiredArguments, declaredFor]
    simp only [List.map_eq_nil_iff, List.filter_eq_nil_iff, missing, not_not]
  have distinct : checkDistinctArguments (linkUsage url).arguments = [] := by
    rw [checkDistinctArguments, List.map_eq_nil_iff, duplicates_eq_nil_iff]
    exact List.nodup_singleton _
  have values : (linkUsage url).arguments.flatMap (checkValue ·.value) = [] := rfl
  rw [checkUsage, distinct, values, List.append_nil, List.append_nil, List.append_eq_nil_iff,
    List.append_eq_nil_iff, place, names, required, forall_requiredParameters_iff]
  constructor
  · rintro ⟨⟨location, url⟩, alone⟩
    exact ⟨location, url, alone⟩
  · exact fun fits => ⟨⟨fits.location, fits.url⟩, fits.alone⟩

section

variable {known : Known} (scaffold : DeclaresScaffold known)

include scaffold

private theorem checkUsage_key {fields : Value} {resolvable : Option Argument}
    (fieldsValue : checkValue fields = [])
    (resolvableNamed : ∀ argument ∈ resolvable, argument.name = "resolvable")
    (resolvableValue : ∀ argument ∈ resolvable, checkValue argument.value = []) :
    checkUsage known .object
      (DirectiveUsage.of "key" (Argument.of "fields" fields :: resolvable.toList)) = [] := by
  apply checkUsage_of_declared scaffold.key
  case placed => decide
  case named =>
    intro argument member
    rcases List.mem_cons.mp member with rfl | member
    · exact List.mem_cons_self
    · rw [resolvableNamed argument (Option.mem_toList.mp member)]
      decide
  case distinct =>
    cases resolvable with
    | none => exact List.nodup_singleton _
    | some argument =>
        change ["fields", argument.name].Nodup
        rw [resolvableNamed argument rfl]
        decide
  case values =>
    intro argument member
    rcases List.mem_cons.mp member with rfl | member
    · exact fieldsValue
    · exact resolvableValue argument (Option.mem_toList.mp member)
  case required =>
    have fields : requiredParameters keyDirective =
        [Federation.parameter "fields" (.nonNull (.named "FieldSet"))] := rfl
    rw [fields]
    exact List.forall_mem_singleton.mpr List.mem_cons_self

private theorem checkUsage_shareable : checkUsage known .object shareableUsage = [] :=
  checkUsage_of_declared scaffold.shareable (by decide) nofun List.nodup_nil nofun nofun

private theorem federationUsage_kept {marker : DirectiveUsage}
    (values : ∀ argument ∈ marker.arguments, checkValue argument.value = []) :
    checkUsage known .object (federationUsage marker) = [] ∧
      (known.directive? (federationUsage marker).name).any (!·.isRepeatable) = false := by
  unfold federationUsage
  split
  · next key keyed =>
      constructor
      · apply checkUsage_key scaffold (values key (List.mem_of_find?_eq_some keyed))
        · intro argument found
          have holds := List.find?_some found
          simpa using holds
        · exact fun argument found => values argument (List.mem_of_find?_eq_some found)
      · change (known.directive? "key").any _ = false
        rw [scaffold.key]
        rfl
  · constructor
    · exact checkUsage_shareable scaffold
    · change (known.directive? "shareable").any _ = false
      rw [scaffold.shareable]
      rfl

theorem usagesKept_federation {usages markers : List DirectiveUsage}
    (own : UsagesKept known .object usages)
    (values : ∀ marker ∈ markers, ∀ argument ∈ marker.arguments, checkValue argument.value = []) :
    UsagesKept known .object (usages ++ markers.map federationUsage) := by
  apply own.append
  · intro usage used
    obtain ⟨marker, selected, rfl⟩ := List.mem_map.mp used
    exact (federationUsage_kept scaffold (values marker selected)).1
  · intro usage used
    obtain ⟨marker, selected, rfl⟩ := List.mem_map.mp used
    exact (federationUsage_kept scaffold (values marker selected)).2

theorem usagesKept_cleanedType {config : Config} {schema : SchemaDocument} {type : TypeDefinition}
    (own : UsagesKept known type.kind.location
      (type.directives.filter (!isCompositionName ·.name)))
    (values : ∀ marker ∈ selectedMarkers config.markerSelection type,
      ∀ argument ∈ marker.arguments, checkValue argument.value = []) :
    UsagesKept known type.kind.location (cleanedType config schema type).directives := by
  simp only [cleanedType]
  split
  · exact UsagesKept.nil ..
  · by_cases object : type.kind = .object
    · rw [object] at own ⊢
      exact usagesKept_federation scaffold own values
    · rw [selectedMarkers_of_kind_ne object, List.map_nil, List.append_nil]
      exact own

private theorem checkField_entities (emitted : entityUnion ∈ known.allNames) :
    checkField known entitiesFieldDefinition = [] := by
  have anyKnown : anyScalar ∈ known.allNames := scaffold.names anyScalar (by decide)
  rw [checkField_eq_nil_iff]
  refine ⟨UsagesKept.nil .., emitted, fun argument member => ?_⟩
  rw [List.mem_singleton.mp member, checkInputValue_eq_nil_iff]
  exact ⟨UsagesKept.nil .., anyKnown, nofun⟩

omit scaffold in
private theorem partsKept_withEntities_iff {type : TypeDefinition}
    (object : type.kind = .object) :
    PartsKept known (withEntities type).body ↔
      PartsKept known type.body ∧ checkField known entitiesFieldDefinition = [] := by
  unfold PartsKept withEntities
  cases body : type.body with
  | object interfaces fields =>
      simp [checkTypeParts, checkUsages, TypeBody.interfaces, TypeBody.fields, and_assoc]
  | scalar | interface | union | enum | inputObject =>
      rw [TypeDefinition.kind, body] at object
      cases object

omit scaffold in
private theorem membersDistinct_withEntities {type : TypeDefinition}
    (object : type.kind = .object) (distinct : MembersDistinct type.body)
    (free : ∀ field ∈ type.body.fields, field.name ≠ entitiesField) :
    MembersDistinct (withEntities type).body := by
  have names : fieldNames type.body = type.body.fields.map (·.name) := by
    cases body : type.body with
    | object | interface | scalar | union | enum => rfl
    | inputObject fields =>
        rw [TypeDefinition.kind, body] at object
        cases object
  constructor
  case values => exact List.nodup_nil
  case fields =>
    change ((type.body.fields ++ [entitiesFieldDefinition]).map (·.name)).Nodup
    rw [List.map_append, List.nodup_append, ← names]
    refine ⟨distinct.fields, List.nodup_singleton _, ?_⟩
    intro name member other added same
    rw [names] at member
    obtain ⟨field, fieldMember, rfl⟩ := List.mem_map.mp member
    exact free field fieldMember (same.trans (List.mem_singleton.mp added))
  case arguments =>
    intro field member
    rcases List.mem_append.mp member with own | added
    · exact distinct.arguments field own
    · rw [List.mem_singleton.mp added]
      exact List.nodup_singleton _

/-- The query root keeps the rules with the field that resolves entities if it does without. -/
theorem checkDefinition_withEntities_iff {type : TypeDefinition} (object : type.kind = .object)
    (emitted : entityUnion ∈ known.allNames) (distinct : MembersDistinct type.body)
    (free : ∀ field ∈ type.body.fields, field.name ≠ entitiesField)
    (usages : UsagesKept known .object type.directives) :
    checkDefinition known [] (.type (withEntities type)) = [] ↔ PartsKept known type.body := by
  rw [checkDefinition_type_eq_nil_iff, partsKept_withEntities_iff object,
    and_iff_right (membersDistinct_withEntities object distinct free)]
  constructor
  · exact fun kept => kept.2.1
  · exact fun parts => ⟨usages, parts, checkField_entities scaffold emitted⟩

theorem checkDefinition_rewrittenType_iff {config : Config} {schema : SchemaDocument}
    {type : TypeDefinition} (emitted : emits config schema = true → entityUnion ∈ known.allNames)
    (distinct : MembersDistinct (cleanedType config schema type).body)
    (free : emits config schema = true → isQueryType schema type = true →
      ∀ field ∈ (cleanedType config schema type).body.fields, field.name ≠ entitiesField)
    (usages : UsagesKept known type.kind.location (cleanedType config schema type).directives) :
    checkDefinition known [] (.type (rewrittenType config schema type)) = [] ↔
      PartsKept known (cleanedType config schema type).body := by
  have sameKind : (cleanedType config schema type).kind = type.kind :=
    TypeBody.kind_mapUsages ..
  unfold rewrittenType
  split
  · next query =>
      rw [Bool.and_eq_true] at query
      have object := (isQueryType_iff.mp query.2).1
      rw [object] at usages
      exact checkDefinition_withEntities_iff scaffold (sameKind.trans object) (emitted query.1)
        distinct (free query.1 query.2) usages
  · rw [checkDefinition_type_eq_nil_iff, and_iff_right distinct, sameKind, and_iff_right usages]

theorem addedDirective_kept {directive : DirectiveDefinition}
    (member : directive ∈ [linkDirective (.named "String"), linkDirective (required "String"),
      keyDirective, shareableDirective]) :
    checkDefinition known [] (.directive directive) = [] := by
  have closed : ∀ directive ∈ [linkDirective (.named "String"), linkDirective (required "String"),
        keyDirective, shareableDirective],
      (directive.arguments.map (·.name)).Nodup ∧ ∀ argument ∈ directive.arguments,
        argument.directives.isEmpty = true ∧
        (argument.defaultValue.toList.flatMap checkValue).isEmpty = true ∧
        argument.type.baseName ∈
          ["link__Import", "link__Purpose", "_Any", "FieldSet"] ++ builtinTypeNames := by
    decide
  obtain ⟨distinct, bare⟩ := closed directive member
  exact checkDefinition_of_bare distinct bare scaffold.names

end

theorem addedType_kept {known : Known} {type : TypeDefinition}
    (member : type ∈ [linkImport, linkPurpose, describedLinkPurpose, scalarType anyScalar,
      scalarType fieldSetScalar]) :
    checkDefinition known [] (.type type) = [] := by
  revert type
  simp only [List.forall_mem_cons]
  exact ⟨rfl, rfl, rfl, rfl, rfl, nofun⟩

theorem unionOf_kept {known : Known} {names : List Name}
    (members : ∀ name ∈ names, name ∈ known.allNames) :
    checkDefinition known [] (.type (unionOf names)) = [] := by
  rw [checkDefinition_type_eq_nil_iff]
  refine ⟨⟨List.nodup_nil, List.nodup_nil, nofun⟩, UsagesKept.nil .., ?_⟩
  change [] ++ List.flatMap _ _ = []
  rw [List.nil_append, List.flatMap_eq_nil_iff]
  exact fun name member => checkTypeName_eq_nil_iff.mpr (members name member)

end FederationSplit.Federation
