import FederationSplit.Proofs.Federation.KeySelections
import FederationSplit.Proofs.Federation.Resplitting
import FederationSplit.Proofs.Schema.Gathering

namespace FederationSplit.Federation

open FederationSplit.Syntax
open FederationSplit.Schema
open FederationSplit.Rules
open FederationSplit.Settings
open FederationSplit.TypeSystem

/-- A type is of the kind of another one and has its fields, none of them with more arguments. -/
structure Covers (type other : TypeDefinition) : Prop where
  kind : type.kind = other.kind
  fields {name : Name} {field : FieldDefinition} (found : fieldOf? other name = some field) :
    ∃ own, fieldOf? type name = some own ∧ own.type = field.type ∧
      (field.arguments = [] → own.arguments = [])

theorem Covers.refl (type : TypeDefinition) : Covers type type where
  kind := rfl
  fields found := ⟨_, found, rfl, id⟩

theorem covers_of_fields {type other : TypeDefinition} (kind : type.kind = other.kind)
    (change : List DirectiveUsage → List DirectiveUsage) (more : List FieldDefinition)
    (fields : type.body.fields =
      other.body.fields.map (FieldDefinition.mapUsages change) ++ more) : Covers type other where
  kind := kind
  fields {name field} found := by
    refine ⟨field.mapUsages change, ?_, rfl, fun plain => ?_⟩
    · rw [fieldOf?] at found
      rw [fieldOf?, fields, List.find?_append, List.find?_map]
      change Option.or (Option.map _ (other.body.fields.find? (·.name == name))) _ = _
      rw [found]
      rfl
    · rw [FieldDefinition.mapUsages, plain]
      rfl

theorem covers_of_fieldless {type other : TypeDefinition} (kind : type.kind = other.kind)
    (fields : other.body.fields = []) : Covers type other where
  kind := kind
  fields found := by
    rw [fieldOf?, fields] at found
    cases found

theorem IsKeySelection.covered {declarations others : Declarations}
    (covers : ∀ name type, declarations.type? name = some type →
      ∃ other, others.type? name = some other ∧ Covers other type)
    {parent : TypeDefinition} {selection : Selection}
    (isKey : IsKeySelection declarations parent selection) {other : TypeDefinition}
    (covered : Covers other parent) : IsKeySelection others other selection := by
  have plainField {parent other type : TypeDefinition} {name : Name}
      (covered : Covers other parent) (has : HasPlainField declarations parent name type) :
      ∃ typeOther, HasPlainField others other name typeOther ∧ Covers typeOther type := by
    obtain ⟨field, found, plain, typed⟩ := has
    obtain ⟨own, ownFound, sameType, ownPlain⟩ := covered.fields found
    obtain ⟨typeOther, typedOther, coversType⟩ := covers _ _ typed
    exact ⟨typeOther, ⟨own, ownFound, ownPlain plain, sameType ▸ typedOther⟩, coversType⟩
  induction isKey generalizing other with
  | leaf has isLeaf =>
      obtain ⟨_, hasOther, coversType⟩ := plainField covered has
      exact .leaf hasOther (by rwa [IsLeaf, coversType.kind])
  | composite has isComposite selects _ induction =>
      obtain ⟨_, hasOther, coversType⟩ := plainField covered has
      exact .composite hasOther (by rwa [IsComposite, coversType.kind]) selects
        fun selection member => induction selection member coversType

def declarationsOf (schema : SchemaDocument) : Declarations where
  types := schema.types
  directives := schema.directives
  rootTypes := schema.rootTypes

theorem findType?_map {change : TypeDefinition → TypeDefinition}
    (sameName : ∀ type, (change type).name = type.name) (types : List TypeDefinition)
    (name : Name) : findType? (types.map change) name = (findType? types name).map change := by
  have same : (fun type : TypeDefinition => type.name == name) ∘ change = (·.name == name) := by
    funext type
    exact congrArg (· == name) (sameName type)
  rw [findType?, List.find?_map, same]
  rfl

theorem covers_of_mapUsages {type other : TypeDefinition}
    (change : List DirectiveUsage → List DirectiveUsage)
    (body : type.body = other.body.mapUsages change) : Covers type other := by
  have kind := (congrArg TypeBody.kind body).trans (TypeBody.kind_mapUsages ..)
  refine covers_of_fields kind change [] ?_
  rw [body, TypeBody.fields_mapUsages, List.append_nil]

theorem covers_splitType (config : Config) (document : Document) (type : TypeDefinition) :
    Covers (splitType config document type)
      (servedType (serviceDefinitions document).rootTypes.query type) := by
  by_cases object : type.kind = .object
  · have split := splitType_of_object config document object
    rw [splitObjectBody] at split
    by_cases root : (serviceDefinitions document).rootTypes.query = some type.name
    · refine covers_of_fields
        ((kind_splitType config document type).trans (kind_servedType _ type).symm)
        withoutFederationUsages
        (if splitEmits config document then [entitiesFieldDefinition] else []) ?_
      rw [split, if_pos root, body_servedType_of_query object root, splitQueryBody]
      change _ = (type.body.fields.filter _).map _ ++ _
      rw [filter_mapUsages, ← TypeBody.fields_mapUsages]
      rfl
    · rw [if_neg root] at split
      apply covers_of_mapUsages withoutFederationUsages
      rw [split, body_servedType_of_other (.inr root)]
  · apply covers_of_mapUsages withoutFederationUsages
    rw [splitType_of_other config document object, body_servedType_of_other (.inl object)]

private theorem like_serviceTypes (config : Config) (document : Document) :
    ∀ type ∈ serviceTypes, ∃ other,
      findType? (addedTypes config document) type.name = some other ∧ Covers other type := by
  intro type member
  simp only [serviceTypes, List.mem_cons, List.not_mem_nil, or_false] at member
  rcases member with rfl | rfl | rfl <;> exact ⟨_, rfl, covers_of_fieldless rfl rfl⟩

theorem type?_splitService {config : Config} {document : Document} {name : Name}
    {type : TypeDefinition}
    (found : (validationDeclarations (serviceDefinitions document)).type? name = some type) :
    ∃ other, (declarationsOf (splitService config document)).type? name = some other ∧
      Covers other type := by
  unfold Declarations.type? at found ⊢
  cases builtin : findType? builtinTypes name with
  | some _ =>
      rw [builtin] at found
      exact ⟨type, found, .refl type⟩
  | none =>
      rw [builtin] at found
      dsimp only [Option.orElse_eq_orElse, Option.orElse_none] at found ⊢
      rw [validationDeclarations, findType?_append, serviceDefinitions_types] at found
      rw [declarationsOf, splitService_types, findType?_append]
      rw [findType?_map (name_servedType _)] at found
      rw [findType?_map (name_splitType config document)]
      change Option.or (Option.map _ (findType? (ownTypes document) name)) _ = _ at found
      cases own : findType? (ownTypes document) name with
      | some original =>
          rw [own] at found
          cases found
          exact ⟨_, rfl, covers_splitType config document original⟩
      | none =>
          rw [own] at found
          obtain ⟨member, rfl⟩ := mem_of_findType? found
          exact like_serviceTypes config document type (List.mem_of_mem_filter member)

theorem hasType_of_mem {declarations : Declarations} {type : TypeDefinition}
    (declared : type ∈ declarations.types) : declarations.hasType type.name = true := by
  have named : declarations.types.any (·.name == type.name) = true :=
    List.any_eq_true.mpr ⟨type, declared, beq_self_eq_true type.name⟩
  rw [Declarations.hasType, named]
  rfl

theorem exists_type? {declarations : Declarations} {type : TypeDefinition}
    (declared : type ∈ declarations.types) :
    ∃ found, declarations.type? type.name = some found := by
  unfold Declarations.type?
  cases findType? builtinTypes type.name with
  | some builtin => exact ⟨builtin, rfl⟩
  | none =>
      exact Option.isSome_iff_exists.mp
        (findType?_isSome_iff.mpr (List.mem_map_of_mem declared))

theorem eq_of_type? {declarations : Declarations} (distinct : DistinctNames declarations.types)
    {type found : TypeDefinition} (declared : type ∈ declarations.types)
    (means : declarations.type? type.name = some found)
    (other : isBuiltinType type.name = false) : found = type := by
  have unbuilt : findType? builtinTypes type.name = none := by
    rw [findType?_eq_none_iff, List.mem_map]
    rintro ⟨builtin, member, named⟩
    rw [isBuiltinType, List.any_eq_false] at other
    exact other builtin member (beq_iff_eq.mpr named)
  rw [Declarations.type?, unbuilt] at means
  exact Option.some.inj (means.symm.trans
    ((findType?_eq_some_iff distinct).mpr ⟨declared, rfl⟩))

theorem isKey_of_keyProblems {declarations : Declarations} {schema : ResolvedSchema}
    (resolved : resolve declarations = .ok schema) {name : Name} {parent : TypeDefinition}
    (present : declarations.hasType name = true) (found : declarations.type? name = some parent)
    (text : String) :
    ∃ problems, keyProblems declarations name text = .ok problems ∧
      (problems = [] → ∃ selections, parseFieldSet text = .ok selections ∧
        IsKey declarations parent selections) := by
  have closed : ∀ name type, declarations.type? name = some type → GivesOut declarations type :=
    fun _ _ => isOutputType_of_resolve resolved
  unfold keyProblems
  cases parseFieldSet text with
  | error error => exact ⟨_, rfl, nofun⟩
  | ok selections =>
      simp only [found, Option.filter_some, present, if_true]
      refine ⟨_, rfl, fun none => ⟨selections, rfl, ?_⟩⟩
      rw [List.map_eq_nil_iff] at none
      exact (selectionSetProblems_eq_nil_iff closed (closed _ _ found) selections).mp none

theorem isKey_of_clean {definitions : Definitions} (served : Served definitions)
    (clean : compositionProblems definitions = []) {type : TypeDefinition}
    (member : type ∈ definitions.types) (object : type.kind = .object) {key : DirectiveUsage}
    (used : key ∈ usagesOf "key" type.directives) :
    ∃ argument literal selections parent, key.argument? "fields" = some argument ∧
      argument.value = .string literal ∧ parseFieldSet literal.text = .ok selections ∧
      (validationDeclarations definitions).type? type.name = some parent ∧
      IsKey (validationDeclarations definitions) parent selections := by
  obtain ⟨checked, ⟨schema, resolved, -⟩, -⟩ := compositionProblems_eq_nil clean
  obtain ⟨argument, stated⟩ := Option.isSome_iff_exists.mp
    (key_states_fields served (accepted_of_check checked) member used)
  have sound := (compositionProblems_eq_nil_iff.mp clean).2.2.2.2 type member
  rw [typeKeyProblems, object, List.flatMap_eq_nil_iff] at sound
  have usageSound := sound key used
  rw [keyUsageProblems, stated] at usageSound
  dsimp only at usageSound
  have declared : type ∈ (validationDeclarations definitions).types :=
    List.mem_append_left _ member
  have present := hasType_of_mem declared
  obtain ⟨parent, found⟩ := exists_type? declared
  split at usageSound
  · next literal text =>
      obtain ⟨problems, reported, accepted⟩ :=
        isKey_of_keyProblems resolved present found literal.text
      rw [reported] at usageSound
      dsimp only at usageSound
      obtain ⟨selections, parsed, isKey⟩ := accepted (List.map_eq_nil_iff.mp usageSound)
      exact ⟨argument, literal, selections, parent, stated, text, parsed, found, isKey⟩
  · cases usageSound

private theorem directives_of_added {config : Config} {document : Document} {type : TypeDefinition}
    (added : type ∈ addedTypes config document) : type.directives = [] := by
  have bare : ∀ type ∈ [linkImport, describedLinkPurpose, scalarType anyScalar,
      scalarType fieldSetScalar], type.directives = [] := by
    decide
  rcases List.mem_append.mp added with scaffold | entity
  · exact bare type scaffold
  · split at entity
    · rw [List.mem_singleton.mp entity]
      rfl
    · cases entity

theorem key_of_splitType {config : Config} {document : Document} {type : TypeDefinition}
    {usage : DirectiveUsage} (used : usage ∈ (splitType config document type).directives)
    (named : usage.name = "key") :
    type.kind = .object ∧ ∃ key ∈ usagesOf "key" type.directives, usage = splitKey key := by
  have notOwn : usage ∉ withoutFederationUsages type.directives := by
    intro own
    have kept := (List.mem_filter.mp own).2
    rw [named] at kept
    revert kept
    decide
  by_cases object : type.kind = .object
  · refine ⟨object, ?_⟩
    rw [splitType_of_object config document object] at used
    dsimp only [splitObjectUsages] at used
    split at used
    · cases used
    · have back := (List.mem_append.mp used).resolve_left notOwn
      unfold splitUsages at back
      split at back
      · have shared : shareableUsage.name ≠ "key" := by decide
        exact absurd (List.mem_singleton.mp back ▸ named) shared
      · next keys =>
          rw [List.mem_singleton.mp back, keys]
          exact ⟨_, List.mem_cons_self, rfl⟩
      · obtain ⟨key, member, same⟩ := List.mem_map.mp back
        exact ⟨key, member, same.symm⟩
  · rw [splitType_of_other config document object] at used
    exact absurd used notOwn

theorem argument?_splitKey {key : DirectiveUsage} {argument : Argument}
    (stated : key.argument? "fields" = some argument) :
    (splitKey key).argument? "fields" = some (Argument.of "fields" argument.value) := by
  rw [splitKey, stated]
  rfl

/--
Every key of the subgraph of a service is a text that selects fields of the type it stands on. The
fields take no arguments, and lead through object types and interfaces to scalars and enumerations.
-/
theorem keys_of_transform {config : Config} {service : String} {document : Document}
    {schema result : SchemaDocument} (composed : compose service document = .ok schema)
    (plain : PlainNames (fold document)) (transformed : transform config schema = .ok result) :
    ∀ type ∈ result.types, ∀ usage ∈ type.directives, usage.name = "key" →
      ∃ argument literal selections parent, usage.argument? "fields" = some argument ∧
        argument.value = .string literal ∧ parseFieldSet literal.text = .ok selections ∧
        (declarationsOf result).type? type.name = some parent ∧
        (isBuiltinType type.name = false → parent = type) ∧
        IsKey (declarationsOf result) parent selections := by
  obtain ⟨clean, rfl⟩ := compose_ok_iff.mp composed
  have accepted := accepted_of_check (compositionProblems_eq_nil clean).1
  rw [transform_supergraph_of_plain accepted plain (rooted_of_transform transformed)]
    at transformed
  split at transformed
  · cases transformed
  obtain rfl := Except.ok.inj transformed
  intro type member usage used named
  have declared := member
  rw [splitService_types] at member
  rcases List.mem_append.mp member with own | added
  · obtain ⟨original, originalMember, rfl⟩ := List.mem_map.mp own
    obtain ⟨object, key, keyUsed, rfl⟩ := key_of_splitType used named
    have servedMember : servedType (serviceDefinitions document).rootTypes.query original ∈
        (serviceDefinitions document).types := by
      rw [serviceDefinitions_types]
      exact List.mem_map_of_mem originalMember
    obtain ⟨argument, literal, selections, parent, stated, text, parsed, found, isKey⟩ :=
      isKey_of_clean (served_serviceDefinitions document) clean servedMember
        ((kind_servedType ..).trans object) (by rwa [directives_servedType])
    obtain ⟨other, foundOther, covers⟩ := type?_splitService found
    rw [name_servedType, ← name_splitType config document original] at foundOther
    refine ⟨_, literal, selections, other, argument?_splitKey stated, text, parsed, foundOther,
      fun notBuiltin => ?_, fun selection selected => ?_⟩
    · exact eq_of_type? (distinctNames_splitService config document) declared foundOther notBuiltin
    · exact (isKey selection selected).covered (fun _ _ => type?_splitService) covers
  · rw [directives_of_added added] at used
    cases used

private theorem split_of_checks {document : Document}
    (clean : (compositionProblems (serviceDefinitions document)).isEmpty = true)
    (plain : PlainNames (fold document))
    (rooted : ∃ query ∈ (serviceDefinitions document).types, query.kind = .object ∧
      (serviceDefinitions document).rootTypes.query = some query.name)
    (keyed : keyedNames document ≠ []) :
    compose "cups" document = .ok (supergraph "cups" (serviceDefinitions document)) ∧
      transform Config.default (supergraph "cups" (serviceDefinitions document)) =
        .ok (splitService Config.default document) := by
  rw [List.isEmpty_iff] at clean
  refine ⟨compose_ok_iff.mpr ⟨clean, rfl⟩, ?_⟩
  rw [transform_supergraph_of_plain (accepted_of_check (compositionProblems_eq_nil clean).1) plain
    rooted]
  exact if_neg fun lacking => keyed lacking.2

def makersService : Document where
  definitions :=
    [.type (plainObject "Query" [plainField "cup" (.named "Cup")]),
      .type {
        plainObject "Cup"
          [plainField "id" (required "ID"), plainField "maker" (.named "Maker")] with
        directives :=
          [DirectiveUsage.of "key"
            [Argument.of "fields" (.text "id maker \x7b name \x7d")]] },
      .type (plainObject "Maker" [plainField "name" (.named "String")])]

theorem keys_of_transform_makersService :
    ∃ schema result, compose "cups" makersService = .ok schema ∧
      PlainNames (fold makersService) ∧ transform Config.default schema = .ok result ∧
      ∃ type ∈ result.types, ∃ usage ∈ type.directives, usage.name = "key" ∧
        ∃ argument literal selections parent, usage.argument? "fields" = some argument ∧
          argument.value = .string literal ∧ parseFieldSet literal.text = .ok selections ∧
          (declarationsOf result).type? type.name = some parent ∧
          (isBuiltinType type.name = false → parent = type) ∧
          IsKey (declarationsOf result) parent selections := by
  have plain : PlainNames (fold makersService) :=
    { types := by decide
      usages := by decide
      directives := by decide }
  obtain ⟨composed, transformed⟩ := split_of_checks (by decide +kernel) plain (by decide)
    (by decide)
  have keyed : ((splitService Config.default makersService).types.any fun type =>
      type.directives.any (·.name == "key")) = true := by
    decide
  obtain ⟨type, member, hasKey⟩ := List.any_eq_true.mp keyed
  obtain ⟨usage, used, isKey⟩ := List.any_eq_true.mp hasKey
  have named : usage.name = "key" := beq_iff_eq.mp isKey
  exact ⟨_, _, composed, plain, transformed, type, member, usage, used, named,
    keys_of_transform composed plain transformed type member usage used named⟩

/-- A service that declares a type with the name of a built-in one, which replaces it. -/
def replacedService : Document where
  definitions :=
    [.type (plainObject "Query" [plainField "cup" (.named "Int")]),
      .type {
        plainObject "__Schema" [plainField "size" (.named "Int")] with
        directives :=
          [DirectiveUsage.of "key" [Argument.of "fields" (.text "description")]] }]

private def isText (text : String) : Value → Bool
  | .string literal => literal.text == text
  | _ => false

private theorem eq_string_of_isText {text : String} {value : Value}
    (textual : isText text value = true) :
    ∃ literal, value = .string literal ∧ literal.text = text := by
  unfold isText at textual
  split at textual
  · next literal => exact ⟨literal, rfl, beq_iff_eq.mp textual⟩
  · cases textual

/-- A key is checked on the built-in type of a name, and comes back on the declared one. -/
theorem key_of_replaced_type :
    ∃ schema result, compose "cups" replacedService = .ok schema ∧
      PlainNames (fold replacedService) ∧ transform Config.default schema = .ok result ∧
      ∃ type ∈ result.types, ∃ usage ∈ type.directives, usage.name = "key" ∧
        (∃ argument literal, usage.argument? "fields" = some argument ∧
          argument.value = .string literal ∧
          parseFieldSet literal.text = .ok [.field none "description" [] [] []]) ∧
        fieldOf? type "description" = none := by
  have plain : PlainNames (fold replacedService) :=
    { types := by decide
      usages := by decide
      directives := by decide }
  obtain ⟨composed, transformed⟩ := split_of_checks (by decide +kernel) plain (by decide)
    (by decide)
  have parsed : parseFieldSet "description" = .ok [.field none "description" [] [] []] := by
    decide +kernel
  have keyed : ((splitService Config.default replacedService).types.any fun type =>
      (fieldOf? type "description").isNone && type.directives.any fun usage =>
        usage.name == "key" && (usage.argument? "fields").any (isText "description" ·.value)) =
      true := by
    decide
  obtain ⟨type, member, typeKeyed⟩ := List.any_eq_true.mp keyed
  rw [Bool.and_eq_true, Option.isNone_iff_eq_none, List.any_eq_true] at typeKeyed
  obtain ⟨missing, usage, used, isKey⟩ := typeKeyed
  rw [Bool.and_eq_true, beq_iff_eq] at isKey
  obtain ⟨named, states⟩ := isKey
  obtain ⟨argument, stated, textual⟩ := (Option.any_eq_true ..).mp states
  obtain ⟨literal, isLiteral, text⟩ := eq_string_of_isText textual
  exact ⟨_, _, composed, plain, transformed, type, member, usage, used, named,
    ⟨argument, literal, stated, isLiteral, (congrArg parseFieldSet text).trans parsed⟩, missing⟩

end FederationSplit.Federation
