import FederationSplit.Proofs.Federation.Replacing
import FederationSplit.Rules.Builtin

namespace FederationSplit.Federation

open FederationSplit.Syntax
open FederationSplit.Schema
open FederationSplit.Settings

def isUntouched (emitted : Bool) (query type : TypeDefinition) : Bool :=
  !(scaffoldNames emitted).contains type.name && !(emitted && type.name == query.name)

/-- What a schema keeps when its scaffold is added, and the directives that the scaffold defines. -/
structure KeepsRest (emitted : Bool) (query : TypeDefinition) (schema result : SchemaDocument) :
    Prop where
  rootTypes : result.rootTypes = schema.rootTypes
  schemaDirectives : result.schemaDirectives = schema.schemaDirectives
  names : result.types.map (·.name) = schema.types.map (·.name) ++
    (scaffoldNames emitted).filter (!(schema.types.map (·.name)).contains ·)
  types : result.types.filter (isUntouched emitted query) =
    schema.types.filter (isUntouched emitted query)
  queryRoot : emitted = true → ∃ fields,
    result.type? query.name = some { query with body := .object query.body.interfaces fields } ∧
      fields.filter (·.name != entitiesField) =
        query.body.fields.filter (·.name != entitiesField)
  directives : result.directives.filter (!isScaffoldDirective ·.name) =
    schema.directives.filter (!isScaffoldDirective ·.name)
  scaffoldDirectives : result.directives.filter (isScaffoldDirective ·.name) = scaffoldDirectives

/-- A scaffold that a schema has: its scalars and, with entities, their union and query field. -/
structure Scaffolded (emitted : Bool) (registry : EntityRegistry) (result : SchemaDocument) :
    Prop where
  any : (result.type? anyScalar).map (·.kind) = some .scalar
  fieldSet : (result.type? fieldSetScalar).map (·.kind) = some .scalar
  queryRoot : result.queryType?.isSome
  union : emitted = true →
    (result.type? entityUnion).map (·.body) = some (.union registry.names)
  members : emitted = true → Resolves result registry
  field : emitted = true → ∀ query, result.queryType? = some query →
    query.body.fields.filter (·.name == entitiesField) = [entitiesFieldDefinition]

/-- Neither the query root nor an entity has a name that the scaffold takes. -/
structure SparesRoots (emitted : Bool) (registry : EntityRegistry) (query : TypeDefinition) :
    Prop where
  queryRoot : query.name ∉ scaffoldNames emitted
  entities : emitted = true → ∀ name ∈ registry.names, name ∉ scaffoldNames true

section

variable {emitted : Bool} {registry : EntityRegistry} {query : TypeDefinition}
  {schema : SchemaDocument}

private theorem distinctNames_scaffoldTypes : DistinctNames (scaffoldTypes emitted registry) := by
  rw [DistinctNames, names_scaffoldTypes]
  cases emitted <;> decide

private theorem type?_replaced_root :
    (replaced true registry query schema).type? query.name = some (replacedQuery query) :=
  findType?_setType (replacedQuery query) _

private theorem type?_replaced_of_ne {name : Name} (other : emitted = true → query.name ≠ name) :
    (replaced emitted registry query schema).type? name =
      (findType? (scaffoldTypes emitted registry) name).or (schema.type? name) := by
  rw [SchemaDocument.type?, replaced, replacedTypes_eq_foldl, List.foldl_append]
  cases emitted with
  | false => exact findType?_foldl_setType distinctNames_scaffoldTypes
  | true =>
      have otherName : (replacedQuery query).name ≠ name := other rfl
      rw [if_pos rfl]
      exact (findType?_setType_of_ne otherName _).trans
        (findType?_foldl_setType distinctNames_scaffoldTypes)

private theorem type?_replaced_of_spared {name : Name} (spared : name ∉ scaffoldNames emitted)
    (other : emitted = true → query.name ≠ name) :
    (replaced emitted registry query schema).type? name = schema.type? name := by
  have missing : findType? (scaffoldTypes emitted registry) name = none := by
    rwa [findType?_eq_none_iff, names_scaffoldTypes]
  rw [type?_replaced_of_ne other, missing, Option.none_or]

end

theorem names_replacedTypes {emitted : Bool} {registry : EntityRegistry}
    {query : TypeDefinition} {types : List TypeDefinition} (member : query ∈ types) :
    (replacedTypes emitted registry query types).map (·.name) = types.map (·.name) ++
      (scaffoldNames emitted).filter (!(types.map (·.name)).contains ·) := by
  have scaffold : ((scaffoldTypes emitted registry).foldl
        (fun types definition => setType definition types) types).map (·.name) =
      types.map (·.name) ++ (scaffoldNames emitted).filter (!(types.map (·.name)).contains ·) := by
    rw [map_name_foldl_setType distinctNames_scaffoldTypes, names_scaffoldTypes]
  rw [replacedTypes_eq_foldl, List.foldl_append]
  cases emitted with
  | false => exact scaffold
  | true =>
      have present : (replacedQuery query).name ∈
          ((scaffoldTypes true registry).foldl (fun types definition => setType definition types)
            types).map (·.name) := by
        rw [scaffold]
        exact List.mem_append_left _ (List.mem_map_of_mem (f := (·.name)) member)
      rw [← scaffold]
      exact map_name_setType_of_mem present

private theorem filter_replacedTypes {emitted : Bool} {registry : EntityRegistry}
    {query : TypeDefinition} {types : List TypeDefinition} (distinct : DistinctNames types) :
    (replacedTypes emitted registry query types).filter (isUntouched emitted query) =
      types.filter (isUntouched emitted query) := by
  have touched : ∀ type ∈ scaffoldTypes emitted registry ++
      (if emitted then [replacedQuery query] else []), isUntouched emitted query type = false := by
    cases emitted <;>
      simp [scaffoldTypes, isUntouched, scaffoldNames, scalarType, unionOf, replacedQuery]
  rw [replacedTypes_eq_foldl, filter_foldl_setType distinct touched]
  apply List.filter_congr
  intro type _
  rw [List.map_append, names_scaffoldTypes]
  cases emitted <;> simp [isUntouched, replacedQuery]

private theorem keepsRest_replaced {emitted : Bool} {registry : EntityRegistry}
    {query : TypeDefinition} {schema : SchemaDocument} (distinct : DistinctNames schema.types)
    (found : schema.queryType? = some query) :
    KeepsRest emitted query schema (replaced emitted registry query schema) := by
  obtain ⟨-, typed, -⟩ := type?_of_queryType? found
  constructor
  case rootTypes => rfl
  case schemaDirectives => rfl
  case names => exact names_replacedTypes (mem_of_findType? typed).1
  case types => exact filter_replacedTypes distinct
  case queryRoot =>
      rintro rfl
      refine ⟨_, type?_replaced_root, ?_⟩
      rw [List.filter_append, List.filter_filter]
      simp [entitiesFieldDefinition]
  case directives =>
      rw [replaced, List.filter_append, List.filter_filter]
      simpa [isScaffoldDirective] using fun directive member => ⟨directive, member, rfl⟩
  case scaffoldDirectives =>
      rw [replaced, List.filter_append, List.filter_filter]
      simpa [isScaffoldDirective] using fun directive member => ⟨directive, member, rfl⟩

private theorem queryType?_isSome_iff {schema : SchemaDocument} {name : Name}
    (root : schema.rootTypes.query = some name) :
    schema.queryType?.isSome ↔ (schema.type? name).any (·.kind = .object) := by
  rw [SchemaDocument.queryType?, root, Option.bind_some]
  cases schema.type? name with
  | none => simp
  | some type => by_cases object : type.kind = .object <;> simp [object]

private theorem Scaffolded.not_object {emitted : Bool} {registry : EntityRegistry}
    {result : SchemaDocument} (stands : Scaffolded emitted registry result) {name : Name}
    (taken : name ∈ scaffoldNames emitted) :
    (result.type? name).any (·.kind = .object) = false := by
  have ofKind (kind : TypeKind) (other : kind ≠ .object)
      (typed : (result.type? name).map (·.kind) = some kind) :
      (result.type? name).any (·.kind = .object) = false := by
    obtain ⟨type, found, rfl⟩ := Option.map_eq_some_iff.mp typed
    rw [found]
    exact decide_eq_false other
  rcases List.mem_append.mp taken with scalar | union
  · rcases List.mem_pair.mp scalar with rfl | rfl
    · exact ofKind .scalar nofun stands.any
    · exact ofKind .scalar nofun stands.fieldSet
  · split at union
    · next emits =>
        obtain rfl := List.mem_singleton.mp union
        obtain ⟨type, found, body⟩ := Option.map_eq_some_iff.mp (stands.union emits)
        apply ofKind .union nofun
        rw [found, Option.map_some, TypeDefinition.kind, body]
        rfl
    · cases union

private theorem sparesRoots_of_scaffolded {emitted : Bool} {registry : EntityRegistry}
    {query : TypeDefinition} {result : SchemaDocument}
    (root : result.rootTypes.query = some query.name)
    (stands : Scaffolded emitted registry result) : SparesRoots emitted registry query := by
  constructor
  case queryRoot =>
      intro taken
      have object := (queryType?_isSome_iff root).mp stands.queryRoot
      rw [stands.not_object taken] at object
      cases object
  case entities =>
      rintro rfl name member taken
      have object := stands.members rfl name member
      rw [stands.not_object taken] at object
      cases object

private theorem scaffolded_replaced {emitted : Bool} {registry : EntityRegistry}
    {query : TypeDefinition} {schema : SchemaDocument} (found : schema.queryType? = some query)
    (resolves : Resolves schema registry) (spares : SparesRoots emitted registry query) :
    Scaffolded emitted registry (replaced emitted registry query schema) := by
  obtain ⟨root, typed, object⟩ := type?_of_queryType? found
  have other {name : Name} (taken : name ∈ scaffoldNames emitted) :
      emitted = true → query.name ≠ name := fun _ same => spares.queryRoot (same ▸ taken)
  have isObject : ((replaced emitted registry query schema).type? query.name).any
      (·.kind = .object) := by
    cases emitted with
    | false =>
        rw [type?_replaced_of_spared spares.queryRoot nofun, typed]
        exact decide_eq_true object
    | true =>
        rw [type?_replaced_root]
        rfl
  constructor
  case any =>
      rw [type?_replaced_of_ne (other (by cases emitted <;> decide))]
      cases emitted <;> rfl
  case fieldSet =>
      rw [type?_replaced_of_ne (other (by cases emitted <;> decide))]
      cases emitted <;> rfl
  case queryRoot =>
      have sameRoot : (replaced emitted registry query schema).rootTypes.query = some query.name :=
        root
      exact (queryType?_isSome_iff sameRoot).mpr isObject
  case union =>
      rintro rfl
      rw [type?_replaced_of_ne (other (by decide))]
      rfl
  case members =>
      rintro rfl name member
      by_cases same : query.name = name
      · exact same ▸ isObject
      · rw [type?_replaced_of_spared (spares.entities rfl name member) fun _ => same]
        exact resolves name member
  case field =>
      rintro rfl final finalFound
      obtain ⟨finalRoot, finalTyped, -⟩ := type?_of_queryType? finalFound
      obtain same : query.name = final.name := Option.some.inj (root.symm.trans finalRoot)
      rw [← same, type?_replaced_root] at finalTyped
      obtain rfl := Option.some.inj finalTyped
      change ((query.body.fields.filter (·.name != entitiesField)) ++
        [entitiesFieldDefinition]).filter (·.name == entitiesField) = _
      rw [List.filter_append, List.filter_filter]
      simp [entitiesFieldDefinition]

/--
A scaffold that is added leaves all else as it is. It stands if and only if neither the query root
nor an entity has one of its names, which only a policy that replaces collisions allows.
-/
theorem scaffolded_of_assemble {policy : ScaffoldPolicy} {registry : EntityRegistry}
    {schema result : SchemaDocument} (distinct : DistinctNames schema.types)
    (resolves : Resolves schema registry)
    (assembled : assemble policy registry schema = .ok result) :
    let emitted := emitsEntities policy.emptyEntity registry
    ∃ query, schema.queryType? = some query ∧ KeepsRest emitted query schema result ∧
      (Scaffolded emitted registry result ↔ SparesRoots emitted registry query) ∧
      (policy.collision = .error → Scaffolded emitted registry result) := by
  obtain ⟨query, found, rfl⟩ := eq_replaced_of_assemble assembled
  obtain ⟨root, typed, -⟩ := type?_of_queryType? found
  have stands_iff : Scaffolded _ registry (replaced _ registry query schema) ↔
      SparesRoots (emitsEntities policy.emptyEntity registry) registry query :=
    ⟨sparesRoots_of_scaffolded root, scaffolded_replaced found resolves⟩
  refine ⟨query, found, keepsRest_replaced distinct found, stands_iff, fun strict => ?_⟩
  obtain ⟨-, -, unclaimed⟩ := unclaimed_of_assemble strict distinct resolves assembled
  rw [stands_iff]
  constructor
  case queryRoot =>
      intro taken
      apply unclaimed.fresh taken
      exact findType?_isSome_iff.mp (Option.isSome_of_eq_some typed)
  case entities =>
      intro emits name member taken
      rw [← emits] at taken
      apply unclaimed.fresh taken
      exact findType?_isSome_iff.mp (Option.isSome_of_any (resolves name member))

def anyCupsSchema : SchemaDocument where
  types :=
    [Rules.plainObject "Query" [Rules.plainField "cups" (.named "Cup")],
      Rules.plainObject "Cup" [Rules.plainField "id" (.named "ID")],
      Rules.plainObject anyScalar [Rules.plainField "id" (.named "ID")]]
  directives := []
  schemaDirectives := []
  rootTypes := { query := some "Query", mutation := none, subscription := none }

/-- The scaffold stands if the cups are the entity, and does not if the other type is one too. -/
theorem scaffolded_anyCupsSchema :
    ∃ first second,
      assemble ⟨.replace, .omit⟩ ⟨["Cup"]⟩ anyCupsSchema = .ok first ∧
      assemble ⟨.replace, .omit⟩ ⟨["Cup", anyScalar]⟩ anyCupsSchema = .ok second ∧
      Scaffolded true ⟨["Cup"]⟩ first ∧ ¬Scaffolded true ⟨["Cup", anyScalar]⟩ second := by
  have distinct : DistinctNames anyCupsSchema.types := by
    unfold DistinctNames
    decide
  have firstResolves : Resolves anyCupsSchema ⟨["Cup"]⟩ := by
    unfold Resolves
    decide
  have secondResolves : Resolves anyCupsSchema ⟨["Cup", anyScalar]⟩ := by
    unfold Resolves
    decide
  obtain ⟨first, firstAssembled⟩ :
      ∃ first, assemble ⟨.replace, .omit⟩ ⟨["Cup"]⟩ anyCupsSchema = .ok first := ⟨_, rfl⟩
  obtain ⟨second, secondAssembled⟩ :
      ∃ second, assemble ⟨.replace, .omit⟩ ⟨["Cup", anyScalar]⟩ anyCupsSchema = .ok second :=
    ⟨_, rfl⟩
  refine ⟨first, second, firstAssembled, secondAssembled, ?_, ?_⟩
  · obtain ⟨query, found, -, stands, -⟩ :=
      scaffolded_of_assemble distinct firstResolves firstAssembled
    obtain rfl := Option.some.inj found
    exact stands.mpr ⟨by decide, by decide⟩
  · obtain ⟨query, -, -, stands, -⟩ :=
      scaffolded_of_assemble distinct secondResolves secondAssembled
    intro scaffolded
    exact (stands.mp scaffolded).entities rfl anyScalar (by decide) (by decide)

end FederationSplit.Federation
