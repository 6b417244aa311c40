import FederationSplit.Federation.Scaffold
import FederationSplit.Proofs.Schema.TypeNames

namespace FederationSplit.Federation

open FederationSplit.Syntax
open FederationSplit.Schema
open FederationSplit.Settings

theorem bind_ok_iff {ε α β : Type} {action : Except ε α} {next : α → Except ε β} {result : β} :
    (action >>= next) = .ok result ↔ ∃ value, action = .ok value ∧ next value = .ok result := by
  cases action with
  | error error => simp [bind, Except.bind]
  | ok value => simp [bind, Except.bind]

theorem bind_error_iff {ε α β : Type} {action : Except ε α} {next : α → Except ε β} {error : ε} :
    (action >>= next) = .error error ↔
      action = .error error ∨ ∃ value, action = .ok value ∧ next value = .error error := by
  cases action with
  | error found => simp [bind, Except.bind]
  | ok value => simp [bind, Except.bind]

theorem refuse_free (policy : CollisionPolicy) (kind : DeclarationKind) (name : Name) :
    refuse policy kind name false = .ok () := rfl

theorem eq_false_of_refuse {kind : DeclarationKind} {name : Name} {isTaken : Bool}
    (allowed : refuse .error kind name isTaken = .ok ()) : isTaken = false := by
  cases isTaken with
  | false => rfl
  | true => simp [refuse] at allowed

def ScaffoldError.IsCollision (error : ScaffoldError) : Prop :=
  ∃ kind name, error = .nameTaken kind name

theorem isCollision_of_refuse {policy : CollisionPolicy} {kind : DeclarationKind} {name : Name}
    {isTaken : Bool} {error : ScaffoldError}
    (refused : refuse policy kind name isTaken = .error error) : error.IsCollision := by
  unfold refuse at refused
  split at refused
  · exact ⟨kind, name, (Except.error.inj refused).symm⟩
  · cases refused

theorem addType_of_fresh (policy : CollisionPolicy) {types : List TypeDefinition}
    {type : TypeDefinition} (fresh : type.name ∉ types.map (·.name)) :
    addType policy types type = .ok (types ++ [type]) := by
  have missing : (findType? types type.name).isSome = false := by
    rw [findType?_eq_none_iff.mpr fresh]
    rfl
  rw [addType, missing, refuse_free, setType_of_notMem fresh]
  rfl

theorem addType_error_ok {types result : List TypeDefinition} {type : TypeDefinition}
    (added : addType .error types type = .ok result) :
    type.name ∉ types.map (·.name) ∧ result = types ++ [type] := by
  obtain ⟨_, allowed, _⟩ := bind_ok_iff.mp added
  have fresh : type.name ∉ types.map (·.name) := by
    rw [← findType?_isSome_iff, eq_false_of_refuse allowed]
    exact Bool.false_ne_true
  refine ⟨fresh, ?_⟩
  rw [addType_of_fresh .error fresh] at added
  exact (Except.ok.inj added).symm

theorem isCollision_of_addType {policy : CollisionPolicy} {types : List TypeDefinition}
    {type : TypeDefinition} {error : ScaffoldError}
    (failed : addType policy types type = .error error) : error.IsCollision := by
  rcases bind_error_iff.mp failed with refused | ⟨_, _, done⟩
  · exact isCollision_of_refuse refused
  · cases done

def unionOf (names : List Name) : TypeDefinition where
  description := none
  name := entityUnion
  directives := []
  body := .union names

/-- All registered entities are object types of a schema. -/
def Resolves (schema : SchemaDocument) (registry : EntityRegistry) : Prop :=
  ∀ name ∈ registry.names, (schema.type? name).any (·.kind = .object)

private theorem mapM_resolved {schema : SchemaDocument} {names : List Name}
    (resolves : ∀ name ∈ names, (schema.type? name).any (·.kind = .object)) :
    (names.mapM fun name =>
      if (schema.type? name).any (·.kind = .object) then (pure name : Except ScaffoldError Name)
      else throw (.entityUnresolved name)) = .ok names := by
  induction names with
  | nil => rfl
  | cons name rest induction =>
      have restDone := induction fun other member => resolves other (List.mem_cons_of_mem _ member)
      rw [List.mapM_cons, if_pos (resolves name List.mem_cons_self), restDone]
      rfl

theorem entityUnionType_of_resolves {schema : SchemaDocument} {registry : EntityRegistry}
    (resolves : Resolves schema registry) :
    entityUnionType schema registry = .ok (unionOf registry.names) := by
  rw [entityUnionType, mapM_resolved resolves]
  rfl

def withEntities (type : TypeDefinition) : TypeDefinition :=
  { type with
    body := .object type.body.interfaces (type.body.fields ++ [entitiesFieldDefinition]) }

theorem withEntitiesField_of_free (policy : CollisionPolicy) {query : TypeDefinition}
    (free : ∀ field ∈ query.body.fields, field.name ≠ entitiesField) :
    withEntitiesField policy query = .ok (withEntities query) := by
  have untaken : query.body.fields.any (·.name == entitiesField) = false := by
    rw [List.any_eq_false]
    intro field member
    simpa using free field member
  have kept : query.body.fields.filter (·.name != entitiesField) = query.body.fields := by
    rw [List.filter_eq_self]
    intro field member
    simpa using free field member
  rw [withEntitiesField, untaken, refuse_free, kept]
  rfl

theorem free_of_withEntitiesField {query result : TypeDefinition}
    (done : withEntitiesField .error query = .ok result) :
    ∀ field ∈ query.body.fields, field.name ≠ entitiesField := by
  obtain ⟨_, allowed, _⟩ := bind_ok_iff.mp done
  intro field member named
  have untaken := List.any_eq_false.mp (eq_false_of_refuse allowed) field member
  simp [named] at untaken

theorem isCollision_of_withEntitiesField {policy : CollisionPolicy} {query : TypeDefinition}
    {error : ScaffoldError} (failed : withEntitiesField policy query = .error error) :
    error.IsCollision := by
  rcases bind_error_iff.mp failed with refused | ⟨_, _, done⟩
  · exact isCollision_of_refuse refused
  · cases done

def isScaffoldDirective (name : Name) : Bool :=
  scaffoldDirectives.any (·.name == name)

theorem isScaffoldDirective_iff {name : Name} :
    isScaffoldDirective name = true ↔ name = "key" ∨ name = "shareable" := by
  change ("key" == name || ("shareable" == name || false)) = true ↔ _
  simp only [Bool.or_eq_true, Bool.or_false, beq_iff_eq, eq_comm (a := name)]

theorem withScaffoldDirectives_of_free (policy : CollisionPolicy)
    {directives : List DirectiveDefinition}
    (free : ∀ directive ∈ directives, isScaffoldDirective directive.name = false) :
    withScaffoldDirectives policy directives = .ok (directives ++ scaffoldDirectives) := by
  have allowed : (directives.forM fun directive =>
      refuse policy .directive directive.name (isScaffoldDirective directive.name)) = .ok () := by
    induction directives with
    | nil => rfl
    | cons directive rest induction =>
        have restAllowed := induction fun other member =>
          free other (List.mem_cons_of_mem _ member)
        change (refuse policy .directive directive.name (isScaffoldDirective directive.name) >>=
          fun _ => rest.forM _) = _
        rw [free directive List.mem_cons_self]
        exact restAllowed
  have kept : directives.filter (!isScaffoldDirective ·.name) = directives := by
    rw [List.filter_eq_self]
    intro directive member
    rw [free directive member]
    rfl
  change ((directives.forM fun directive =>
      refuse policy .directive directive.name (isScaffoldDirective directive.name)) >>= fun _ =>
    pure (directives.filter (!isScaffoldDirective ·.name) ++ scaffoldDirectives)) = _
  rw [allowed, kept]
  rfl

theorem free_of_withScaffoldDirectives {directives result : List DirectiveDefinition}
    (done : withScaffoldDirectives .error directives = .ok result) :
    ∀ directive ∈ directives, isScaffoldDirective directive.name = false := by
  obtain ⟨_, allowed, -⟩ := bind_ok_iff.mp done
  clear done
  induction directives with
  | nil => simp
  | cons directive rest induction =>
      obtain ⟨_, headAllowed, restAllowed⟩ := bind_ok_iff.mp allowed
      intro other member
      rcases List.mem_cons.mp member with rfl | restMember
      · exact eq_false_of_refuse headAllowed
      · exact induction restAllowed other restMember

theorem isCollision_of_withScaffoldDirectives {policy : CollisionPolicy}
    {directives : List DirectiveDefinition} {error : ScaffoldError}
    (failed : withScaffoldDirectives policy directives = .error error) :
    error.IsCollision := by
  rcases bind_error_iff.mp failed with refused | ⟨_, _, done⟩
  · clear failed
    induction directives with
    | nil => cases refused
    | cons directive rest induction =>
        rcases bind_error_iff.mp refused with headRefused | ⟨_, _, restRefused⟩
        · exact isCollision_of_refuse headRefused
        · exact induction restRefused
  · cases done

/-! ### The whole scaffold -/

def isQueryType (schema : SchemaDocument) (type : TypeDefinition) : Bool :=
  type.kind = .object && schema.rootTypes.query == some type.name

theorem isQueryType_iff {schema : SchemaDocument} {type : TypeDefinition} :
    isQueryType schema type = true ↔
      type.kind = .object ∧ schema.rootTypes.query = some type.name := by
  rw [isQueryType, Bool.and_eq_true, decide_eq_true_eq, beq_iff_eq]

theorem queryType?_eq_some_iff {schema : SchemaDocument} (distinct : DistinctNames schema.types)
    {query : TypeDefinition} :
    schema.queryType? = some query ↔ query ∈ schema.types ∧ isQueryType schema query = true := by
  simp only [SchemaDocument.queryType?, Option.filter_eq_some_iff, Option.bind_eq_some_iff,
    SchemaDocument.type?, findType?_eq_some_iff distinct, isQueryType_iff, decide_eq_true_eq]
  constructor
  · rintro ⟨⟨name, root, member, rfl⟩, kind⟩
    exact ⟨member, kind, root⟩
  · rintro ⟨member, kind, root⟩
    exact ⟨⟨query.name, root, member, rfl⟩, kind⟩

def scaffoldTypes (emits : Bool) (registry : EntityRegistry) : List TypeDefinition :=
  [scalarType anyScalar, scalarType fieldSetScalar] ++
    if emits then [unionOf registry.names] else []

def scaffoldNames (emits : Bool) : List Name :=
  [anyScalar, fieldSetScalar] ++ if emits then [entityUnion] else []

theorem names_scaffoldTypes (emits : Bool) (registry : EntityRegistry) :
    (scaffoldTypes emits registry).map (·.name) = scaffoldNames emits := by
  cases emits <;> rfl

/-- The type that stands for a type of a schema in its scaffold. -/
def scaffoldedType (emits : Bool) (schema : SchemaDocument) (type : TypeDefinition) :
    TypeDefinition :=
  if emits && isQueryType schema type then withEntities type else type

theorem scaffoldedType_of_not_isQueryType {schema : SchemaDocument} {type : TypeDefinition}
    (other : isQueryType schema type = false) (emits : Bool) :
    scaffoldedType emits schema type = type := by
  rw [scaffoldedType, other, Bool.and_false]
  exact if_neg Bool.false_ne_true

@[simp] theorem scaffoldedType_false (schema : SchemaDocument) :
    scaffoldedType false schema = id := rfl

theorem name_scaffoldedType (emits : Bool) (schema : SchemaDocument) (type : TypeDefinition) :
    (scaffoldedType emits schema type).name = type.name := by
  unfold scaffoldedType
  split <;> rfl

/-- A schema with its scaffold. Only the query root is changed, and only if entities are emitted. -/
def scaffolded (emits : Bool) (registry : EntityRegistry) (schema : SchemaDocument) :
    SchemaDocument :=
  { schema with
    types := schema.types.map (scaffoldedType emits schema) ++ scaffoldTypes emits registry
    directives := schema.directives ++ scaffoldDirectives }

/-- No name that the scaffold declares is in use. -/
structure Unclaimed (emits : Bool) (schema : SchemaDocument) : Prop where
  any : anyScalar ∉ schema.types.map (·.name)
  fieldSet : fieldSetScalar ∉ schema.types.map (·.name)
  union : emits = true → entityUnion ∉ schema.types.map (·.name)
  field : emits = true → ∀ type ∈ schema.types, isQueryType schema type = true →
    ∀ field ∈ type.body.fields, field.name ≠ entitiesField
  directives : ∀ directive ∈ schema.directives, isScaffoldDirective directive.name = false

theorem Unclaimed.fresh {emits : Bool} {schema : SchemaDocument}
    (unclaimed : Unclaimed emits schema) {name : Name} (added : name ∈ scaffoldNames emits) :
    name ∉ schema.types.map (·.name) := by
  rcases List.mem_append.mp added with scalar | union
  · rcases List.mem_pair.mp scalar with rfl | rfl
    · exact unclaimed.any
    · exact unclaimed.fieldSet
  · split at union
    · next emitted =>
        rw [List.mem_singleton.mp union]
        exact unclaimed.union emitted
    · cases union

private theorem fieldSet_fresh {types : List TypeDefinition}
    (fresh : fieldSetScalar ∉ types.map (·.name)) :
    (scalarType fieldSetScalar).name ∉ (types ++ [scalarType anyScalar]).map (·.name) := by
  rw [List.map_append, List.mem_append]
  rintro (member | member)
  · exact fresh member
  · revert member
    decide

private theorem union_fresh {types : List TypeDefinition} (names : List Name)
    (fresh : entityUnion ∉ types.map (·.name)) :
    (unionOf names).name ∉
      (types ++ [scalarType anyScalar, scalarType fieldSetScalar]).map (·.name) := by
  rw [List.map_append, List.mem_append]
  rintro (member | member)
  · exact fresh member
  · revert member
    change entityUnion ∉ _
    decide

theorem addScalars_of_query {policy : ScaffoldPolicy} {registry : EntityRegistry}
    {schema : SchemaDocument} {query : TypeDefinition} (found : schema.queryType? = some query) :
    addScalars policy registry schema =
      if registry.isEmpty && policy.emptyEntity = .error then throw .noEntity
      else
        addType policy.collision schema.types (scalarType anyScalar) >>= fun types =>
        addType policy.collision types (scalarType fieldSetScalar) >>= fun types =>
        pure (query, types) := by
  unfold addScalars
  rw [found]
  rfl

theorem addEntities_of_resolves {policy : CollisionPolicy} {registry : EntityRegistry}
    {schema : SchemaDocument} {query : TypeDefinition} {types : List TypeDefinition}
    (resolves : Resolves schema registry) :
    addEntities policy schema registry query types =
      (addType policy types (unionOf registry.names) >>= fun types =>
        withEntitiesField policy query >>= fun query =>
        pure (setType query types)) := by
  unfold addEntities
  rw [entityUnionType_of_resolves resolves]
  rfl

private theorem addScalars_of_unclaimed {policy : ScaffoldPolicy} {registry : EntityRegistry}
    {schema : SchemaDocument} {query : TypeDefinition}
    (found : schema.queryType? = some query)
    (wanted : (registry.isEmpty && policy.emptyEntity = .error) = false)
    (anyFresh : anyScalar ∉ schema.types.map (·.name))
    (fieldSetFresh : fieldSetScalar ∉ schema.types.map (·.name)) :
    addScalars policy registry schema =
      .ok (query, schema.types ++ [scalarType anyScalar, scalarType fieldSetScalar]) := by
  rw [addScalars_of_query found, wanted, addType_of_fresh _ anyFresh]
  change (addType policy.collision (schema.types ++ [scalarType anyScalar])
    (scalarType fieldSetScalar) >>= fun types => pure (query, types)) = _
  rw [addType_of_fresh _ (fieldSet_fresh fieldSetFresh), List.append_assoc]
  rfl

private theorem setType_withEntities {schema : SchemaDocument} {query : TypeDefinition}
    (member : query ∈ schema.types) (isQuery : isQueryType schema query = true)
    {added : List TypeDefinition} (distinct : DistinctNames (schema.types ++ added)) :
    setType (withEntities query) (schema.types ++ added) =
      schema.types.map (scaffoldedType true schema) ++ added := by
  have root : schema.rootTypes.query = some query.name := (isQueryType_iff.mp isQuery).2
  have queryMember : query ∈ schema.types ++ added := List.mem_append_left _ member
  have present : (withEntities query).name ∈ (schema.types ++ added).map (·.name) :=
    List.mem_map.mpr ⟨query, queryMember, rfl⟩
  have old : ∀ type ∈ schema.types,
      (if type.name = (withEntities query).name then withEntities query else type) =
        scaffoldedType true schema type := by
    intro type typeMember
    by_cases sameName : type.name = query.name
    · rw [distinct.eq_of_name_eq (List.mem_append_left _ typeMember) queryMember sameName,
        scaffoldedType, isQuery]
      exact if_pos rfl
    · have other : isQueryType schema type = false := by
        simp [isQueryType, root, Ne.symm sameName]
      rw [scaffoldedType_of_not_isQueryType other]
      exact if_neg sameName
  have new : ∀ type ∈ added,
      (if type.name = (withEntities query).name then withEntities query else type) = type := by
    intro type typeMember
    apply if_neg
    intro sameName
    rw [DistinctNames, List.map_append, List.nodup_append] at distinct
    exact distinct.2.2 query.name (List.mem_map.mpr ⟨query, member, rfl⟩) type.name
      (List.mem_map.mpr ⟨type, typeMember, rfl⟩) sameName.symm
  rw [setType_of_mem distinct present, List.map_append, List.map_congr_left old,
    List.map_congr_left new, List.map_id']

private theorem addEntities_of_unclaimed {policy : CollisionPolicy} {registry : EntityRegistry}
    {schema : SchemaDocument} {query : TypeDefinition} (distinct : DistinctNames schema.types)
    (resolves : Resolves schema registry) (found : schema.queryType? = some query)
    (unclaimed : Unclaimed true schema) :
    addEntities policy schema registry query
        (schema.types ++ [scalarType anyScalar, scalarType fieldSetScalar]) =
      .ok (scaffolded true registry schema).types := by
  obtain ⟨member, isQuery⟩ := (queryType?_eq_some_iff distinct).mp found
  have unionFresh := union_fresh registry.names (unclaimed.union rfl)
  have allDistinct : DistinctNames (schema.types ++
      [scalarType anyScalar, scalarType fieldSetScalar, unionOf registry.names]) := by
    have withAny : DistinctNames (schema.types ++ [scalarType anyScalar]) :=
      distinct.append_fresh unclaimed.any
    have withScalars := withAny.append_fresh (fieldSet_fresh unclaimed.fieldSet)
    rw [List.append_assoc] at withScalars
    have withUnion := withScalars.append_fresh unionFresh
    rwa [List.append_assoc] at withUnion
  have placed := setType_withEntities member isQuery allDistinct
  rw [addEntities_of_resolves resolves, addType_of_fresh _ unionFresh,
    withEntitiesField_of_free _ (unclaimed.field rfl query member isQuery), List.append_assoc]
  change Except.ok (setType (withEntities query) (schema.types ++
    [scalarType anyScalar, scalarType fieldSetScalar, unionOf registry.names])) = _
  rw [placed]
  rfl

/-- Without a name in its way, the scaffold is added under either policy. -/
theorem assemble_of_unclaimed {policy : ScaffoldPolicy} {registry : EntityRegistry}
    {schema : SchemaDocument} {query : TypeDefinition} (distinct : DistinctNames schema.types)
    (resolves : Resolves schema registry) (found : schema.queryType? = some query)
    (wanted : (registry.isEmpty && policy.emptyEntity = .error) = false)
    (unclaimed : Unclaimed (emitsEntities policy.emptyEntity registry) schema) :
    assemble policy registry schema =
      .ok (scaffolded (emitsEntities policy.emptyEntity registry) registry schema) := by
  have directives := withScaffoldDirectives_of_free policy.collision unclaimed.directives
  unfold assemble
  rw [addScalars_of_unclaimed found wanted unclaimed.any unclaimed.fieldSet]
  cases emits : emitsEntities policy.emptyEntity registry with
  | true =>
      rw [emits] at unclaimed
      change (addEntities policy.collision schema registry query _ >>= fun types =>
        withScaffoldDirectives policy.collision schema.directives >>= fun directives =>
          pure { schema with types, directives }) = _
      rw [addEntities_of_unclaimed distinct resolves found unclaimed, directives]
      rfl
  | false =>
      change (withScaffoldDirectives policy.collision schema.directives >>= fun directives =>
        pure { schema with
          types := schema.types ++ [scalarType anyScalar, scalarType fieldSetScalar]
          directives }) = _
      rw [directives]
      simp [scaffolded, scaffoldTypes, bind, Except.bind, pure, Except.pure]

/-! ### Outcomes -/

theorem assemble_eq (policy : ScaffoldPolicy) (registry : EntityRegistry)
    (schema : SchemaDocument) :
    assemble policy registry schema =
      (addScalars policy registry schema >>= fun scalars =>
        (if emitsEntities policy.emptyEntity registry then
          addEntities policy.collision schema registry scalars.1 scalars.2
        else pure scalars.2) >>= fun types =>
        withScaffoldDirectives policy.collision schema.directives >>= fun directives =>
        pure { schema with types, directives }) := by
  unfold assemble
  split <;> rfl

/-- What the scalars are added to: a schema with a query root and, if required, an entity. -/
theorem addScalars_ok {policy : ScaffoldPolicy} {registry : EntityRegistry}
    {schema : SchemaDocument} {query : TypeDefinition} {types : List TypeDefinition}
    (added : addScalars policy registry schema = .ok (query, types)) :
    schema.queryType? = some query ∧
      (registry.isEmpty && policy.emptyEntity = .error) = false ∧
      ∃ first, addType policy.collision schema.types (scalarType anyScalar) = .ok first ∧
        addType policy.collision first (scalarType fieldSetScalar) = .ok types := by
  cases found : schema.queryType? with
  | none =>
      unfold addScalars at added
      rw [found] at added
      cases added
  | some root =>
      rw [addScalars_of_query found] at added
      split at added
      · cases added
      · next wanted =>
          obtain ⟨first, anyAdded, added⟩ := bind_ok_iff.mp added
          obtain ⟨second, fieldSetAdded, added⟩ := bind_ok_iff.mp added
          cases added
          exact ⟨rfl, Bool.eq_false_iff.mpr wanted, first, anyAdded, fieldSetAdded⟩

/-- If no collision is forgiven, a scaffold is added only without a name in its way. -/
theorem unclaimed_of_assemble {policy : ScaffoldPolicy} {registry : EntityRegistry}
    {schema result : SchemaDocument} (strict : policy.collision = .error)
    (distinct : DistinctNames schema.types) (resolves : Resolves schema registry)
    (assembled : assemble policy registry schema = .ok result) :
    (∃ query, schema.queryType? = some query) ∧
      (registry.isEmpty && policy.emptyEntity = .error) = false ∧
      Unclaimed (emitsEntities policy.emptyEntity registry) schema := by
  rw [assemble_eq] at assembled
  obtain ⟨⟨query, types⟩, scalars, assembled⟩ := bind_ok_iff.mp assembled
  obtain ⟨allTypes, withUnion, assembled⟩ := bind_ok_iff.mp assembled
  obtain ⟨directives, withDirectives, -⟩ := bind_ok_iff.mp assembled
  obtain ⟨found, wanted, first, anyAdded, fieldSetAdded⟩ := addScalars_ok scalars
  rw [strict] at withUnion withDirectives anyAdded fieldSetAdded
  obtain ⟨anyFresh, rfl⟩ := addType_error_ok anyAdded
  obtain ⟨fieldSetFresh, rfl⟩ := addType_error_ok fieldSetAdded
  refine ⟨⟨query, found⟩, wanted, ?_⟩
  have union : emitsEntities policy.emptyEntity registry = true →
      entityUnion ∉ schema.types.map (·.name) ∧
        ∀ field ∈ query.body.fields, field.name ≠ entitiesField := by
    intro emits
    rw [if_pos emits, addEntities_of_resolves resolves] at withUnion
    obtain ⟨_, unionAdded, withUnion⟩ := bind_ok_iff.mp withUnion
    obtain ⟨_, withField, -⟩ := bind_ok_iff.mp withUnion
    have unionFresh := (addType_error_ok unionAdded).1
    rw [List.append_assoc, List.map_append, List.mem_append, not_or] at unionFresh
    exact ⟨unionFresh.1, free_of_withEntitiesField withField⟩
  constructor
  case any => exact anyFresh
  case fieldSet =>
    rw [List.map_append, List.mem_append, not_or] at fieldSetFresh
    exact fieldSetFresh.1
  case union => exact fun emits => (union emits).1
  case field =>
    intro emits type member isQuery
    have same : schema.queryType? = some type :=
      (queryType?_eq_some_iff distinct).mpr ⟨member, isQuery⟩
    rw [found] at same
    cases same
    exact (union emits).2
  case directives => exact free_of_withScaffoldDirectives withDirectives

theorem assemble_of_queryType?_eq_none {policy : ScaffoldPolicy} {registry : EntityRegistry}
    {schema : SchemaDocument} (missing : schema.queryType? = none) :
    assemble policy registry schema = .error (.queryTypeMissing schema.rootTypes.query) := by
  unfold assemble addScalars
  rw [missing]
  rfl

theorem assemble_of_noEntity {policy : ScaffoldPolicy} {registry : EntityRegistry}
    {schema : SchemaDocument} {query : TypeDefinition} (found : schema.queryType? = some query)
    (unwanted : (registry.isEmpty && policy.emptyEntity = .error) = true) :
    assemble policy registry schema = .error .noEntity := by
  unfold assemble addScalars
  rw [found, unwanted]
  rfl

theorem assemble_error_cases {policy : ScaffoldPolicy} {registry : EntityRegistry}
    {schema : SchemaDocument} {query : TypeDefinition} {error : ScaffoldError}
    (resolves : Resolves schema registry) (found : schema.queryType? = some query)
    (failed : assemble policy registry schema = .error error) :
    error = .noEntity ∨ error.IsCollision := by
  rw [assemble_eq] at failed
  rcases bind_error_iff.mp failed with scalars | ⟨⟨root, types⟩, scalars, failed⟩
  · rw [addScalars_of_query found] at scalars
    split at scalars
    · exact .inl (Except.error.inj scalars).symm
    · rcases bind_error_iff.mp scalars with refused | ⟨_, _, scalars⟩
      · exact .inr (isCollision_of_addType refused)
      · rcases bind_error_iff.mp scalars with refused | ⟨_, _, done⟩
        · exact .inr (isCollision_of_addType refused)
        · cases done
  · right
    rcases bind_error_iff.mp failed with entities | ⟨_, _, failed⟩
    · split at entities
      · rw [addEntities_of_resolves resolves] at entities
        rcases bind_error_iff.mp entities with refused | ⟨_, _, entities⟩
        · exact isCollision_of_addType refused
        · rcases bind_error_iff.mp entities with refused | ⟨_, _, done⟩
          · exact isCollision_of_withEntitiesField refused
          · cases done
      · cases entities
    · rcases bind_error_iff.mp failed with refused | ⟨_, _, done⟩
      · exact isCollision_of_withScaffoldDirectives refused
      · cases done

end FederationSplit.Federation
