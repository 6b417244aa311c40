import FederationSplit.Proofs.Federation.Scaffold

namespace FederationSplit.Federation

open FederationSplit.Syntax
open FederationSplit.Schema
open FederationSplit.Settings

theorem type?_of_queryType? {schema : SchemaDocument} {query : TypeDefinition}
    (found : schema.queryType? = some query) :
    schema.rootTypes.query = some query.name ∧ schema.type? query.name = some query ∧
      query.kind = .object := by
  rw [SchemaDocument.queryType?, Option.filter_eq_some_iff, Option.bind_eq_some_iff] at found
  obtain ⟨⟨name, root, typed⟩, object⟩ := found
  have named : query.name = name := (mem_of_findType? typed).2
  rw [named]
  exact ⟨root, typed, of_decide_eq_true object⟩

theorem mem_types_of_queryType? {schema : SchemaDocument} {query : TypeDefinition}
    (found : schema.queryType? = some query) : query ∈ schema.types :=
  (mem_of_findType? (type?_of_queryType? found).2.1).1

/-- A query root whose last field resolves entities; an earlier field of that name is gone. -/
def replacedQuery (query : TypeDefinition) : TypeDefinition :=
  { query with
    body := .object query.body.interfaces
      (query.body.fields.filter (·.name != entitiesField) ++ [entitiesFieldDefinition]) }

def replacedScalars (types : List TypeDefinition) : List TypeDefinition :=
  setType (scalarType fieldSetScalar) (setType (scalarType anyScalar) types)

def replacedTypes (emitted : Bool) (registry : EntityRegistry) (query : TypeDefinition)
    (types : List TypeDefinition) : List TypeDefinition :=
  if emitted then
    setType (replacedQuery query) (setType (unionOf registry.names) (replacedScalars types))
  else replacedScalars types

theorem replacedTypes_eq_foldl (emitted : Bool) (registry : EntityRegistry)
    (query : TypeDefinition) (types : List TypeDefinition) :
    replacedTypes emitted registry query types =
      (scaffoldTypes emitted registry ++ if emitted then [replacedQuery query] else []).foldl
        (fun types definition => setType definition types) types := by
  cases emitted <;> rfl

/-- A schema whose scaffold has taken the place of what had its names. -/
def replaced (emitted : Bool) (registry : EntityRegistry) (query : TypeDefinition)
    (schema : SchemaDocument) : SchemaDocument :=
  { schema with
    types := replacedTypes emitted registry query schema.types
    directives := schema.directives.filter (!isScaffoldDirective ·.name) ++ scaffoldDirectives }

private theorem eq_setType_of_addType {policy : CollisionPolicy}
    {types result : List TypeDefinition} {type : TypeDefinition}
    (added : addType policy types type = .ok result) : result = setType type types := by
  obtain ⟨_, -, done⟩ := bind_ok_iff.mp added
  exact (Except.ok.inj done).symm

private theorem eq_of_mapM_resolved {schema : SchemaDocument} {names members : List Name}
    (found : (names.mapM fun name =>
      if (schema.type? name).any (·.kind = .object) then (pure name : Except ScaffoldError Name)
      else throw (.entityUnresolved name)) = .ok members) : members = names := by
  induction names generalizing members with
  | nil => exact (Except.ok.inj found).symm
  | cons name rest induction =>
      rw [List.mapM_cons] at found
      obtain ⟨head, headFound, found⟩ := bind_ok_iff.mp found
      obtain ⟨tail, tailFound, found⟩ := bind_ok_iff.mp found
      rw [← Except.ok.inj found, induction tailFound]
      split at headFound
      · rw [← Except.ok.inj headFound]
      · cases headFound

private theorem eq_unionOf_of_entityUnionType {schema : SchemaDocument}
    {registry : EntityRegistry} {union : TypeDefinition}
    (resolved : entityUnionType schema registry = .ok union) : union = unionOf registry.names := by
  obtain ⟨members, found, done⟩ := bind_ok_iff.mp resolved
  rw [← Except.ok.inj done, eq_of_mapM_resolved found]
  rfl

private theorem eq_replacedQuery_of_withEntitiesField {policy : CollisionPolicy}
    {query result : TypeDefinition} (added : withEntitiesField policy query = .ok result) :
    result = replacedQuery query := by
  obtain ⟨_, -, done⟩ := bind_ok_iff.mp added
  exact (Except.ok.inj done).symm

private theorem eq_of_addEntities {policy : CollisionPolicy} {schema : SchemaDocument}
    {registry : EntityRegistry} {query : TypeDefinition} {types result : List TypeDefinition}
    (added : addEntities policy schema registry query types = .ok result) :
    result = setType (replacedQuery query) (setType (unionOf registry.names) types) := by
  obtain ⟨union, unionFound, added⟩ := bind_ok_iff.mp added
  obtain ⟨withUnion, unionAdded, added⟩ := bind_ok_iff.mp added
  obtain ⟨withField, fieldAdded, done⟩ := bind_ok_iff.mp added
  rw [← Except.ok.inj done, eq_replacedQuery_of_withEntitiesField fieldAdded,
    eq_setType_of_addType unionAdded, eq_unionOf_of_entityUnionType unionFound]

/-- A scaffold that is added takes the place of what has its names, if the policy allows any. -/
theorem eq_replaced_of_assemble {policy : ScaffoldPolicy} {registry : EntityRegistry}
    {schema result : SchemaDocument} (assembled : assemble policy registry schema = .ok result) :
    ∃ query, schema.queryType? = some query ∧
      result = replaced (emitsEntities policy.emptyEntity registry) registry query schema := by
  rw [assemble_eq] at assembled
  obtain ⟨⟨query, types⟩, scalars, assembled⟩ := bind_ok_iff.mp assembled
  obtain ⟨allTypes, withUnion, assembled⟩ := bind_ok_iff.mp assembled
  obtain ⟨directives, withDirectives, assembled⟩ := bind_ok_iff.mp assembled
  obtain ⟨found, -, first, anyAdded, fieldSetAdded⟩ := addScalars_ok scalars
  obtain ⟨_, -, done⟩ := bind_ok_iff.mp withDirectives
  have scalarTypes : types = replacedScalars schema.types := by
    rw [eq_setType_of_addType fieldSetAdded, eq_setType_of_addType anyAdded]
    rfl
  have sameTypes : allTypes =
      replacedTypes (emitsEntities policy.emptyEntity registry) registry query schema.types := by
    unfold replacedTypes
    split at withUnion
    · next emitted => rw [if_pos emitted, eq_of_addEntities withUnion, scalarTypes]
    · next omitted => rw [if_neg omitted, ← Except.ok.inj withUnion, scalarTypes]
  refine ⟨query, found, ?_⟩
  rw [← Except.ok.inj assembled, ← Except.ok.inj done, sameTypes]
  rfl

theorem forall_mem_replacedTypes {emitted : Bool} {registry : EntityRegistry}
    {query : TypeDefinition} {types : List TypeDefinition} {property : TypeDefinition → Prop}
    (own : ∀ type ∈ types, property type) (any : property (scalarType anyScalar))
    (fieldSet : property (scalarType fieldSetScalar)) (union : property (unionOf registry.names))
    (root : property (replacedQuery query)) :
    ∀ type ∈ replacedTypes emitted registry query types, property type := by
  have scalars : ∀ type ∈ replacedScalars types, property type :=
    forall_mem_setType fieldSet (forall_mem_setType any own)
  unfold replacedTypes
  split
  · exact forall_mem_setType root (forall_mem_setType union scalars)
  · exact scalars

end FederationSplit.Federation
