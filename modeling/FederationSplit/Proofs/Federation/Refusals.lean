import FederationSplit.Proofs.Federation.Replacing
import FederationSplit.Proofs.Federation.Rewriting

namespace FederationSplit.Federation

open FederationSplit.Syntax
open FederationSplit.Schema
open FederationSplit.Settings

def resolvesEntities (schema : SchemaDocument) : Bool :=
  schema.queryType?.any fun query => query.body.fields.any (·.name == entitiesField)

def takenTypes (names : List Name) (types : List TypeDefinition) : List (DeclarationKind × Name) :=
  (names.filter fun name => (findType? types name).isSome).map (.type, ·)

def takenDirectives (directives : List DirectiveDefinition) : List (DeclarationKind × Name) :=
  (directives.filter (isScaffoldDirective ·.name)).map (.directive, ·.name)

/-- The names of a scaffold that a schema has taken, in the order in which they are looked for. -/
def takenNames (emitted : Bool) (schema : SchemaDocument) : List (DeclarationKind × Name) :=
  takenTypes (scaffoldNames emitted) schema.types ++
    (if emitted && resolvesEntities schema then [(.queryField, entitiesField)] else []) ++
    takenDirectives schema.directives

def refuseTaken (policy : CollisionPolicy) (taken : List (DeclarationKind × Name)) :
    Except ScaffoldError Unit :=
  taken.forM fun (kind, name) => refuse policy kind name true

theorem refuseTaken_append (policy : CollisionPolicy)
    (first rest : List (DeclarationKind × Name)) :
    refuseTaken policy (first ++ rest) =
      (refuseTaken policy first >>= fun _ => refuseTaken policy rest) :=
  List.forM_append

theorem refuseTaken_replace (taken : List (DeclarationKind × Name)) :
    refuseTaken .replace taken = .ok () := by
  induction taken with
  | nil => rfl
  | cons head rest induction => exact induction

theorem refuseTaken_error (taken : List (DeclarationKind × Name)) :
    refuseTaken .error taken =
      match taken.head? with
      | none => .ok ()
      | some (kind, name) => .error (.nameTaken kind name) := by
  cases taken with
  | nil => rfl
  | cons head rest => rfl

theorem refuse_eq_refuseTaken (policy : CollisionPolicy) (kind : DeclarationKind) (name : Name)
    (isTaken : Bool) :
    refuse policy kind name isTaken =
      refuseTaken policy (if isTaken then [(kind, name)] else []) := by
  cases isTaken with
  | false => rfl
  | true =>
      change _ = refuse policy kind name true >>= fun _ => pure ()
      cases refuse policy kind name true <;> rfl

theorem addType_eq (policy : CollisionPolicy) (types : List TypeDefinition)
    (type : TypeDefinition) :
    addType policy types type =
      (refuseTaken policy (takenTypes [type.name] types) >>= fun _ =>
        pure (setType type types)) := by
  have taken : takenTypes [type.name] types =
      if (findType? types type.name).isSome then [(.type, type.name)] else [] := by
    unfold takenTypes
    rw [List.filter_singleton]
    cases (findType? types type.name).isSome <;> rfl
  rw [taken, ← refuse_eq_refuseTaken]
  rfl

theorem withEntitiesField_eq (policy : CollisionPolicy) (query : TypeDefinition) :
    withEntitiesField policy query =
      (refuseTaken policy
          (if query.body.fields.any (·.name == entitiesField) then [(.queryField, entitiesField)]
          else []) >>= fun _ =>
        pure (replacedQuery query)) := by
  rw [← refuse_eq_refuseTaken]
  rfl

theorem withScaffoldDirectives_eq (policy : CollisionPolicy)
    (directives : List DirectiveDefinition) :
    withScaffoldDirectives policy directives =
      (refuseTaken policy (takenDirectives directives) >>= fun _ =>
        pure (directives.filter (!isScaffoldDirective ·.name) ++ scaffoldDirectives)) := by
  have checks : (directives.forM fun directive =>
      refuse policy .directive directive.name (isScaffoldDirective directive.name)) =
        refuseTaken policy (takenDirectives directives) := by
    induction directives with
    | nil => rfl
    | cons directive rest induction =>
        change (refuse policy .directive directive.name (isScaffoldDirective directive.name) >>=
          fun _ => rest.forM _) = _
        rw [induction, refuse_eq_refuseTaken, ← refuseTaken_append, takenDirectives,
          takenDirectives, List.filter_cons]
        split <;> rfl
  rw [← checks]
  rfl

theorem takenTypes_append (first rest : List Name) (types : List TypeDefinition) :
    takenTypes (first ++ rest) types = takenTypes first types ++ takenTypes rest types := by
  rw [takenTypes, List.filter_append, List.map_append]
  rfl

theorem takenTypes_setType {names : List Name} {type : TypeDefinition}
    (others : type.name ∉ names) (types : List TypeDefinition) :
    takenTypes names (setType type types) = takenTypes names types := by
  unfold takenTypes
  congr 1
  apply List.filter_congr
  intro name member
  rw [findType?_setType_of_ne fun same => others (same ▸ member)]

section

variable {policy : ScaffoldPolicy} {registry : EntityRegistry} {schema : SchemaDocument}
  {query : TypeDefinition}

private theorem addScalars_eq (found : schema.queryType? = some query)
    (wanted : (registry.isEmpty && policy.emptyEntity = .error) = false) :
    addScalars policy registry schema =
      (refuseTaken policy.collision (takenTypes [anyScalar, fieldSetScalar] schema.types) >>=
        fun _ => pure (query, replacedScalars schema.types)) := by
  have fieldSetTaken : takenTypes [(scalarType fieldSetScalar).name]
      (setType (scalarType anyScalar) schema.types) =
        takenTypes [fieldSetScalar] schema.types := takenTypes_setType (by decide) _
  have split : takenTypes [anyScalar, fieldSetScalar] schema.types =
      takenTypes [anyScalar] schema.types ++ takenTypes [fieldSetScalar] schema.types :=
    takenTypes_append [anyScalar] [fieldSetScalar] schema.types
  rw [addScalars_of_query found, wanted, split, refuseTaken_append]
  simp only [addType_eq, bind_assoc, pure_bind, fieldSetTaken]
  rfl

private theorem addEntities_eq (resolves : Resolves schema registry)
    (found : schema.queryType? = some query) :
    addEntities policy.collision schema registry query (replacedScalars schema.types) =
      (refuseTaken policy.collision
          (takenTypes [entityUnion] schema.types ++
            if resolvesEntities schema then [(.queryField, entitiesField)] else []) >>= fun _ =>
        pure (replacedTypes true registry query schema.types)) := by
  have unionTaken : takenTypes [(unionOf registry.names).name] (replacedScalars schema.types) =
      takenTypes [entityUnion] schema.types := by
    change takenTypes [entityUnion] (replacedScalars schema.types) = _
    rw [replacedScalars, takenTypes_setType (by decide), takenTypes_setType (by decide)]
  rw [addEntities_of_resolves resolves, resolvesEntities, found, refuseTaken_append]
  simp only [addType_eq, withEntitiesField_eq, bind_assoc, pure_bind, unionTaken]
  rfl

/--
With a query root and the entities that are required, the scaffold looks for all its names in the
schema and then takes the place of what has them. No change that it makes takes a name that it looks
for later, so all names can be looked for first.
-/
theorem assemble_eq_refuseTaken (resolves : Resolves schema registry)
    (found : schema.queryType? = some query)
    (wanted : (registry.isEmpty && policy.emptyEntity = .error) = false) :
    assemble policy registry schema =
      (refuseTaken policy.collision
          (takenNames (emitsEntities policy.emptyEntity registry) schema) >>= fun _ =>
        pure (replaced (emitsEntities policy.emptyEntity registry) registry query schema)) := by
  rw [assemble_eq, addScalars_eq found wanted, takenNames, refuseTaken_append]
  cases emitted : emitsEntities policy.emptyEntity registry with
  | true =>
      have split : takenTypes (scaffoldNames true) schema.types =
          takenTypes [anyScalar, fieldSetScalar] schema.types ++
            takenTypes [entityUnion] schema.types :=
        takenTypes_append [anyScalar, fieldSetScalar] [entityUnion] schema.types
      rw [split, List.append_assoc, refuseTaken_append]
      simp only [bind_assoc, pure_bind, if_true, addEntities_eq resolves found,
        withScaffoldDirectives_eq, Bool.true_and]
      rfl
  | false =>
      simp only [bind_assoc, pure_bind, withScaffoldDirectives_eq, Bool.false_and,
        Bool.false_eq_true, if_false, List.append_nil]
      rfl

end

/-! ### What pruning leaves of the names in the way -/

theorem takenTypes_prune {config : Config} {schema : SchemaDocument} {names : List Name}
    (plain : ∀ name ∈ names, isCompositionName name = false ∧ name ∉ linkTypes.map (·.name)) :
    takenTypes names (prune config schema).types = takenTypes names schema.types := by
  unfold takenTypes
  congr 1
  apply List.filter_congr
  intro name member
  obtain ⟨notComposition, notLink⟩ := plain name member
  rw [Bool.eq_iff_iff, findType?_isSome_iff, findType?_isSome_iff,
    mem_names_prune notComposition notLink]

theorem queryType?_prune {schema : SchemaDocument} (distinct : DistinctNames schema.types)
    (config : Config) :
    (prune config schema).queryType? =
      schema.queryType?.map (prunedType config.markerSelection schema) := by
  cases found : schema.queryType? with
  | none =>
      have absent := queryType?_prune_isSome distinct config
      rw [found] at absent
      exact Option.not_isSome_iff_eq_none.mp (Bool.eq_false_iff.mp absent)
  | some query =>
      obtain ⟨member, isQuery⟩ := (queryType?_eq_some_iff distinct).mp found
      apply (queryType?_eq_some_iff (distinctNames_prune distinct config)).mpr
      exact ⟨mem_prune_of_object member (isQueryType_iff.mp isQuery).1,
        (isQueryType_prunedType ..).trans isQuery⟩

theorem resolvesEntities_prune {schema : SchemaDocument} (distinct : DistinctNames schema.types)
    (config : Config) : resolvesEntities (prune config schema) = resolvesEntities schema := by
  rw [resolvesEntities, queryType?_prune distinct, Option.any_map]
  congr 1
  funext query
  rw [prunedType, filterBody_eq_mapUsages, TypeBody.fields_mapUsages, List.any_map]
  rfl

theorem takenDirectives_prune (config : Config) (schema : SchemaDocument) :
    takenDirectives (prune config schema).directives = takenDirectives schema.directives := by
  have noLink : (missingLinkDirective schema).filter (isScaffoldDirective ·.name) = [] := by
    unfold missingLinkDirective
    split <;> rfl
  have plain : ∀ directive ∈ schema.directives,
      (isScaffoldDirective directive.name && !isCompositionName directive.name) =
        isScaffoldDirective directive.name := by
    intro directive _
    rw [Bool.and_eq_left_iff_imp, isScaffoldDirective_iff]
    rintro (named | named) <;> rw [named] <;> decide
  rw [takenDirectives, prune_directives, List.filter_append, noLink, List.append_nil,
    List.filter_filter, List.filter_congr plain]
  rfl

theorem takenNames_prune {schema : SchemaDocument} (distinct : DistinctNames schema.types)
    (config : Config) (emitted : Bool) :
    takenNames emitted (prune config schema) = takenNames emitted schema := by
  have plain : ∀ name ∈ scaffoldNames emitted,
      isCompositionName name = false ∧ name ∉ linkTypes.map (·.name) := by
    cases emitted <;> decide
  rw [takenNames, takenTypes_prune plain, resolvesEntities_prune distinct, takenDirectives_prune]
  rfl

/-- Does an object type state a key in its first marker or, if all count, in any? -/
def statesKey (selection : MarkerSelection) (type : TypeDefinition) : Bool :=
  type.kind = .object &&
    match selection with
    | .first => (usagesOf typeMarker type.directives).head?.any isKeyed
    | .all => (usagesOf typeMarker type.directives).any isKeyed

theorem selectedMarkers_any_isKeyed (selection : MarkerSelection) (type : TypeDefinition) :
    (selectedMarkers selection type).any isKeyed = statesKey selection type := by
  unfold statesKey
  by_cases object : type.kind = .object
  · rw [selectedMarkers, if_pos object, decide_eq_true object, Bool.true_and]
    cases selection with
    | first => cases usagesOf typeMarker type.directives <;> simp [selectMarkers]
    | all =>
        cases keyed : (usagesOf typeMarker type.directives).any isKeyed with
        | true => simp [selectMarkers, keyed]
        | false =>
            rw [selectMarkers, if_neg (Bool.eq_false_iff.mp keyed)]
            simp only [List.any_eq_false] at keyed ⊢
            exact fun marker member => keyed marker (List.mem_of_mem_take member)
  · rw [selectedMarkers_of_kind_ne object, decide_eq_false object, Bool.false_and]
    rfl

theorem keyedTypes_isEmpty (selection : MarkerSelection) (schema : SchemaDocument) :
    (keyedTypes selection schema).isEmpty = !schema.types.any (statesKey selection) := by
  simp only [keyedTypes, selectedMarkers_any_isKeyed, List.isEmpty_map]
  rw [Bool.eq_iff_iff, List.isEmpty_iff, List.filter_eq_nil_iff, Bool.not_eq_true',
    List.any_eq_false]

/--
Why a schema is not turned into a subgraph, if it is not: it has no query root that is an object
type; or an entity is required and no object type states a key; or, if no collision is forgiven, a
name of the scaffold is taken, of which the first is reported.
-/
def refusal? (config : Config) (schema : SchemaDocument) : Option ScaffoldError :=
  let keyed := schema.types.any (statesKey config.markerSelection)
  let emitted := keyed || config.emptyEntityPolicy = .emit
  if schema.queryType?.isNone then some (.queryTypeMissing schema.rootTypes.query)
  else if !keyed && config.emptyEntityPolicy = .error then some .noEntity
  else
    match config.collisionPolicy with
    | .replace => none
    | .error => (takenNames emitted schema).head?.map fun (kind, name) => .nameTaken kind name

theorem emits_eq (config : Config) (schema : SchemaDocument) :
    emits config schema =
      (schema.types.any (statesKey config.markerSelection) ||
        decide (config.emptyEntityPolicy = .emit)) := by
  rw [emits, keyedTypes_isEmpty, Bool.not_not]

private theorem unwanted_eq (config : Config) (schema : SchemaDocument) :
    (EntityRegistry.isEmpty { names := keyedTypes config.markerSelection schema } &&
        decide ((scaffoldPolicy config).emptyEntity = .error)) =
      (!schema.types.any (statesKey config.markerSelection) &&
        decide (config.emptyEntityPolicy = .error)) := by
  rw [EntityRegistry.isEmpty, keyedTypes_isEmpty]
  rfl

section

variable {config : Config} {schema : SchemaDocument} (distinct : DistinctNames schema.types)

include distinct

private theorem queryType?_prune_of_none (missing : schema.queryType? = none) :
    (prune config schema).queryType? = none := by
  rw [queryType?_prune distinct, missing]
  rfl

private theorem queryType?_prune_of_some {query : TypeDefinition}
    (found : schema.queryType? = some query) :
    (prune config schema).queryType? = some (prunedType config.markerSelection schema query) := by
  rw [queryType?_prune distinct, found]
  rfl

/-- With a query root and the entities that are required, only names that are taken matter. -/
theorem transform_eq_refuseTaken {query : TypeDefinition}
    (found : schema.queryType? = some query)
    (wanted : (!schema.types.any (statesKey config.markerSelection) &&
      decide (config.emptyEntityPolicy = .error)) = false) :
    transform config schema =
      (refuseTaken config.collisionPolicy (takenNames (emits config schema) schema) >>= fun _ =>
        pure (replaced (emits config schema) { names := keyedTypes config.markerSelection schema }
          (prunedType config.markerSelection schema query) (prune config schema))) := by
  rw [transform_eq distinct, assemble_eq_refuseTaken (resolves_prune distinct config)
    (queryType?_prune_of_some distinct found) ((unwanted_eq config schema).trans wanted),
    takenNames_prune distinct]
  rfl

theorem transform_of_refusal? {error : ScaffoldError}
    (refused : refusal? config schema = some error) : transform config schema = .error error := by
  simp only [refusal?, ← emits_eq] at refused
  cases found : schema.queryType? with
  | none =>
      rw [found] at refused
      rw [transform_eq distinct,
        assemble_of_queryType?_eq_none (queryType?_prune_of_none distinct found), prune_rootTypes]
      exact congrArg Except.error (Option.some.inj refused)
  | some query =>
      rw [found, if_neg (by simp)] at refused
      split at refused
      · next unwanted =>
          rw [transform_eq distinct, assemble_of_noEntity (queryType?_prune_of_some distinct found)
            ((unwanted_eq config schema).trans unwanted)]
          exact congrArg Except.error (Option.some.inj refused)
      · next wanted =>
          rw [transform_eq_refuseTaken distinct found (Bool.eq_false_iff.mpr wanted)]
          split at refused
          · cases refused
          · next strict =>
              obtain ⟨⟨kind, name⟩, taken, rfl⟩ := Option.map_eq_some_iff.mp refused
              rw [strict, refuseTaken_error, taken]
              rfl

theorem transform_of_refusal?_eq_none (allowed : refusal? config schema = none) :
    ∃ query, schema.queryType? = some query ∧
      transform config schema =
        .ok (replaced (emits config schema) { names := keyedTypes config.markerSelection schema }
          (prunedType config.markerSelection schema query) (prune config schema)) := by
  simp only [refusal?, ← emits_eq] at allowed
  cases found : schema.queryType? with
  | none =>
      rw [found] at allowed
      cases allowed
  | some query =>
      rw [found, if_neg (by simp)] at allowed
      split at allowed
      · cases allowed
      · next wanted =>
          refine ⟨query, rfl, ?_⟩
          rw [transform_eq_refuseTaken distinct found (Bool.eq_false_iff.mpr wanted)]
          split at allowed
          · next forgiving =>
              rw [forgiving, refuseTaken_replace]
              rfl
          · next strict =>
              rw [Option.map_eq_none_iff] at allowed
              rw [strict, refuseTaken_error, allowed]
              rfl

theorem refusal?_eq_none_of_transform {result : SchemaDocument}
    (transformed : transform config schema = .ok result) : refusal? config schema = none := by
  cases refused : refusal? config schema with
  | none => rfl
  | some error =>
      rw [transform_of_refusal? distinct refused] at transformed
      cases transformed

end

theorem refusal?_replace {config : Config} {schema : SchemaDocument}
    (allowed : refusal? { config with collisionPolicy := .error } schema = none) :
    refusal? { config with collisionPolicy := .replace } schema = none := by
  simp only [refusal?] at allowed ⊢
  split at allowed
  · cases allowed
  · next present =>
      split at allowed
      · cases allowed
      · next wanted => rw [if_neg present, if_neg wanted]

/--
The transformation of a folded schema fails with the error that can be read off the schema, and
with no other; and forgiving collisions changes no result that is reached without.
-/
theorem transform_outcomes (config : Config) (document : Document) :
    (∀ error, transform config (fold document).toSchemaDocument = .error error ↔
        refusal? config (fold document).toSchemaDocument = some error) ∧
      ((∃ result, transform config (fold document).toSchemaDocument = .ok result) ↔
        refusal? config (fold document).toSchemaDocument = none) ∧
      ∀ result,
        transform { config with collisionPolicy := .error } (fold document).toSchemaDocument =
            .ok result →
          transform { config with collisionPolicy := .replace }
            (fold document).toSchemaDocument = .ok result := by
  have distinct := distinctNames_fold document
  refine ⟨?exactError, ?exactSuccess, ?forgiven⟩
  case exactError =>
    intro error
    constructor
    · intro failed
      cases refused : refusal? config (fold document).toSchemaDocument with
      | none =>
          obtain ⟨_, -, transformed⟩ := transform_of_refusal?_eq_none distinct refused
          rw [failed] at transformed
          cases transformed
      | some found =>
          rw [transform_of_refusal? distinct refused] at failed
          exact congrArg some (Except.error.inj failed)
    · exact transform_of_refusal? distinct
  case exactSuccess =>
    constructor
    · rintro ⟨result, transformed⟩
      exact refusal?_eq_none_of_transform distinct transformed
    · intro allowed
      obtain ⟨_, -, transformed⟩ := transform_of_refusal?_eq_none distinct allowed
      exact ⟨_, transformed⟩
  case forgiven =>
    intro result transformed
    have allowed := refusal?_eq_none_of_transform distinct transformed
    obtain ⟨query, found, strict⟩ := transform_of_refusal?_eq_none distinct allowed
    obtain ⟨root, rootFound, forgiving⟩ :=
      transform_of_refusal?_eq_none distinct (refusal?_replace allowed)
    rw [found] at rootFound
    cases rootFound
    rw [transformed] at strict
    rw [forgiving, Except.ok.inj strict]
    rfl

theorem transform_outcomes_labelledSupergraph :
    ∃ result,
      transform { Config.default with collisionPolicy := .error }
          (fold labelledSupergraph).toSchemaDocument = .ok result ∧
        transform { Config.default with collisionPolicy := .replace }
          (fold labelledSupergraph).toSchemaDocument = .ok result := by
  obtain ⟨result, transformed⟩ :=
    (transform_outcomes Config.default labelledSupergraph).2.1.mpr (by decide)
  exact ⟨result, transformed,
    (transform_outcomes Config.default labelledSupergraph).2.2 result transformed⟩

end FederationSplit.Federation
