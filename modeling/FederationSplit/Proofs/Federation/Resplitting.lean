import FederationSplit.Federation.Loading
import FederationSplit.Proofs.Federation.Splitting
import FederationSplit.Proofs.Schema.Regrouping

namespace FederationSplit.Federation

open FederationSplit.Syntax
open FederationSplit.Schema
open FederationSplit.Rules
open FederationSplit.Settings

private theorem withoutFederationUsages_idem (usages : List DirectiveUsage) :
    withoutFederationUsages (withoutFederationUsages usages) = withoutFederationUsages usages := by
  rw [withoutFederationUsages, withoutFederationUsages, List.filter_filter]
  simp only [Bool.and_self]

theorem name_of_mem_splitUsages {selection : MarkerSelection}
    {usages : List DirectiveUsage} {usage : DirectiveUsage}
    (member : usage ∈ splitUsages selection usages) :
    usage.name = "key" ∨ usage.name = "shareable" := by
  unfold splitUsages at member
  split at member
  · rw [List.mem_singleton.mp member]
    exact .inr rfl
  · rw [List.mem_singleton.mp member]
    exact .inl rfl
  · obtain ⟨_, _, rfl⟩ := List.mem_map.mp member
    exact .inl rfl

private theorem withoutFederationUsages_splitUsages (selection : MarkerSelection)
    (usages : List DirectiveUsage) :
    withoutFederationUsages (splitUsages selection usages) = [] := by
  rw [withoutFederationUsages, List.filter_eq_nil_iff]
  intro usage member
  rcases name_of_mem_splitUsages member with named | named <;>
    · rw [named]
      decide

theorem usagesOf_key_withoutFederationUsages (usages : List DirectiveUsage) :
    usagesOf "key" (withoutFederationUsages usages) = [] := by
  rw [usagesOf, List.filter_eq_nil_iff]
  intro usage member named
  have own := (List.mem_filter.mp member).2
  rw [beq_iff_eq.mp named] at own
  revert own
  decide

theorem splitKey_splitKey (key : DirectiveUsage) : splitKey (splitKey key) = splitKey key := by
  have back : splitKey key =
      DirectiveUsage.of "key"
        ((key.argument? "fields").toList.map
          (fun argument => Argument.of "fields" argument.value) ++ resolvableArgument key) := rfl
  rcases resolvableArgument_cases key with unstated | stated
  · rw [back, unstated]
    cases key.argument? "fields" <;> rfl
  · rw [back, stated]
    cases key.argument? "fields" <;> rfl

theorem usagesOf_key_splitUsages (selection : MarkerSelection) (usages : List DirectiveUsage) :
    usagesOf "key" (splitUsages selection usages) =
      match selection, usagesOf "key" usages with
      | _, [] => []
      | .first, key :: _ => [splitKey key]
      | .all, keys => keys.map splitKey := by
  unfold splitUsages
  cases usagesOf "key" usages with
  | nil => cases selection <;> rfl
  | cons key rest =>
      cases selection with
      | first => rfl
      | all =>
          rw [usagesOf, List.filter_eq_self]
          intro usage member
          obtain ⟨_, _, rfl⟩ := List.mem_map.mp member
          rfl

theorem splitUsages_splitUsages (selection : MarkerSelection) (usages : List DirectiveUsage) :
    splitUsages selection (withoutFederationUsages usages ++ splitUsages selection usages) =
      splitUsages selection usages := by
  have again (others : List DirectiveUsage) : splitUsages selection others =
      match selection, usagesOf "key" others with
      | _, [] => [shareableUsage]
      | .first, key :: _ => [splitKey key]
      | .all, keys => keys.map splitKey := rfl
  have keys : usagesOf "key" (withoutFederationUsages usages ++ splitUsages selection usages) =
      usagesOf "key" (splitUsages selection usages) := by
    rw [usagesOf, List.filter_append]
    exact congrArg (· ++ _) (usagesOf_key_withoutFederationUsages usages)
  rw [again (_ ++ _), keys, usagesOf_key_splitUsages, again]
  cases usagesOf "key" usages with
  | nil => cases selection <;> rfl
  | cons key rest =>
      cases selection with
      | first => exact congrArg ([·]) (splitKey_splitKey key)
      | all =>
          simp only [List.map_cons, List.map_map, splitKey_splitKey, List.cons.injEq, true_and]
          exact List.map_congr_left fun other _ => splitKey_splitKey other

/-- The usages of an object type that has been split. -/
def splitObjectUsages (isRoot : Bool) (selection : MarkerSelection)
    (usages : List DirectiveUsage) : List DirectiveUsage :=
  if isRoot then [] else withoutFederationUsages usages ++ splitUsages selection usages

private theorem splitObjectUsages_idem (isRoot : Bool) (selection : MarkerSelection)
    (usages : List DirectiveUsage) :
    splitObjectUsages isRoot selection (splitObjectUsages isRoot selection usages) =
      splitObjectUsages isRoot selection usages := by
  cases isRoot with
  | true => rfl
  | false =>
      have own : withoutFederationUsages
            (withoutFederationUsages usages ++ splitUsages selection usages) =
          withoutFederationUsages usages := by
        rw [withoutFederationUsages, List.filter_append, ← withoutFederationUsages,
          ← withoutFederationUsages, withoutFederationUsages_idem,
          withoutFederationUsages_splitUsages, List.append_nil]
      change withoutFederationUsages
          (withoutFederationUsages usages ++ splitUsages selection usages) ++
        splitUsages selection (withoutFederationUsages usages ++ splitUsages selection usages) = _
      rw [own, splitUsages_splitUsages]
      rfl

private theorem any_key_splitObjectUsages {isRoot : Bool} {usages : List DirectiveUsage}
    (keyless : isRoot = true → usagesOf "key" usages = []) (selection : MarkerSelection) :
    (splitObjectUsages isRoot selection usages).any (·.name == "key") =
      usages.any (·.name == "key") := by
  cases isRoot with
  | true =>
      have none : usages.filter (·.name == "key") = [] := keyless rfl
      rw [List.filter_eq_nil_iff] at none
      exact (List.any_eq_false.mpr none).symm
  | false =>
      have others : (withoutFederationUsages usages).any (·.name == "key") = false :=
        List.any_eq_false.mpr
          (List.filter_eq_nil_iff.mp (usagesOf_key_withoutFederationUsages usages))
      rw [splitObjectUsages, if_neg Bool.false_ne_true, List.any_append, others, Bool.false_or,
        any_key_splitUsages]

private theorem mapUsages_withoutFederationUsages_idem (body : TypeBody) :
    (body.mapUsages withoutFederationUsages).mapUsages withoutFederationUsages =
      body.mapUsages withoutFederationUsages := by
  rw [TypeBody.mapUsages_mapUsages]
  congr 1
  funext usages
  exact withoutFederationUsages_idem usages

private theorem splitQueryBody_idem (emitted : Bool) {body : TypeBody}
    (clean : body.mapUsages withoutFederationUsages = body) :
    splitQueryBody emitted ((splitQueryBody emitted body).mapUsages withoutFederationUsages) =
      splitQueryBody emitted body := by
  have own : (body.fields.filter (!federationQueryFields.contains ·.name)).map
        (FieldDefinition.mapUsages withoutFederationUsages) =
      body.fields.filter (!federationQueryFields.contains ·.name) := by
    rw [filter_mapUsages, ← TypeBody.fields_mapUsages, clean]
  have rebuilt : ((if emitted then [entitiesFieldDefinition] else []).map
      (FieldDefinition.mapUsages withoutFederationUsages)).filter
        (!federationQueryFields.contains ·.name) = [] := by
    cases emitted <;> decide
  have fields : ((splitQueryBody emitted body).mapUsages withoutFederationUsages).fields.filter
        (!federationQueryFields.contains ·.name) =
      body.fields.filter (!federationQueryFields.contains ·.name) := by
    rw [TypeBody.fields_mapUsages, splitQueryBody, TypeBody.fields, List.map_append,
      List.filter_append, own, rebuilt, List.append_nil, List.filter_filter]
    simp only [Bool.and_self]
  rw [splitQueryBody, fields]
  rfl

def splitObjectBody (isQuery : Prop) [Decidable isQuery] (emitted : Bool) (body : TypeBody) :
    TypeBody :=
  if isQuery then splitQueryBody emitted (body.mapUsages withoutFederationUsages)
  else body.mapUsages withoutFederationUsages

private theorem splitObjectBody_idem (isQuery : Prop) [Decidable isQuery] (emitted : Bool)
    (body : TypeBody) :
    splitObjectBody isQuery emitted (splitObjectBody isQuery emitted body) =
      splitObjectBody isQuery emitted body := by
  have clean := mapUsages_withoutFederationUsages_idem body
  unfold splitObjectBody
  split
  · exact splitQueryBody_idem emitted clean
  · exact clean

theorem splitType_of_object (config : Config) (document : Document)
    {type : TypeDefinition} (object : type.kind = .object) :
    splitType config document type =
      { type with
        directives :=
          splitObjectUsages ((serviceDefinitions document).rootTypes.names.contains type.name)
            config.markerSelection type.directives
        body :=
          splitObjectBody ((serviceDefinitions document).rootTypes.query = some type.name)
            (splitEmits config document) type.body } := by
  rw [splitType, object]
  rfl

theorem splitType_of_other (config : Config) (document : Document)
    {type : TypeDefinition} (other : type.kind ≠ .object) :
    splitType config document type =
      { type with
        directives := withoutFederationUsages type.directives
        body := type.body.mapUsages withoutFederationUsages } := by
  unfold splitType
  split
  · next object => exact absurd object other
  · rfl

theorem name_splitType (config : Config) (document : Document) (type : TypeDefinition) :
    (splitType config document type).name = type.name := by
  unfold splitType
  split <;> rfl

theorem kind_splitType (config : Config) (document : Document) (type : TypeDefinition) :
    (splitType config document type).kind = type.kind := by
  by_cases object : type.kind = .object
  · rw [splitType_of_object config document object, TypeDefinition.kind, splitObjectBody]
    split
    · exact object.symm
    · exact TypeBody.kind_mapUsages ..
  · rw [splitType_of_other config document object]
    exact TypeBody.kind_mapUsages ..

theorem splitType_splitType {config : Config} {document again : Document}
    (sameRoots : (serviceDefinitions again).rootTypes = (serviceDefinitions document).rootTypes)
    (sameEmits : splitEmits config again = splitEmits config document) (type : TypeDefinition) :
    splitType config again (splitType config document type) = splitType config document type := by
  have kind := kind_splitType config document type
  by_cases object : type.kind = .object
  · rw [splitType_of_object config again (kind.trans object),
      splitType_of_object config document object, sameRoots, sameEmits]
    exact (TypeDefinition.mk.injEq ..).mpr
      ⟨rfl, rfl, splitObjectUsages_idem .., splitObjectBody_idem ..⟩
  · rw [splitType_of_other config again (fun still => object (kind.symm.trans still)),
      splitType_of_other config document object, withoutFederationUsages_idem,
      mapUsages_withoutFederationUsages_idem]

/-! ### The document of a subgraph -/

def ownTypes (document : Document) : List TypeDefinition :=
  (fold document).types.filter (!federationTypes.contains ·.name)

/-- The types that splitting adds to those of a service. -/
def addedTypes (config : Config) (document : Document) : List TypeDefinition :=
  [linkImport, describedLinkPurpose, scalarType anyScalar, scalarType fieldSetScalar] ++
    if splitEmits config document then [unionOf (keyedNames document)] else []

theorem splitService_types (config : Config) (document : Document) :
    (splitService config document).types =
      (ownTypes document).map (splitType config document) ++ addedTypes config document :=
  List.append_assoc ..

private theorem names_addedTypes (config : Config) (document : Document) :
    (addedTypes config document).map (·.name) =
      ["link__Import", "link__Purpose", "_Any", "FieldSet"] ++
        if splitEmits config document then ["_Entity"] else [] := by
  unfold addedTypes
  cases splitEmits config document <;> rfl

private theorem names_ownTypes (config : Config) (document : Document) :
    ((ownTypes document).map (splitType config document)).map (·.name) =
      (ownTypes document).map (·.name) := by
  rw [List.map_map]
  exact List.map_congr_left fun type _ => name_splitType config document type

private theorem isFederationType_of_added {config : Config} {document : Document}
    {name : Name} (member : name ∈ (addedTypes config document).map (·.name)) :
    federationTypes.contains name = true := by
  have all : ∀ emitted : Bool, ∀ name ∈ ["link__Import", "link__Purpose", "_Any", "FieldSet"] ++
      (if emitted then ["_Entity"] else []), federationTypes.contains name = true := by
    decide
  rw [names_addedTypes] at member
  exact all _ name member

theorem distinctNames_splitService (config : Config) (document : Document) :
    DistinctNames (splitService config document).types := by
  have own : DistinctNames (ownTypes document) :=
    (distinctNames_fold document).sublist List.filter_sublist
  have added : ((addedTypes config document).map (·.name)).Nodup := by
    rw [names_addedTypes]
    cases splitEmits config document <;> decide
  rw [DistinctNames, splitService_types, List.map_append, names_ownTypes, List.nodup_append]
  refine ⟨own, added, ?_⟩
  rintro name ownMember _ addedMember rfl
  obtain ⟨type, member, rfl⟩ := List.mem_map.mp ownMember
  have other := (List.mem_filter.mp member).2
  rw [isFederationType_of_added addedMember] at other
  cases other

private theorem fold_splitService (config : Config) (document : Document) :
    fold (splitService config document).toDocument =
      { types := (splitService config document).types
        directives := (splitService config document).directives
        schemaDirectives := (splitService config document).schemaDirectives
        operationTypes := (splitService config document).rootTypes.items
        problems := [] } :=
  fold_toDocument (distinctNames_splitService config document) rfl

private theorem ownTypes_splitService (config : Config) (document : Document) :
    ownTypes (splitService config document).toDocument =
      (ownTypes document).map (splitType config document) := by
  have own : ((ownTypes document).map (splitType config document)).filter
        (!federationTypes.contains ·.name) =
      (ownTypes document).map (splitType config document) := by
    rw [List.filter_eq_self]
    intro type member
    obtain ⟨original, originalMember, rfl⟩ := List.mem_map.mp member
    rw [name_splitType]
    exact (List.mem_filter.mp originalMember).2
  have added : (addedTypes config document).filter (!federationTypes.contains ·.name) = [] := by
    rw [List.filter_eq_nil_iff]
    intro type member
    rw [isFederationType_of_added (List.mem_map_of_mem member)]
    exact Bool.false_ne_true
  rw [ownTypes, fold_splitService, splitService_types, List.filter_append, own, added,
    List.append_nil]

/-- No root operation type of a service has a key. -/
def KeylessRoots (document : Document) : Prop :=
  ∀ type ∈ (fold document).types,
    (serviceDefinitions document).rootTypes.names.contains type.name = true →
      usagesOf "key" type.directives = []

private theorem keyedNames_eq (document : Document) :
    keyedNames document =
      ((ownTypes document).filter fun type =>
        type.kind = .object && type.directives.any (·.name == "key")).map (·.name) := by
  rw [keyedNames, ownTypes, List.filter_filter]
  congr 1
  exact List.filter_congr fun type _ => Bool.and_comm ..

/-- The object types of a service that have a key are those of its subgraph. -/
private theorem keyedNames_splitService {document : Document} (keyless : KeylessRoots document)
    (config : Config) :
    keyedNames (splitService config document).toDocument = keyedNames document := by
  have keyed : ∀ type ∈ ownTypes document,
      ((fun type : TypeDefinition =>
        type.kind = .object && type.directives.any (·.name == "key")) ∘
          splitType config document) type =
        (type.kind = .object && type.directives.any (·.name == "key")) := by
    intro type member
    simp only [Function.comp_apply, kind_splitType]
    by_cases object : type.kind = .object
    · rw [splitType_of_object config document object,
        any_key_splitObjectUsages (keyless type (List.mem_of_mem_filter member))]
    · rw [decide_eq_false object]
      rfl
  have sameNames : (fun type : TypeDefinition => type.name) ∘ splitType config document =
      (·.name) := by
    funext type
    exact name_splitType config document type
  rw [keyedNames_eq, ownTypes_splitService, List.filter_map, List.map_map, sameNames,
    List.filter_congr keyed, ← keyedNames_eq]

private theorem rootTypes_splitService {document : Document}
    (named : ∀ item ∈ (fold document).operationTypes, item.2 ≠ "")
    (queries : (serviceDefinitions document).rootTypes.query.isSome) (config : Config) :
    (serviceDefinitions (splitService config document).toDocument).rootTypes =
      (serviceDefinitions document).rootTypes := by
  apply Definitions.rootTypes_of_items
  · rw [serviceDefinitions_operationTypes, fold_splitService]
    rfl
  · exact fun operation name root => serviceDefinitions_root_named named root
  · exact queries

/-! ### Splitting again -/

private theorem plain_splitUsages {selection : MarkerSelection} {usages : List DirectiveUsage}
    {usage : DirectiveUsage} (member : usage ∈ splitUsages selection usages) :
    isCompositionName usage.name = false := by
  rcases name_of_mem_splitUsages member with named | named <;>
    · rw [named]
      decide

private theorem mem_usages_splitObjectBody {isQuery : Prop} [Decidable isQuery] {emitted : Bool}
    {body : TypeBody} {usage : DirectiveUsage}
    (member : usage ∈ (splitObjectBody isQuery emitted body).usages) : usage ∈ body.usages := by
  have fromOwn (own : usage ∈ (body.mapUsages withoutFederationUsages).usages) :
      usage ∈ body.usages := by
    change usage ∈
      (body.mapUsages (·.filter (!federationDirectives.contains ·.name))).usages at own
    rw [TypeBody.usages_mapUsages_filter] at own
    exact List.mem_of_mem_filter own
  unfold splitObjectBody at member
  split at member
  · obtain ⟨field, fieldMember, used⟩ := List.mem_flatMap.mp member
    rcases List.mem_append.mp fieldMember with kept | rebuilt
    · exact fromOwn (TypeBody.mem_usages_of_field (List.mem_of_mem_filter kept) used)
    · split at rebuilt
      · rw [List.mem_singleton.mp rebuilt] at used
        cases used
      · cases rebuilt
  · exact fromOwn member

private theorem plain_splitType {document : Document} (plain : PlainNames (fold document))
    (config : Config) {type : TypeDefinition} (member : type ∈ (fold document).types) :
    ∀ usage ∈ (splitType config document type).directives ++
        (splitType config document type).body.usages,
      isCompositionName usage.name = false := by
  intro usage used
  have own := plain.usages type member usage
  rw [List.mem_append] at own
  by_cases object : type.kind = .object
  · rw [splitType_of_object config document object, List.mem_append] at used
    rcases used with outer | inner
    · unfold splitObjectUsages at outer
      split at outer
      · cases outer
      · rcases List.mem_append.mp outer with kept | back
        · exact own (.inl (List.mem_of_mem_filter kept))
        · exact plain_splitUsages back
    · exact own (.inr (mem_usages_splitObjectBody inner))
  · rw [splitType_of_other config document object, List.mem_append] at used
    rcases used with outer | inner
    · exact own (.inl (List.mem_of_mem_filter outer))
    · change usage ∈ (splitObjectBody False false type.body).usages at inner
      exact own (.inr (mem_usages_splitObjectBody inner))

private theorem plain_splitService {document : Document} (plain : PlainNames (fold document))
    (config : Config) : PlainNames (fold (splitService config document).toDocument) := by
  rw [fold_splitService]
  constructor
  case types =>
    change ∀ type ∈ (splitService config document).types, _
    rw [splitService_types, List.forall_mem_append]
    constructor
    · intro type member
      obtain ⟨original, originalMember, rfl⟩ := List.mem_map.mp member
      rw [name_splitType]
      exact plain.types original (List.mem_of_mem_filter originalMember)
    · intro type member
      have among := List.mem_map_of_mem (f := fun type : TypeDefinition => type.name) member
      rw [names_addedTypes] at among
      revert among
      generalize type.name = name
      revert name
      cases splitEmits config document <;> decide
  case usages =>
    change ∀ type ∈ (splitService config document).types, _
    rw [splitService_types, List.forall_mem_append]
    constructor
    · intro type member
      obtain ⟨original, originalMember, rfl⟩ := List.mem_map.mp member
      exact plain_splitType plain config (List.mem_of_mem_filter originalMember)
    · intro type member
      have bare : type.directives ++ type.body.usages = [] := by
        simp only [addedTypes, List.mem_append, List.mem_cons, List.not_mem_nil, or_false] at member
        rcases member with (rfl | rfl | rfl | rfl) | union
        · rfl
        · rfl
        · rfl
        · rfl
        · split at union
          · rw [List.mem_singleton.mp union]
            rfl
          · cases union
      rw [bare]
      exact List.forall_mem_nil _
  case directives =>
    change ∀ directive ∈ (splitService config document).directives, _
    rw [splitService, List.forall_mem_append, List.forall_mem_cons]
    refine ⟨⟨by decide, fun directive member => ?_⟩, by decide⟩
    exact plain.directives directive (List.mem_of_mem_filter member)

private theorem rooted_splitService {document : Document}
    (named : ∀ item ∈ (fold document).operationTypes, item.2 ≠ "")
    (rooted : ∃ query ∈ (serviceDefinitions document).types, query.kind = .object ∧
      (serviceDefinitions document).rootTypes.query = some query.name) (config : Config) :
    ∃ query ∈ (serviceDefinitions (splitService config document).toDocument).types,
      query.kind = .object ∧
        (serviceDefinitions (splitService config document).toDocument).rootTypes.query =
          some query.name := by
  obtain ⟨query, member, object, root⟩ := rooted
  rw [serviceDefinitions_types] at member
  obtain ⟨original, originalMember, rfl⟩ := List.mem_map.mp member
  rw [kind_servedType] at object
  rw [name_servedType] at root
  have queries : (serviceDefinitions document).rootTypes.query.isSome := by
    rw [root]
    rfl
  have split : splitType config document original ∈
      ownTypes (splitService config document).toDocument := by
    rw [ownTypes_splitService]
    exact List.mem_map_of_mem originalMember
  refine ⟨servedType (serviceDefinitions document).rootTypes.query
    (splitType config document original), ?_, ?_, ?_⟩
  · rw [serviceDefinitions_types, rootTypes_splitService named queries]
    exact List.mem_map_of_mem split
  · rw [kind_servedType, kind_splitType, object]
  · rw [rootTypes_splitService named queries, root, name_servedType, name_splitType]

theorem splitService_splitService {document : Document}
    (named : ∀ item ∈ (fold document).operationTypes, item.2 ≠ "")
    (keyless : KeylessRoots document)
    (queries : (serviceDefinitions document).rootTypes.query.isSome) (config : Config) :
    splitService config (splitService config document).toDocument =
      splitService config document := by
  have sameRoots := rootTypes_splitService named queries config
  have sameKeys := keyedNames_splitService keyless config
  have sameEmits : splitEmits config (splitService config document).toDocument =
      splitEmits config document := by
    rw [splitEmits, sameKeys, splitEmits]
  have types : (splitService config (splitService config document).toDocument).types =
      (splitService config document).types := by
    have added : addedTypes config (splitService config document).toDocument =
        addedTypes config document := by
      rw [addedTypes, sameEmits, sameKeys, addedTypes]
    rw [splitService_types, ownTypes_splitService, List.map_map, added, splitService_types]
    congr 1
    exact List.map_congr_left fun type _ => splitType_splitType sameRoots sameEmits type
  have directives : (splitService config (splitService config document).toDocument).directives =
      (splitService config document).directives := by
    have own : (splitService config document).directives.filter
          (!federationDirectives.contains ·.name) =
        (fold document).directives.filter (!federationDirectives.contains ·.name) := by
      rw [splitService, List.filter_append, List.filter_cons_of_neg (by decide),
        List.filter_filter]
      simp only [Bool.and_self]
      exact List.append_nil _
    rw [splitService, fold_splitService]
    dsimp only
    rw [own]
    rfl
  exact (SchemaDocument.mk.injEq ..).mpr ⟨types, directives, rfl, sameRoots⟩

theorem rooted_of_transform {config : Config} {service : String} {document : Document}
    {result : SchemaDocument}
    (transformed : transform config (supergraph service (serviceDefinitions document)) =
      .ok result) :
    ∃ query ∈ (serviceDefinitions document).types, query.kind = .object ∧
      (serviceDefinitions document).rootTypes.query = some query.name := by
  have served := served_serviceDefinitions document
  have found := queryType?_isSome_of_transform (distinctNames_supergraph served.distinct service)
    transformed
  obtain ⟨query, member, -, object, root⟩ := (queryType?_supergraph_isSome served service).mp found
  exact ⟨query, member, object, root⟩

/--
Splitting a service is idempotent: the document of its subgraph is taken for a service, and when it
is composed, under whatever name, it is split into the same subgraph.
-/
theorem transform_of_compose_split {config : Config} {service source : String}
    {document : Document} {schema result : SchemaDocument}
    (parsed : Document.parse source = .ok document)
    (composed : compose service document = .ok schema) (plain : PlainNames (fold document))
    (keyless : KeylessRoots document) (transformed : transform config schema = .ok result) :
    declaresSupergraph result.toDocument = false ∧
      ∀ other again, compose other result.toDocument = .ok again →
        transform config again = .ok result := by
  have named := operationTypes_fold_named parsed
  obtain ⟨clean, rfl⟩ := compose_ok_iff.mp composed
  have accepted := accepted_of_check (compositionProblems_eq_nil clean).1
  have rooted := rooted_of_transform transformed
  have queries : (serviceDefinitions document).rootTypes.query.isSome := by
    obtain ⟨query, -, -, root⟩ := rooted
    rw [root]
    rfl
  rw [transform_supergraph_of_plain accepted plain rooted] at transformed
  split at transformed
  · cases transformed
  · next wanted =>
      obtain rfl := Except.ok.inj transformed
      have plainAgain := plain_splitService plain config
      constructor
      · rw [declaresSupergraph, directiveDefinitions_toDocument, List.any_eq_false]
        intro directive member marker
        have unmarked := plainAgain.directives directive (by rwa [fold_splitService])
        rw [beq_iff_eq.mp marker] at unmarked
        revert unmarked
        decide
      · intro other again composedAgain
        obtain ⟨cleanAgain, rfl⟩ := compose_ok_iff.mp composedAgain
        have acceptedAgain := accepted_of_check (compositionProblems_eq_nil cleanAgain).1
        rw [transform_supergraph_of_plain acceptedAgain plainAgain
            (rooted_splitService named rooted config),
          keyedNames_splitService keyless, if_neg wanted, splitService_splitService named keyless
            queries]

def keyedSource : String :=
  "type Query { cup: Cup } type Cup @key(fields: \"id\", resolvable: false) { id: ID }"

private def keyedDocument : Document where
  definitions :=
    [.type (plainObject "Query" [plainField "cup" (.named "Cup")]),
      .type {
        plainObject "Cup" [plainField "id" (.named "ID")] with
        directives :=
          [{
            name := "key"
            arguments :=
              [{ name := "fields", value := .text "id", origin := some 46 },
                { name := "resolvable", value := .boolean false, origin := some 64 }]
            origin := some 33
          }]
      }]

private theorem parse_keyedSource : Document.parse keyedSource = .ok keyedDocument := by
  simp only [Document.parse, tokens, keyedSource, String.reduceToList]
  decide

theorem transform_of_compose_split_keyedSource :
    ∃ document schema result again,
      Document.parse keyedSource = .ok document ∧ compose "cups" document = .ok schema ∧
        PlainNames (fold document) ∧ KeylessRoots document ∧
        transform Config.default schema = .ok result ∧
        declaresSupergraph result.toDocument = false ∧
        compose "cups" result.toDocument = .ok again ∧
        transform Config.default again = .ok result := by
  have composed : compose "cups" keyedDocument =
      .ok (supergraph "cups" (serviceDefinitions keyedDocument)) :=
    compose_ok_iff.mpr ⟨List.isEmpty_iff.mp (by decide), rfl⟩
  have plain : PlainNames (fold keyedDocument) :=
    { types := by decide
      usages := by decide
      directives := by decide }
  have keyless : KeylessRoots keyedDocument := by
    unfold KeylessRoots
    decide
  have rooted : ∃ query ∈ (serviceDefinitions keyedDocument).types, query.kind = .object ∧
      (serviceDefinitions keyedDocument).rootTypes.query = some query.name := by
    decide
  have transformed : transform Config.default
      (supergraph "cups" (serviceDefinitions keyedDocument)) =
        .ok (splitService Config.default keyedDocument) := by
    have clean := (compose_ok_iff.mp composed).1
    rw [transform_supergraph_of_plain (accepted_of_check (compositionProblems_eq_nil clean).1)
      plain rooted]
    exact if_neg (by decide)
  have again : compose "cups" (splitService Config.default keyedDocument).toDocument =
      .ok (supergraph "cups"
        (serviceDefinitions (splitService Config.default keyedDocument).toDocument)) :=
    compose_ok_iff.mpr ⟨List.isEmpty_iff.mp rfl, rfl⟩
  obtain ⟨service, back⟩ :=
    transform_of_compose_split parse_keyedSource composed plain keyless transformed
  exact ⟨_, _, _, _, parse_keyedSource, composed, plain, keyless, transformed, service, again,
    back _ _ again⟩

end FederationSplit.Federation
