import FederationSplit.Proofs.Schema.Merging

namespace FederationSplit.Schema

open FederationSplit.Syntax
open FederationSplit.Rules

/-- The names of the types that a document defines, in the order of their first definitions. -/
def definedNames (document : Document) : List Name :=
  (typeNames document).eraseDups

/-- The names that a document extends only, in the order of their first extensions. -/
def orphanNames (document : Document) : List Name :=
  (((typeExtensions document).map (·.name)).filter (· ∉ definedNames document)).eraseDups

def unionMembers : TypeBody → List Name
  | .union members => members
  | _ => []

def enumValues : TypeBody → List EnumValueDefinition
  | .enum values => values
  | _ => []

def inputObjectFields : TypeBody → List InputValueDefinition
  | .inputObject fields => fields
  | _ => []

/-- A body with what others add to it: each of its lists, followed by those of the others. -/
def joinedBody (body : TypeBody) (others : List TypeBody) : TypeBody :=
  match body with
  | .scalar => .scalar
  | .object interfaces fields =>
      .object (interfaces ++ others.flatMap (·.interfaces)) (fields ++ others.flatMap (·.fields))
  | .interface interfaces fields =>
      .interface (interfaces ++ others.flatMap (·.interfaces))
        (fields ++ others.flatMap (·.fields))
  | .union members => .union (members ++ others.flatMap unionMembers)
  | .enum values => .enum (values ++ others.flatMap enumValues)
  | .inputObject fields => .inputObject (fields ++ others.flatMap inputObjectFields)

def extensionsOfKind (kind : TypeKind) (extensions : List TypeExtension) : List TypeExtension :=
  extensions.filter (·.body.kind = kind)

def joinedType (type : TypeDefinition) (extensions : List TypeExtension) : TypeDefinition :=
  { type with
    directives :=
      type.directives ++ (extensionsOfKind type.kind extensions).flatMap (·.directives)
    body := joinedBody type.body ((extensionsOfKind type.kind extensions).map (·.body)) }

/-- What a document says of a type: its first definition, or what its extensions make of it. -/
def gatheredType? (document : Document) (name : Name) : Option TypeDefinition :=
  match findType? (typeDefinitions document) name,
      extensionsOf name (typeExtensions document) with
  | some type, extensions => some (joinedType type extensions)
  | none, first :: rest => some (joinedType (definitionOfExtension first) rest)
  | none, [] => none

/-- The last setting of each operation, in the order in which the operations are first set. -/
def lastSettings (settings : List (OperationType × Name)) : List (OperationType × Name) :=
  (settings.map (·.1)).eraseDups.filterMap fun operation =>
    (settings.reverse.lookup operation).map (operation, ·)

def definitionProblem? (earlier : List Definition) : Definition → Option FoldingProblem
  | .type type =>
      if type.name ∈ typeNames { definitions := earlier } then some (.duplicateType type.name)
      else none
  | .operation _ => some .executableOperation
  | .fragment _ => some .executableFragment
  | _ => none

/-- The problem of an extension that is of another kind than its type. -/
def extensionProblem? (document : Document) (extension : TypeExtension) : Option FoldingProblem :=
  if (gatheredType? document extension.name).any (·.kind ≠ extension.body.kind) then
    some (.wrongKind extension.body.kind extension.name)
  else none

/-- What all definitions of a document say together. -/
def gathered (document : Document) : Definitions where
  types := (definedNames document ++ orphanNames document).filterMap (gatheredType? document)
  directives := directiveDefinitions document
  schemaDirectives := (schemaParts document.definitions).flatMap (·.directives)
  operationTypes :=
    lastSettings ((schemaParts document.definitions).flatMap (·.operationTypes))
  problems :=
    (document.definitions.zipIdx.filterMap fun (definition, position) =>
      definitionProblem? (document.definitions.take position) definition) ++
    (typeExtensions document).filterMap (extensionProblem? document)

/-- If each step adds the key of its item unless it is there, keys stand where they come first. -/
private theorem keys_foldl {State Item Key : Type} [DecidableEq Key] (keys : State → List Key)
    {key : Item → Key} {step : State → Item → State}
    (adds : ∀ state item, keys (step state item) =
      if key item ∈ keys state then keys state else keys state ++ [key item])
    (items : List Item) (state : State) :
    keys (items.foldl step state) =
      keys state ++ ((items.map key).filter (· ∉ keys state)).eraseDups := by
  induction items generalizing state with
  | nil => simp
  | cons head tail induction =>
      rw [List.foldl_cons, induction, adds, List.map_cons]
      by_cases present : key head ∈ keys state
      · rw [if_pos present, List.filter_cons_of_neg (by simpa using present)]
      · rw [if_neg present, List.filter_cons_of_pos (by simpa using present), List.eraseDups_cons,
          List.filter_filter, List.append_assoc, List.singleton_append]
        congr 3
        apply List.filter_congr
        intro other _
        rw [Bool.eq_iff_iff]
        simp [and_comm]

theorem eq_filterMap_findType? {types chosen : List TypeDefinition}
    (distinct : DistinctNames types) (among : ∀ type ∈ chosen, type ∈ types) :
    chosen = (chosen.map (·.name)).filterMap (findType? types) := by
  rw [List.filterMap_map]
  have found : ∀ type ∈ chosen, (findType? types ∘ (·.name)) type = some type := by
    intro type member
    exact (findType?_eq_some_iff distinct).mpr ⟨among type member, rfl⟩
  rw [List.filterMap_congr found, List.filterMap_some]

private def keepFirst (types : List TypeDefinition) (type : TypeDefinition) :
    List TypeDefinition :=
  if (findType? types type.name).isSome then types else types ++ [type]

private theorem types_grouped (items : List Definition) (definitions : Definitions) :
    (items.foldl Definitions.addDefinition definitions).types =
      (typeDefinitions { definitions := items }).foldl keepFirst definitions.types := by
  induction items generalizing definitions with
  | nil => rfl
  | cons head tail induction =>
      rw [List.foldl_cons, induction]
      cases head with
      | type type =>
          change _ = (typeDefinitions { definitions := tail }).foldl keepFirst
            (keepFirst definitions.types type)
          congr 1
          rw [Definitions.addDefinition, keepFirst]
          split <;> rfl
      | operation | fragment | schema | schemaExtension | typeExtension | directive => rfl

private theorem names_keepFirst (types : List TypeDefinition) (type : TypeDefinition) :
    (keepFirst types type).map (·.name) =
      if type.name ∈ types.map (·.name) then types.map (·.name)
      else types.map (·.name) ++ [type.name] := by
  unfold keepFirst
  simp only [findType?_isSome_iff]
  split
  · rfl
  · rw [List.map_append, List.map_singleton]

theorem findType?_append (types others : List TypeDefinition) (name : Name) :
    findType? (types ++ others) name = (findType? types name).or (findType? others name) :=
  List.find?_append

private theorem findType?_foldl_keepFirst (items types : List TypeDefinition) (name : Name) :
    findType? (items.foldl keepFirst types) name =
      (findType? types name).or (findType? items name) := by
  induction items generalizing types with
  | nil => exact (Option.or_none).symm
  | cons head tail induction =>
      rw [List.foldl_cons, induction, ← List.singleton_append, findType?_append, ← Option.or_assoc]
      congr 1
      unfold keepFirst
      split
      · next taken =>
          by_cases same : head.name = name
          · obtain ⟨type, found⟩ := Option.isSome_iff_exists.mp (same ▸ taken)
            rw [found, Option.some_or]
          · have missing : findType? [head] name = none := by simp [findType?, same]
            rw [missing, Option.or_none]
      · exact findType?_append ..

private theorem names_grouped (items : List Definition) :
    (items.foldl Definitions.addDefinition Definitions.empty).types.map (·.name) =
      (typeNames { definitions := items }).eraseDups := by
  rw [types_grouped,
    keys_foldl (fun types : List TypeDefinition => types.map (·.name)) names_keepFirst]
  simp [Definitions.empty, typeNames]

private theorem findType?_grouped (items : List Definition) (name : Name) :
    findType? (items.foldl Definitions.addDefinition Definitions.empty).types name =
      findType? (typeDefinitions { definitions := items }) name := by
  rw [types_grouped, findType?_foldl_keepFirst]
  rfl

private theorem names_addExtension (definitions : Definitions) (extension : TypeExtension) :
    (definitions.addExtension extension).types.map (·.name) =
      if extension.name ∈ definitions.types.map (·.name) then definitions.types.map (·.name)
      else definitions.types.map (·.name) ++ [extension.name] := by
  unfold Definitions.addExtension
  split
  · next missing =>
      rw [if_neg (findType?_eq_none_iff.mp missing), List.map_append]
      rfl
  · next type found =>
      have present : extension.name ∈ definitions.types.map (·.name) :=
        findType?_isSome_iff.mp (Option.isSome_of_eq_some found)
      rw [if_pos present]
      split
      · rfl
      · next extended joined =>
          obtain ⟨body, -, rfl⟩ := Option.map_eq_some_iff.mp joined
          apply map_name_setType_of_mem
          exact List.mem_map_of_mem (f := (·.name)) (mem_of_findType? found).1

theorem names_fold (document : Document) :
    (fold document).types.map (·.name) = definedNames document ++ orphanNames document := by
  have extended := keys_foldl (fun definitions : Definitions => definitions.types.map (·.name))
    names_addExtension (typeExtensions document)
  rw [fold, extended, names_grouped]
  rfl

private theorem extendBody?_eq (body other : TypeBody) :
    extendBody? body other =
      if other.kind = body.kind then some (joinedBody body [other]) else none := by
  cases body <;> cases other <;>
    simp [extendBody?, joinedBody, TypeBody.kind, TypeBody.interfaces, TypeBody.fields,
      unionMembers, enumValues, inputObjectFields]

private theorem joinedBody_nil (body : TypeBody) : joinedBody body [] = body := by
  cases body <;> simp [joinedBody]

private theorem joinedBody_cons (body first : TypeBody) (rest : List TypeBody) :
    joinedBody (joinedBody body [first]) rest = joinedBody body (first :: rest) := by
  cases body <;> simp [joinedBody]

private theorem kind_joinedBody (body : TypeBody) (others : List TypeBody) :
    (joinedBody body others).kind = body.kind := by
  cases body <;> rfl

theorem joinedType_nil (type : TypeDefinition) : joinedType type [] = type := by
  simp [joinedType, extensionsOfKind, joinedBody_nil]

private theorem joinedType_cons (type : TypeDefinition) (head : TypeExtension)
    (tail : List TypeExtension) :
    joinedType ((extendType? type head).getD type) tail = joinedType type (head :: tail) := by
  rw [extendType?, extendBody?_eq]
  by_cases sameKind : head.body.kind = type.body.kind
  · have here : extensionsOfKind type.kind (head :: tail) =
        head :: extensionsOfKind type.kind tail :=
      List.filter_cons_of_pos (decide_eq_true sameKind)
    rw [if_pos sameKind, joinedType, joinedType, here]
    simp only [Option.map_some, Option.getD_some, TypeDefinition.kind, kind_joinedBody,
      joinedBody_cons, List.append_assoc, List.flatMap_cons, List.map_cons]
  · have elsewhere : extensionsOfKind type.kind (head :: tail) =
        extensionsOfKind type.kind tail :=
      List.filter_cons_of_neg fun same => sameKind (of_decide_eq_true same)
    rw [if_neg sameKind, joinedType, joinedType, elsewhere]
    rfl

theorem kind_joinedType (type : TypeDefinition) (extensions : List TypeExtension) :
    (joinedType type extensions).kind = type.kind :=
  kind_joinedBody ..

/-- What is found under a name once an extension of that name is folded in. -/
def extendFound (found : Option TypeDefinition) (extension : TypeExtension) :
    Option TypeDefinition :=
  match found with
  | none => some (definitionOfExtension extension)
  | some type => some ((extendType? type extension).getD type)

private theorem findType?_addExtension (definitions : Definitions) (extension : TypeExtension)
    (name : Name) :
    findType? (definitions.addExtension extension).types name =
      if extension.name = name then extendFound (findType? definitions.types name) extension
      else findType? definitions.types name := by
  unfold Definitions.addExtension
  split
  · next missing =>
      rw [findType?_append]
      by_cases same : extension.name = name
      · subst same
        rw [if_pos rfl, missing]
        simp [findType?, definitionOfExtension, extendFound]
      · rw [if_neg same]
        simp [findType?, definitionOfExtension, same]
  · next type found =>
      have named := (mem_of_findType? found).2
      split
      · next unjoined =>
          split
          · next same =>
              subst same
              rw [found, extendFound, unjoined]
              exact found
          · rfl
      · next extended joined =>
          obtain ⟨body, -, rfl⟩ := Option.map_eq_some_iff.mp joined
          split
          · next same =>
              subst same
              rw [found, extendFound, joined, ← named]
              exact findType?_setType _ _
          · next other =>
              apply findType?_setType_of_ne
              exact fun same => other (named.symm.trans same)

private theorem findType?_foldl_addExtension (extensions : List TypeExtension)
    (definitions : Definitions) (name : Name) :
    findType? (extensions.foldl Definitions.addExtension definitions).types name =
      (extensionsOf name extensions).foldl extendFound (findType? definitions.types name) := by
  induction extensions generalizing definitions with
  | nil => rfl
  | cons head tail induction =>
      rw [List.foldl_cons, induction, findType?_addExtension, extensionsOf, extensionsOf]
      by_cases same : head.name = name
      · rw [if_pos same, List.filter_cons_of_pos (by simpa using same)]
        rfl
      · rw [if_neg same, List.filter_cons_of_neg (by simpa using same)]

theorem foldl_extendFound (extensions : List TypeExtension) (type : TypeDefinition) :
    extensions.foldl extendFound (some type) = some (joinedType type extensions) := by
  induction extensions generalizing type with
  | nil => rw [joinedType_nil]; rfl
  | cons head tail induction =>
      rw [List.foldl_cons, extendFound, induction, joinedType_cons]

theorem gatheredType?_eq_foldl (document : Document) (name : Name) :
    gatheredType? document name =
      (extensionsOf name (typeExtensions document)).foldl extendFound
        (findType? (typeDefinitions document) name) := by
  rw [gatheredType?]
  cases findType? (typeDefinitions document) name with
  | some type => exact (foldl_extendFound ..).symm
  | none =>
      cases extensionsOf name (typeExtensions document) with
      | nil => rfl
      | cons first rest => exact (foldl_extendFound ..).symm

theorem findType?_fold (document : Document) (name : Name) :
    findType? (fold document).types name = gatheredType? document name := by
  rw [fold, findType?_foldl_addExtension, findType?_grouped, gatheredType?_eq_foldl]

private theorem names_setOperationType (items : List (OperationType × Name))
    (item : OperationType × Name) :
    (setOperationType item.1 item.2 items).map (·.1) =
      if item.1 ∈ items.map (·.1) then items.map (·.1) else items.map (·.1) ++ [item.1] := by
  induction items with
  | nil => rfl
  | cons head tail induction =>
      rw [setOperationType]
      by_cases same : head.1 = item.1
      · rw [if_pos same, if_pos (by simp [same])]
        simp [same]
      · simp only [if_neg same, List.map_cons, induction, List.mem_cons, Ne.symm same, false_or]
        split <;> rfl

private theorem lookup_cons_eq (item : OperationType × Name) (items : List (OperationType × Name))
    (operation : OperationType) :
    (item :: items).lookup operation =
      if operation = item.1 then some item.2 else items.lookup operation := by
  rw [List.lookup_cons]
  by_cases same : operation = item.1
  · rw [if_pos same, beq_iff_eq.mpr same]
  · rw [if_neg same, beq_eq_false_iff_ne.mpr same]

private theorem lookup_setOperationType (item : OperationType × Name)
    (items : List (OperationType × Name)) (operation : OperationType) :
    (setOperationType item.1 item.2 items).lookup operation =
      if operation = item.1 then some item.2 else items.lookup operation := by
  induction items with
  | nil => exact lookup_cons_eq item [] operation
  | cons head tail induction =>
      rw [setOperationType]
      split
      · next same =>
          rw [lookup_cons_eq, lookup_cons_eq, same]
          split <;> rfl
      · next different =>
          rw [lookup_cons_eq, lookup_cons_eq, induction]
          by_cases same : operation = head.1
          · rw [if_pos same, if_pos same, if_neg (same ▸ different)]
          · rw [if_neg same, if_neg same]

private theorem lookup_foldl_setOperationType (settings : List (OperationType × Name))
    (items : List (OperationType × Name)) (operation : OperationType) :
    (settings.foldl (fun items item => setOperationType item.1 item.2 items) items).lookup
        operation =
      (settings.reverse.lookup operation).or (items.lookup operation) := by
  induction settings generalizing items with
  | nil => rfl
  | cons head tail induction =>
      rw [List.foldl_cons, induction, lookup_setOperationType, List.reverse_cons,
        List.lookup_append, Option.or_assoc, lookup_cons_eq, List.lookup_nil]
      congr 1
      split <;> rfl

private theorem eq_filterMap_lookup {items : List (OperationType × Name)}
    (distinct : (items.map (·.1)).Nodup) :
    items = (items.map (·.1)).filterMap fun operation =>
      (items.lookup operation).map (operation, ·) := by
  rw [List.filterMap_map]
  have found : ∀ item ∈ items,
      ((fun operation => (items.lookup operation).map (operation, ·)) ∘ (·.1)) item =
        some item := by
    intro item member
    induction items with
    | nil => cases member
    | cons head tail induction =>
        obtain ⟨headFresh, tailDistinct⟩ := List.nodup_cons.mp distinct
        rw [Function.comp_apply, lookup_cons_eq]
        rcases List.mem_cons.mp member with rfl | later
        · rw [if_pos rfl]
          rfl
        · have other : item.1 ≠ head.1 := fun same =>
            headFresh (List.mem_map.mpr ⟨item, later, same⟩)
          rw [if_neg other]
          exact induction tailDistinct later
  rw [List.filterMap_congr found, List.filterMap_some]

private theorem foldl_setOperationType_eq (settings : List (OperationType × Name)) :
    settings.foldl (fun items item => setOperationType item.1 item.2 items) [] =
      lastSettings settings := by
  have keys := keys_foldl (fun items : List (OperationType × Name) => items.map (·.1))
    names_setOperationType settings []
  have unset : (([] : List (OperationType × Name)).map (·.1)).Nodup := List.nodup_nil
  have distinct : ((settings.foldl (fun items item => setOperationType item.1 item.2 items)
      []).map (·.1)).Nodup := nodup_foldl_setOperationType unset settings
  rw [eq_filterMap_lookup distinct, keys, lastSettings]
  simp only [lookup_foldl_setOperationType, List.lookup_nil, Option.or_none, List.map_nil,
    List.not_mem_nil, not_false_eq_true, decide_true, List.filter_true, List.nil_append]

private theorem stated_grouped (items : List Definition) (definitions : Definitions) :
    (items.foldl Definitions.addDefinition definitions).schemaDirectives =
        definitions.schemaDirectives ++ (schemaParts items).flatMap (·.directives) ∧
      (items.foldl Definitions.addDefinition definitions).operationTypes =
        ((schemaParts items).flatMap (·.operationTypes)).foldl
          (fun items item => setOperationType item.1 item.2 items) definitions.operationTypes := by
  induction items generalizing definitions with
  | nil => exact ⟨(List.append_nil _).symm, rfl⟩
  | cons head tail induction =>
      obtain ⟨directives, operations⟩ := induction (definitions.addDefinition head)
      rw [List.foldl_cons, directives, operations]
      cases head with
      | schema schema | schemaExtension schema =>
          refine ⟨List.append_assoc .., ?_⟩
          change _ = (schema.operationTypes ++ _).foldl _ _
          rw [List.foldl_append]
          rfl
      | type type =>
          rw [Definitions.addDefinition]
          split <;> exact ⟨rfl, rfl⟩
      | operation | fragment | typeExtension | directive => exact ⟨rfl, rfl⟩

theorem stated_fold_eq (document : Document) :
    (fold document).schemaDirectives =
        (schemaParts document.definitions).flatMap (·.directives) ∧
      (fold document).operationTypes =
        lastSettings ((schemaParts document.definitions).flatMap (·.operationTypes)) := by
  obtain ⟨directives, operations⟩ := stated_foldl_addExtension (typeExtensions document)
    (document.definitions.foldl Definitions.addDefinition Definitions.empty)
  obtain ⟨groupedDirectives, groupedOperations⟩ :=
    stated_grouped document.definitions Definitions.empty
  rw [fold, directives, operations, groupedDirectives, groupedOperations,
    ← foldl_setOperationType_eq]
  exact ⟨rfl, rfl⟩

/-! ### Problems -/

theorem problems_addDefinition (earlier : List Definition) (definition : Definition) :
    ((earlier.foldl Definitions.addDefinition Definitions.empty).addDefinition
        definition).problems =
      (earlier.foldl Definitions.addDefinition Definitions.empty).problems ++
        (definitionProblem? earlier definition).toList := by
  cases definition with
  | type type =>
      have known : type.name ∈ typeNames { definitions := earlier } ↔
          (findType? (earlier.foldl Definitions.addDefinition Definitions.empty).types
            type.name).isSome := by
        rw [findType?_isSome_iff, names_grouped, List.mem_eraseDups]
      simp only [Definitions.addDefinition, definitionProblem?, known]
      split
      · rfl
      · exact (List.append_nil _).symm
  | operation | fragment => rfl
  | schema | schemaExtension | typeExtension | directive => exact (List.append_nil _).symm

private theorem problems_grouped (earlier items : List Definition) :
    ((earlier ++ items).foldl Definitions.addDefinition Definitions.empty).problems =
      (earlier.foldl Definitions.addDefinition Definitions.empty).problems ++
        (items.zipIdx earlier.length).filterMap fun (definition, position) =>
          definitionProblem? ((earlier ++ items).take position) definition := by
  induction items generalizing earlier with
  | nil => simp
  | cons head tail induction =>
      have before : (earlier ++ head :: tail).take earlier.length = earlier :=
        List.take_left
      have here : ((earlier ++ [head]).foldl Definitions.addDefinition Definitions.empty).problems =
          (earlier.foldl Definitions.addDefinition Definitions.empty).problems ++
            (definitionProblem? earlier head).toList := by
        rw [List.foldl_append]
        exact problems_addDefinition earlier head
      have step := induction (earlier ++ [head])
      rw [← List.append_cons, here, List.length_append, List.length_singleton] at step
      rw [step, List.append_assoc, List.zipIdx_cons, List.filterMap_cons]
      dsimp only
      rw [before]
      cases definitionProblem? earlier head <;> rfl

private theorem problems_addExtension (definitions : Definitions) (extension : TypeExtension) :
    (definitions.addExtension extension).problems =
      definitions.problems ++
        if (findType? definitions.types extension.name).any (·.kind ≠ extension.body.kind) then
          [.wrongKind extension.body.kind extension.name]
        else [] := by
  unfold Definitions.addExtension
  split
  · next missing => simp [missing]
  · next type found =>
      rw [found, Option.any_some, extendType?, extendBody?_eq]
      by_cases same : extension.body.kind = type.body.kind
      · simp [same, TypeDefinition.kind]
      · simp [same, Ne.symm same, TypeDefinition.kind, Definitions.addProblem]

/-- An extension is wrong for the type that it meets if it is wrong for what becomes of the type. -/
private theorem meets_wrong_kind (definitions : Definitions) (head : TypeExtension)
    (tail : List TypeExtension) :
    (findType? ((head :: tail).foldl Definitions.addExtension definitions).types head.name).any
        (·.kind ≠ head.body.kind) =
      (findType? definitions.types head.name).any (·.kind ≠ head.body.kind) := by
  have here : extensionsOf head.name (head :: tail) = head :: extensionsOf head.name tail :=
    List.filter_cons_of_pos (by simp)
  rw [findType?_foldl_addExtension, here]
  cases findType? definitions.types head.name with
  | none =>
      rw [List.foldl_cons, extendFound, foldl_extendFound, Option.any_some, kind_joinedType]
      simp [definitionOfExtension, TypeDefinition.kind]
  | some type => rw [foldl_extendFound, Option.any_some, Option.any_some, kind_joinedType]

private theorem problems_foldl_addExtension (extensions : List TypeExtension)
    (definitions : Definitions) :
    (extensions.foldl Definitions.addExtension definitions).problems =
      definitions.problems ++ extensions.filterMap fun extension =>
        if (findType? (extensions.foldl Definitions.addExtension definitions).types
            extension.name).any (·.kind ≠ extension.body.kind) then
          some (.wrongKind extension.body.kind extension.name)
        else none := by
  induction extensions generalizing definitions with
  | nil => exact (List.append_nil _).symm
  | cons head tail induction =>
      rw [List.filterMap_cons, meets_wrong_kind, List.foldl_cons, induction,
        problems_addExtension, List.append_assoc]
      split <;> rfl

theorem problems_fold_eq (document : Document) :
    (fold document).problems =
      (document.definitions.foldl Definitions.addDefinition Definitions.empty).problems ++
        (typeExtensions document).filterMap (extensionProblem? document) := by
  have extended := problems_foldl_addExtension (typeExtensions document)
    (document.definitions.foldl Definitions.addDefinition Definitions.empty)
  rw [← fold] at extended
  simp only [findType?_fold] at extended
  exact extended

/-- A document is folded into what its definitions say together. -/
theorem fold_eq_gathered (document : Document) :
    fold document = gathered document ∧
      (gathered document).types.map (·.name) = definedNames document ++ orphanNames document := by
  have types : (fold document).types = (gathered document).types := by
    rw [eq_filterMap_findType? (distinctNames_fold document) fun _ member => member,
      names_fold]
    simp only [findType?_fold]
    rfl
  have grouped := problems_grouped [] document.definitions
  have problems : (fold document).problems = (gathered document).problems := by
    rw [List.nil_append] at grouped
    rw [problems_fold_eq, grouped]
    rfl
  have same : fold document = gathered document :=
    (Definitions.mk.injEq ..).mpr ⟨types, fold_directives document, (stated_fold_eq document).1,
      (stated_fold_eq document).2, problems⟩
  exact ⟨same, same ▸ names_fold document⟩

end FederationSplit.Schema
