import FederationSplit.Proofs.Schema.Folding
import FederationSplit.Proofs.Syntax.Reading

namespace FederationSplit.Schema

open FederationSplit.Syntax

private theorem setOperationType_of_notMem {operation : OperationType} {type : Name}
    {items : List (OperationType × Name)} (fresh : operation ∉ items.map (·.1)) :
    setOperationType operation type items = items ++ [(operation, type)] := by
  induction items with
  | nil => rfl
  | cons head tail induction =>
      simp only [List.map_cons, List.mem_cons, not_or] at fresh
      rw [setOperationType, if_neg (Ne.symm fresh.1), induction fresh.2]
      rfl

theorem foldl_setOperationType {stated items : List (OperationType × Name)}
    (distinct : ((stated ++ items).map (·.1)).Nodup) :
    items.foldl (fun set (operation, type) => setOperationType operation type set) stated =
      stated ++ items := by
  induction items generalizing stated with
  | nil => rw [List.foldl_nil, List.append_nil]
  | cons head tail induction =>
      obtain ⟨operation, type⟩ := head
      have fresh : operation ∉ stated.map (·.1) := by
        rw [List.map_append, List.nodup_append] at distinct
        intro member
        exact distinct.2.2 operation member operation List.mem_cons_self rfl
      rw [List.append_cons] at distinct
      rw [List.foldl_cons]
      change tail.foldl _ (setOperationType operation type stated) = _
      rw [setOperationType_of_notMem fresh, induction distinct, ← List.append_cons]

/-- An operation is stated with its root type unless the name of the type is empty. -/
theorem RootTypes.lookup_items (roots : RootTypes) (operation : OperationType) :
    roots.items.lookup operation = (roots.get operation).filter (!·.isEmpty) := by
  have stated (select : OperationType → Option Name) :
      ([OperationType.query, .mutation, .subscription].filterMap fun operation =>
        (select operation).map (operation, ·)).lookup operation = select operation := by
    simp only [List.filterMap_cons, List.filterMap_nil]
    rcases query : select .query with _ | _ <;>
      rcases mutation : select .mutation with _ | _ <;>
        rcases subscription : select .subscription with _ | _ <;>
          cases operation <;>
            first | exact query.symm | exact mutation.symm | exact subscription.symm
  exact stated fun operation => (roots.get operation).filter (!·.isEmpty)

theorem RootTypes.lookup_items_of_named {roots : RootTypes}
    (named : ∀ operation name, roots.get operation = some name → name ≠ "")
    (operation : OperationType) : roots.items.lookup operation = roots.get operation := by
  rw [RootTypes.lookup_items]
  cases root : roots.get operation with
  | none => rfl
  | some name => simp [Option.filter, named operation name root]

theorem Definitions.rootTypes_of_items {definitions : Definitions} {roots : RootTypes}
    (stated : definitions.operationTypes = roots.items)
    (named : ∀ operation name, roots.get operation = some name → name ≠ "")
    (queries : roots.query.isSome) : definitions.rootTypes = roots := by
  have lookup := RootTypes.lookup_items_of_named named
  have someStated : roots.items.isEmpty = false := by
    cases items : roots.items with
    | nil =>
        have none := lookup .query
        rw [items] at none
        change (roots.get .query).isSome at queries
        rw [← none] at queries
        cases queries
    | cons => rfl
  apply RootTypes.ext_get
  intro operation
  rw [Definitions.rootTypes_get, stated, someStated, if_neg Bool.false_ne_true, lookup]

private theorem mem_setOperationType {operation : OperationType} {type : Name}
    {items : List (OperationType × Name)} {item : OperationType × Name}
    (member : item ∈ setOperationType operation type items) :
    item = (operation, type) ∨ item ∈ items := by
  induction items with
  | nil => exact .inl (List.mem_singleton.mp member)
  | cons head tail induction =>
      rw [setOperationType] at member
      split at member
      · rcases List.mem_cons.mp member with here | there
        · exact .inl here
        · exact .inr (List.mem_cons_of_mem _ there)
      · rcases List.mem_cons.mp member with rfl | there
        · exact .inr List.mem_cons_self
        · exact (induction there).imp id (List.mem_cons_of_mem _)

private theorem mem_foldl_setOperationType {stated items : List (OperationType × Name)}
    {item : OperationType × Name}
    (member : item ∈
      items.foldl (fun set (operation, type) => setOperationType operation type set) stated) :
    item ∈ stated ∨ item ∈ items := by
  induction items generalizing stated with
  | nil => exact .inl member
  | cons head tail induction =>
      rcases induction member with earlier | later
      · rcases mem_setOperationType earlier with rfl | before
        · exact .inr List.mem_cons_self
        · exact .inl before
      · exact .inr (List.mem_cons_of_mem _ later)

private theorem operationTypes_addExtension (definitions : Definitions)
    (extension : TypeExtension) :
    (definitions.addExtension extension).operationTypes = definitions.operationTypes := by
  unfold Definitions.addExtension
  split
  · rfl
  · split <;> rfl

theorem mem_operationTypes_fold {document : Document} {item : OperationType × Name}
    (member : item ∈ (fold document).operationTypes) :
    ∃ definition ∈ document.definitions, item ∈ definition.operationTypes := by
  have extended (extensions : List TypeExtension) (definitions : Definitions) :
      (extensions.foldl Definitions.addExtension definitions).operationTypes =
        definitions.operationTypes := by
    induction extensions generalizing definitions with
    | nil => rfl
    | cons head tail induction =>
        rw [List.foldl_cons, induction, operationTypes_addExtension]
  have grouped (items : List Definition) (definitions : Definitions)
      (found : item ∈ (items.foldl Definitions.addDefinition definitions).operationTypes) :
      item ∈ definitions.operationTypes ∨
        ∃ definition ∈ items, item ∈ definition.operationTypes := by
    induction items generalizing definitions with
    | nil => exact .inl found
    | cons head tail induction =>
        rcases induction _ found with earlier | ⟨definition, later, stated⟩
        · have step : item ∈ definitions.operationTypes ∨ item ∈ head.operationTypes := by
            cases head with
            | schema | schemaExtension => exact mem_foldl_setOperationType earlier
            | type type =>
                rw [Definitions.addDefinition] at earlier
                split at earlier <;> exact .inl earlier
            | operation | fragment | typeExtension | directive => exact .inl earlier
          exact step.imp id fun stated => ⟨head, List.mem_cons_self, stated⟩
        · exact .inr ⟨definition, List.mem_cons_of_mem _ later, stated⟩
  rw [fold, extended] at member
  exact (grouped _ _ member).resolve_left (List.not_mem_nil)

theorem operationTypes_fold_named {text : String} {document : Document}
    (parsed : Document.parse text = .ok document) :
    ∀ item ∈ (fold document).operationTypes, item.2 ≠ "" := by
  intro item member
  obtain ⟨definition, definitionMember, stated⟩ := mem_operationTypes_fold member
  exact Document.operationTypes_named parsed definition definitionMember item stated

private theorem foldl_addDefinition_directives (definitions : Definitions)
    (directives : List DirectiveDefinition) :
    (directives.map .directive).foldl Definitions.addDefinition definitions =
      { definitions with directives := definitions.directives ++ directives } := by
  induction directives generalizing definitions with
  | nil => simp
  | cons head tail induction =>
      rw [List.map_cons, List.foldl_cons, induction]
      simp [Definitions.addDefinition]

private theorem foldl_addDefinition_types {definitions : Definitions}
    {types : List TypeDefinition} (distinct : DistinctNames (definitions.types ++ types)) :
    (types.map .type).foldl Definitions.addDefinition definitions =
      { definitions with types := definitions.types ++ types } := by
  induction types generalizing definitions with
  | nil => simp
  | cons head tail induction =>
      have fresh : findType? definitions.types head.name = none := by
        rw [findType?_eq_none_iff]
        rw [DistinctNames, List.map_append, List.nodup_append] at distinct
        intro member
        exact distinct.2.2 head.name member head.name List.mem_cons_self rfl
      have added : definitions.addDefinition (.type head) =
          { definitions with types := definitions.types ++ [head] } := by
        rw [Definitions.addDefinition, fresh]
        rfl
      rw [List.append_cons] at distinct
      rw [List.map_cons, List.foldl_cons, added, induction distinct]
      simp

private theorem typeExtensions_toDocument (schema : SchemaDocument) :
    typeExtensions schema.toDocument = [] := by
  rw [typeExtensions, List.filterMap_eq_nil_iff]
  intro definition member
  simp only [SchemaDocument.toDocument, List.mem_append, List.mem_map] at member
  rcases member with (stated | ⟨_, _, rfl⟩) | ⟨_, _, rfl⟩
  · split at stated
    · rw [List.mem_singleton.mp stated]
    · cases stated
  · rfl
  · rfl

/-- The definitions of a schema, as they are found in its document. -/
theorem fold_toDocument_eq {schema : SchemaDocument} (distinct : DistinctNames schema.types) :
    fold schema.toDocument =
      { types := schema.types
        directives := schema.directives
        schemaDirectives := schema.schemaDirectives
        operationTypes := if schema.needsSchemaDefinition then schema.rootTypes.items else []
        problems := [] } := by
  have operations :
      (([] ++ schema.rootTypes.items).map (fun item : OperationType × Name => item.1)).Nodup :=
    schema.rootTypes.nodup_operations_items
  have first : (if schema.needsSchemaDefinition then
        [Definition.schema schema.schemaDefinition] else []).foldl Definitions.addDefinition
          Definitions.empty =
      { types := []
        directives := []
        schemaDirectives := schema.schemaDirectives
        operationTypes := if schema.needsSchemaDefinition then schema.rootTypes.items else []
        problems := [] } := by
    cases needed : schema.needsSchemaDefinition with
    | true =>
        rw [if_pos rfl, if_pos rfl, List.foldl_cons, List.foldl_nil, Definitions.addDefinition,
          Definitions.addSchema]
        congr 1
        exact foldl_setOperationType operations
    | false =>
        rw [SchemaDocument.needsSchemaDefinition, Bool.or_eq_false_iff] at needed
        have unused : schema.schemaDirectives = [] := by simpa using needed.1
        rw [unused]
        rfl
  rw [fold, typeExtensions_toDocument, List.foldl_nil, SchemaDocument.toDocument,
    List.foldl_append, List.foldl_append, first, foldl_addDefinition_directives]
  exact foldl_addDefinition_types distinct

theorem fold_toDocument {schema : SchemaDocument} (distinct : DistinctNames schema.types)
    (stated : schema.needsSchemaDefinition = true) :
    fold schema.toDocument =
      { types := schema.types
        directives := schema.directives
        schemaDirectives := schema.schemaDirectives
        operationTypes := schema.rootTypes.items
        problems := [] } := by
  rw [fold_toDocument_eq distinct, if_pos stated]

/-- A schema with named root types is found again in its document. -/
theorem toSchemaDocument_fold_toDocument {schema : SchemaDocument}
    (distinct : DistinctNames schema.types) (stated : schema.needsSchemaDefinition = true)
    (named : ∀ operation name, schema.rootTypes.get operation = some name → name ≠ "")
    (queries : schema.rootTypes.query.isSome) :
    (fold schema.toDocument).toSchemaDocument = schema := by
  rw [fold_toDocument distinct stated]
  exact (SchemaDocument.mk.injEq ..).mpr
    ⟨rfl, rfl, rfl, Definitions.rootTypes_of_items rfl named queries⟩

end FederationSplit.Schema
