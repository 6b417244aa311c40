import FederationSplit.Schema.Folding
import FederationSplit.Proofs.Schema.TypeNames

namespace FederationSplit.Schema

open FederationSplit.Syntax

theorem Definitions.distinctNames_addDefinition {definitions : Definitions}
    (distinct : DistinctNames definitions.types) (definition : Definition) :
    DistinctNames (definitions.addDefinition definition).types := by
  cases definition with
  | type type =>
      rw [addDefinition]
      split
      · exact distinct
      · next missing =>
          exact distinct.append_fresh (missing ∘ findType?_isSome_iff.mpr)
  | operation | fragment | schema | schemaExtension | typeExtension | directive =>
      exact distinct

theorem Definitions.distinctNames_addExtension {definitions : Definitions}
    (distinct : DistinctNames definitions.types) (extension : TypeExtension) :
    DistinctNames (definitions.addExtension extension).types := by
  unfold addExtension
  split
  · next missing => exact distinct.append_fresh (findType?_eq_none_iff.mp missing)
  · split
    · exact distinct
    · exact distinct.setType

private theorem distinctNames_foldl {α : Type} {step : Definitions → α → Definitions}
    (keeps : ∀ definitions item, DistinctNames definitions.types →
      DistinctNames (step definitions item).types)
    (items : List α) {definitions : Definitions} (distinct : DistinctNames definitions.types) :
    DistinctNames (items.foldl step definitions).types := by
  induction items generalizing definitions with
  | nil => exact distinct
  | cons item rest induction => exact induction (keeps definitions item distinct)

theorem distinctNames_grouped (items : List Definition) :
    DistinctNames (items.foldl Definitions.addDefinition Definitions.empty).types :=
  distinctNames_foldl (fun _ definition distinct =>
    Definitions.distinctNames_addDefinition distinct definition) items DistinctNames.nil

theorem distinctNames_fold (document : Document) : DistinctNames (fold document).types :=
  distinctNames_foldl (fun _ extension distinct =>
    Definitions.distinctNames_addExtension distinct extension)
    (typeExtensions document) (distinctNames_grouped document.definitions)

theorem RootTypes.get_of_mem_items {roots : RootTypes} {item : OperationType × Name}
    (member : item ∈ roots.items) : roots.get item.1 = some item.2 := by
  obtain ⟨operation, _, found⟩ := List.mem_filterMap.mp member
  obtain ⟨name, named, rfl⟩ := Option.map_eq_some_iff.mp found
  exact (Option.filter_eq_some_iff.mp named).1

theorem RootTypes.nodup_operations_items (roots : RootTypes) :
    (roots.items.map (·.1)).Nodup := by
  have all : [OperationType.query, .mutation, .subscription].Nodup := by decide
  rw [items, List.map_filterMap]
  apply all.filterMap
  intro operation other found foundHere foundThere
  simp only [Option.mem_def, Option.map_map, Option.map_eq_some_iff, Function.comp_apply] at *
  obtain ⟨_, -, rfl⟩ := foundHere
  obtain ⟨_, -, same⟩ := foundThere
  exact same.symm

theorem Definitions.rootTypes_get (definitions : Definitions) (operation : OperationType) :
    definitions.rootTypes.get operation =
      if definitions.operationTypes.isEmpty then
        if (findType? definitions.types (RootTypes.conventionalName operation)).isSome then
          some (RootTypes.conventionalName operation)
        else none
      else definitions.operationTypes.lookup operation := by
  cases operation <;> rfl

theorem Definitions.root_named {definitions : Definitions}
    (named : ∀ item ∈ definitions.operationTypes, item.2 ≠ "") {operation : OperationType}
    {name : Name} (root : definitions.rootTypes.get operation = some name) : name ≠ "" := by
  rw [Definitions.rootTypes_get] at root
  split at root
  · split at root
    · rw [← Option.some.inj root]
      cases operation <;> decide
    · cases root
  · obtain ⟨front, back, split, -⟩ := List.lookup_eq_some_iff.mp root
    exact named (operation, name) (by simp [split])

theorem RootTypes.ext_get {roots others : RootTypes}
    (same : ∀ operation, roots.get operation = others.get operation) : roots = others :=
  (RootTypes.mk.injEq ..).mpr ⟨same .query, same .mutation, same .subscription⟩

/-- The names of types and the stated operations decide about the root types. -/
theorem Definitions.rootTypes_congr {definitions others : Definitions}
    (sameNames : definitions.types.map (·.name) = others.types.map (·.name))
    (sameOperations : definitions.operationTypes = others.operationTypes) :
    definitions.rootTypes = others.rootTypes := by
  have declared (name : Name) :
      (findType? definitions.types name).isSome = (findType? others.types name).isSome := by
    rw [Bool.eq_iff_iff, findType?_isSome_iff, findType?_isSome_iff, sameNames]
  simp only [Definitions.rootTypes, sameOperations, declared]

end FederationSplit.Schema
