import FederationSplit.Proofs.Schema.Regrouping
import FederationSplit.Rules.Builtin

namespace FederationSplit.Schema

open FederationSplit.Syntax
open FederationSplit.Rules

/-- The conventional names tell the root types: a type has one if and only if it is a root. -/
def RootsByName (schema : SchemaDocument) : Prop :=
  ∀ operation, (schema.rootTypes.get operation).isSome ↔
    RootTypes.conventionalName operation ∈ schema.types.map (·.name)

/-- The root types of a schema that are stated nowhere. -/
def rootByName? (schema : SchemaDocument) (operation : OperationType) : Option Name :=
  if RootTypes.conventionalName operation ∈ schema.types.map (·.name) then
    some (RootTypes.conventionalName operation)
  else none

theorem Definitions.rootTypes_get_of_unstated {definitions : Definitions}
    (unstated : definitions.operationTypes = []) (operation : OperationType) :
    definitions.rootTypes.get operation =
      rootByName? definitions.toSchemaDocument operation := by
  rw [Definitions.rootTypes_get, unstated, List.isEmpty_nil, if_pos rfl, rootByName?]
  simp only [findType?_isSome_iff]
  rfl

theorem Definitions.unstated_of_items_eq_nil {definitions : Definitions}
    (named : ∀ item ∈ definitions.operationTypes, item.2 ≠ "")
    (none : definitions.rootTypes.items = []) : definitions.operationTypes = [] := by
  cases stated : definitions.operationTypes with
  | nil => rfl
  | cons head tail =>
      have root : definitions.rootTypes.get head.1 = some head.2 := by
        rw [Definitions.rootTypes_get, stated, List.isEmpty_cons, if_neg Bool.false_ne_true,
          List.lookup_cons, beq_self_eq_true]
      have lookup := RootTypes.lookup_items_of_named
        (fun _ _ => Definitions.root_named named) head.1
      rw [none, root] at lookup
      cases lookup

section

variable {definitions : Definitions} (distinct : DistinctNames definitions.types)
  (named : ∀ item ∈ definitions.operationTypes, item.2 ≠ "")

include distinct named

/-- The root types that are found in the document of folded definitions. -/
theorem rootTypes_get_fold_toDocument (operation : OperationType) :
    (fold definitions.toSchemaDocument.toDocument).rootTypes.get operation =
      if definitions.toSchemaDocument.needsSchemaDefinition then
        definitions.rootTypes.get operation
      else rootByName? definitions.toSchemaDocument operation := by
  have distinct : DistinctNames definitions.toSchemaDocument.types := distinct
  rw [fold_toDocument_eq distinct]
  split
  · next needed =>
      cases items : definitions.rootTypes.items with
      | nil =>
          have unstated := Definitions.unstated_of_items_eq_nil named items
          rw [Definitions.rootTypes_get_of_unstated unstated]
          exact Definitions.rootTypes_get_of_unstated items operation
      | cons head tail =>
          rw [Definitions.rootTypes_get]
          change (if definitions.rootTypes.items.isEmpty = true then _
            else definitions.rootTypes.items.lookup operation) = _
          rw [RootTypes.lookup_items_of_named (fun _ _ => Definitions.root_named named), items,
            List.isEmpty_cons, if_neg Bool.false_ne_true]
  · exact Definitions.rootTypes_get_of_unstated rfl operation

end

private theorem get_eq_rootByName?_iff {schema : SchemaDocument}
    (conventional : ∀ operation name, schema.rootTypes.get operation = some name →
      name = RootTypes.conventionalName operation) :
    (∀ operation, rootByName? schema operation = schema.rootTypes.get operation) ↔
      RootsByName schema := by
  apply forall_congr'
  intro operation
  unfold rootByName?
  cases root : schema.rootTypes.get operation with
  | none => simp
  | some name =>
      rw [conventional operation name root]
      simp

private theorem conventional_of_unneeded {schema : SchemaDocument}
    (named : ∀ operation name, schema.rootTypes.get operation = some name → name ≠ "")
    (unneeded : schema.needsSchemaDefinition = false) {operation : OperationType} {name : Name}
    (root : schema.rootTypes.get operation = some name) :
    name = RootTypes.conventionalName operation := by
  have present : (operation, name) ∈ schema.rootTypes.items := by
    rw [RootTypes.items, List.mem_filterMap]
    exact ⟨operation, by cases operation <;> decide, by simp [root, named operation name root]⟩
  rw [SchemaDocument.needsSchemaDefinition, Bool.or_eq_false_iff] at unneeded
  have same := List.any_eq_false.mp unneeded.2 (operation, name) present
  exact (by simpa using same : RootTypes.conventionalName operation = name).symm

/--
A schema that is folded from a text is found again in its own document: its types, directive
definitions and schema usages as they are, and its root types as long as the schema definition is
written, or the conventional names tell them.
-/
theorem fold_toDocument_of_parse {source : String} {document : Document}
    (parsed : Document.parse source = .ok document) :
    (fold (fold document).toSchemaDocument.toDocument).problems = [] ∧
      (fold (fold document).toSchemaDocument.toDocument).types = (fold document).types ∧
      (fold (fold document).toSchemaDocument.toDocument).directives =
        (fold document).directives ∧
      (fold (fold document).toSchemaDocument.toDocument).schemaDirectives =
        (fold document).schemaDirectives ∧
      (∀ operation,
        (fold (fold document).toSchemaDocument.toDocument).rootTypes.get operation =
          if (fold document).toSchemaDocument.needsSchemaDefinition then
            (fold document).rootTypes.get operation
          else rootByName? (fold document).toSchemaDocument operation) ∧
      ((fold (fold document).toSchemaDocument.toDocument).toSchemaDocument =
          (fold document).toSchemaDocument ↔
        (fold document).toSchemaDocument.needsSchemaDefinition = true ∨
          RootsByName (fold document).toSchemaDocument) := by
  have distinct : DistinctNames (fold document).toSchemaDocument.types :=
    distinctNames_fold document
  have stated := operationTypes_fold_named parsed
  have roots := rootTypes_get_fold_toDocument distinct stated
  have found := fold_toDocument_eq distinct
  refine ⟨by rw [found], by rw [found]; rfl, by rw [found]; rfl, by rw [found]; rfl, roots, ?_⟩
  -- Apart from the root types all is found again, so they alone decide.
  have onlyRoots : (fold (fold document).toSchemaDocument.toDocument).toSchemaDocument =
        (fold document).toSchemaDocument ↔
      ∀ operation, (fold (fold document).toSchemaDocument.toDocument).rootTypes.get operation =
        (fold document).rootTypes.get operation := by
    constructor
    · intro same operation
      exact congrArg (·.rootTypes.get operation) same
    · intro same
      have sameRoots := RootTypes.ext_get same
      rw [found] at sameRoots ⊢
      exact (SchemaDocument.mk.injEq ..).mpr ⟨rfl, rfl, rfl, sameRoots⟩
  rw [onlyRoots]
  cases needed : (fold document).toSchemaDocument.needsSchemaDefinition with
  | true => simp [roots, needed]
  | false =>
      have conventional : ∀ operation name,
          (fold document).toSchemaDocument.rootTypes.get operation = some name →
            name = RootTypes.conventionalName operation := fun _ _ root =>
        conventional_of_unneeded (fun _ _ => Definitions.root_named stated) needed root
      simp only [roots, needed, Bool.false_eq_true, if_false, false_or]
      exact get_eq_rootByName?_iff conventional

/-- A schema that answers queries only, although a type is called like the root of mutations. -/
def queriesOnlySource : String :=
  "schema { query: Query } type Query { f: Int } type Mutation { g: Int }"

def queriesOnlyDocument : Document where
  definitions :=
    [.schema {
        description := none
        directives := []
        operationTypes := [(.query, "Query")]
      },
      .type (plainObject "Query" [plainField "f" (.named "Int")]),
      .type (plainObject "Mutation" [plainField "g" (.named "Int")])]

private theorem parse_queriesOnlySource :
    Document.parse queriesOnlySource = .ok queriesOnlyDocument := by
  decide +kernel

theorem mutations_gained_queriesOnlySource :
    Document.parse queriesOnlySource = .ok queriesOnlyDocument ∧
      (fold queriesOnlyDocument).problems = [] ∧
      (fold queriesOnlyDocument).rootTypes.mutation = none ∧
      (fold (fold queriesOnlyDocument).toSchemaDocument.toDocument).rootTypes.mutation =
        some "Mutation" := by
  obtain ⟨-, -, -, -, roots, -⟩ := fold_toDocument_of_parse parse_queriesOnlySource
  exact ⟨parse_queriesOnlySource, by decide, by decide,
    (roots .mutation).trans (by decide)⟩

end FederationSplit.Schema
