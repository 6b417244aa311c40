import FederationSplit.Proofs.Federation.Assembling
import FederationSplit.Proofs.Federation.PassOrder
import Mathlib.Data.List.Perm.Subperm

namespace FederationSplit.Federation

open FederationSplit.Syntax
open FederationSplit.Schema
open FederationSplit.Settings

/-- A step of pruning with its settings, or the addition of a scaffold for some entities. -/
inductive Step where
  | prune (url : String) (selection : MarkerSelection) (pass : Pass)
  | assemble (policy : ScaffoldPolicy) (registry : EntityRegistry)

def Step.isAssembly : Step → Bool
  | .prune .. => false
  | .assemble .. => true

def Step.run (state : SchemaDocument × EntityRegistry) :
    Step → Except ScaffoldError (SchemaDocument × EntityRegistry)
  | .prune url selection pass => .ok (pass.run url selection state)
  | .assemble policy registry =>
      (Federation.assemble policy registry state.1).map fun schema => (schema, state.2)

/-- Some steps, one after another, up to the first scaffold that is refused. -/
def runSteps (steps : List Step) (state : SchemaDocument × EntityRegistry) :
    Except ScaffoldError (SchemaDocument × EntityRegistry) :=
  steps.foldlM Step.run state

theorem runSteps_cons (step : Step) (steps : List Step)
    (state : SchemaDocument × EntityRegistry) :
    runSteps (step :: steps) state = step.run state >>= runSteps steps :=
  List.foldlM_cons

/--
Names that others have become: those of them that are kept, in their order, and new ones behind
them. Only names of composition get lost.
-/
def Continues (before after : List Name) : Prop :=
  ∃ kept added, after = kept ++ added ∧ kept.Sublist before ∧ added.Nodup ∧
    (∀ name ∈ before, isCompositionName name = false → name ∈ kept) ∧
    ∀ name ∈ added, name ∉ before ∧ isCompositionName name = false

theorem Continues.refl (names : List Name) : Continues names names :=
  ⟨names, [], (List.append_nil names).symm, List.Sublist.refl names, List.nodup_nil,
    fun _ member _ => member, List.forall_mem_nil _⟩

theorem continues_append (names : List Name) {new : List Name} (distinct : new.Nodup)
    (plain : ∀ name ∈ new, isCompositionName name = false) :
    Continues names (names ++ new.filter (!names.contains ·)) := by
  refine ⟨names, _, rfl, List.Sublist.refl names, distinct.filter _, fun _ member _ => member,
    fun name member => ?_⟩
  obtain ⟨isNew, absent⟩ := List.mem_filter.mp member
  exact ⟨by simpa using absent, plain name isNew⟩

theorem Continues.trans {before between after : List Name} (first : Continues before between)
    (second : Continues between after) : Continues before after := by
  obtain ⟨kept, added, rfl, sublist, distinct, survives, new⟩ := first
  obtain ⟨keptLater, addedLater, rfl, sublistLater, distinctLater, survivesLater, newLater⟩ :=
    second
  obtain ⟨old, recent, rfl, oldSublist, recentSublist⟩ := List.sublist_append_iff.mp sublistLater
  refine ⟨old, recent ++ addedLater, List.append_assoc .., oldSublist.trans sublist, ?distinct,
    ?survives, List.forall_mem_append.mpr ⟨?recent, ?later⟩⟩
  case distinct =>
    refine (recentSublist.nodup distinct).append distinctLater fun name isRecent isLater => ?_
    exact (newLater name isLater).1
      (List.mem_append_right kept (recentSublist.subset isRecent))
  case survives =>
    intro name member plain
    have later := survivesLater name
      (List.mem_append_left added (survives name member plain)) plain
    exact (List.mem_append.mp later).resolve_right fun isRecent =>
      (new name (recentSublist.subset isRecent)).1 member
  case recent => exact fun name member => new name (recentSublist.subset member)
  case later =>
    intro name member
    obtain ⟨absent, plain⟩ := newLater name member
    -- What is not of composition and stood before would still stand between.
    exact ⟨fun stood => absent (List.mem_append_left added (survives name stood plain)), plain⟩

section

variable {before after : List Name} (continues : Continues before after) (distinct : before.Nodup)

include continues distinct

theorem Continues.nodup : after.Nodup := by
  obtain ⟨kept, added, rfl, sublist, distinctAdded, -, new⟩ := continues
  exact (sublist.nodup distinct).append distinctAdded fun name isKept isAdded =>
    (new name isAdded).1 (sublist.subset isKept)

theorem Continues.filter_contains :
    after.filter before.contains = before.filter after.contains := by
  obtain ⟨kept, added, rfl, sublist, -, -, new⟩ := continues
  have old : (kept ++ added).filter before.contains = kept := by
    rw [List.filter_append, List.filter_eq_self.mpr fun name member => ?_,
      List.filter_eq_nil_iff.mpr fun name member => ?_, List.append_nil]
    · simpa using (new name member).1
    · simpa using sublist.subset member
  have same : before.filter (kept ++ added).contains = before.filter kept.contains := by
    apply List.filter_congr
    intro name member
    have absent : name ∉ added := fun isAdded => (new name isAdded).1 member
    simp [absent]
  have all : kept.filter kept.contains = kept := List.filter_eq_self.mpr (by simp)
  have within : (before.filter kept.contains).length ≤ kept.length := by
    refine ((distinct.filter _).subperm fun name member => ?_).length_le
    simpa using (List.mem_filter.mp member).2
  rw [old, same]
  exact (all ▸ sublist.filter kept.contains).eq_of_length_le within

end

/-! ### What a step keeps -/

/--
What a schema has in common with one that steps have made of it. This composes: a name of
composition that is dropped is never added again.
-/
structure KeepsShape (before after : SchemaDocument) : Prop where
  names : Continues (before.types.map (·.name)) (after.types.map (·.name))
  roots : after.rootTypes = before.rootTypes

theorem KeepsShape.refl (schema : SchemaDocument) : KeepsShape schema schema :=
  ⟨.refl _, rfl⟩

theorem KeepsShape.trans {before between after : SchemaDocument}
    (first : KeepsShape before between) (second : KeepsShape between after) :
    KeepsShape before after :=
  ⟨first.names.trans second.names, second.roots.trans first.roots⟩

theorem KeepsIdentity.keepsShape {change : TypeDefinition → TypeDefinition}
    (keeps : KeepsIdentity change) (schema : SchemaDocument) :
    KeepsShape schema (mapTypes change schema) :=
  ⟨names_mapTypes keeps schema ▸ .refl _, rfl⟩

theorem names_missingLinkTypes (schema : SchemaDocument) :
    (missingLinkTypes schema).map (·.name) =
      (linkTypes.map (·.name)).filter (!(schema.types.map (·.name)).contains ·) := by
  rw [missingLinkTypes, List.filter_map]
  congr 1
  apply List.filter_congr
  intro type _
  rw [Function.comp_apply, Bool.eq_iff_iff, SchemaDocument.type?, Option.isNone_iff_eq_none,
    findType?_eq_none_iff, Bool.not_eq_true', ← Bool.not_eq_true, List.contains_iff_mem]

theorem keepsShape_annotate (url : String) (schema : SchemaDocument) :
    KeepsShape schema (annotate url schema) where
  names := by
    rw [annotate_types, List.map_append, names_missingLinkTypes]
    exact continues_append _ (by decide) (by decide)
  roots := annotate_rootTypes url schema

theorem keepsShape_eliminate (schema : SchemaDocument) :
    KeepsShape schema (eliminate schema) where
  names :=
    ⟨_, [], (List.append_nil _).symm, List.filter_sublist.map _, List.nodup_nil,
      fun _ member plain => (mem_names_keptTypes plain).mpr member, List.forall_mem_nil _⟩
  roots := rfl

theorem keepsShape_assemble {policy : ScaffoldPolicy} {registry : EntityRegistry}
    {schema result : SchemaDocument} (assembled : assemble policy registry schema = .ok result) :
    KeepsShape schema result := by
  obtain ⟨query, found, rfl⟩ := eq_replaced_of_assemble assembled
  constructor
  case names =>
    change Continues _ ((replacedTypes _ registry query schema.types).map (·.name))
    rw [names_replacedTypes (mem_types_of_queryType? found)]
    cases emitsEntities policy.emptyEntity registry <;>
      exact continues_append _ (by decide) (by decide)
  case roots => rfl

theorem keepsShape_pass (pass : Pass) (url : String) (selection : MarkerSelection)
    (state : SchemaDocument × EntityRegistry) :
    KeepsShape state.1 (pass.run url selection state).1 := by
  cases pass with
  | annotate => exact keepsShape_annotate url state.1
  | classify => exact (keepsIdentity_classifiedType selection).keepsShape state.1
  | strip =>
      change KeepsShape state.1 (strip state.1)
      rw [strip_eq_mapTypes]
      exact keepsIdentity_filterType.keepsShape state.1
  | sanitize => exact (keepsIdentity_sanitizedType _).keepsShape state.1
  | eliminate => exact keepsShape_eliminate state.1

theorem keepsShape_step {step : Step} {state result : SchemaDocument × EntityRegistry}
    (ran : step.run state = .ok result) : KeepsShape state.1 result.1 := by
  cases step with
  | prune url selection pass =>
      cases ran
      exact keepsShape_pass pass url selection state
  | assemble policy registry =>
      cases assembled : assemble policy registry state.1 with
      | error error =>
          rw [Step.run, assembled] at ran
          cases ran
      | ok schema =>
          rw [Step.run, assembled] at ran
          cases ran
          exact keepsShape_assemble assembled

theorem keepsShape_runSteps {steps : List Step} {state result : SchemaDocument × EntityRegistry}
    (ran : runSteps steps state = .ok result) : KeepsShape state.1 result.1 := by
  induction steps generalizing state with
  | nil =>
      cases ran
      exact .refl _
  | cons step rest induction =>
      rw [runSteps_cons] at ran
      obtain ⟨between, first, ran⟩ := bind_ok_iff.mp ran
      exact (keepsShape_step first).trans (induction ran)

/-- Every object type of a schema has one of its name in another schema. -/
def KeepsObjects (before after : SchemaDocument) : Prop :=
  ∀ type ∈ before.types, type.kind = .object →
    ∃ other ∈ after.types, other.name = type.name ∧ other.kind = .object

theorem resolves_iff {schema : SchemaDocument} (distinct : DistinctNames schema.types)
    {registry : EntityRegistry} :
    Resolves schema registry ↔
      ∀ name ∈ registry.names, ∃ type ∈ schema.types, type.name = name ∧ type.kind = .object := by
  simp only [Resolves, Option.any_eq_true, SchemaDocument.type?, findType?_eq_some_iff distinct,
    decide_eq_true_eq, and_assoc]

theorem KeepsIdentity.keepsObjects {change : TypeDefinition → TypeDefinition}
    (keeps : KeepsIdentity change) (schema : SchemaDocument) :
    KeepsObjects schema (mapTypes change schema) :=
  fun type member object =>
    ⟨change type, List.mem_map_of_mem member, keeps.name type, (keeps.kind type).trans object⟩

theorem keepsObjects_pass (pass : Pass) (url : String) (selection : MarkerSelection)
    (state : SchemaDocument × EntityRegistry) :
    KeepsObjects state.1 (pass.run url selection state).1 := by
  cases pass with
  | annotate =>
      intro type member object
      refine ⟨type, ?_, rfl, object⟩
      change type ∈ (annotate url state.1).types
      rw [annotate_types]
      exact List.mem_append_left _ member
  | classify => exact (keepsIdentity_classifiedType selection).keepsObjects state.1
  | strip =>
      change KeepsObjects state.1 (strip state.1)
      rw [strip_eq_mapTypes]
      exact keepsIdentity_filterType.keepsObjects state.1
  | sanitize => exact (keepsIdentity_sanitizedType _).keepsObjects state.1
  | eliminate =>
      intro type member object
      refine ⟨type, List.mem_filter.mpr ⟨member, ?_⟩, rfl, object⟩
      rw [survives_of_kind_object object]
      rfl

theorem resolves_entities {schema : SchemaDocument} (distinct : DistinctNames schema.types)
    (selection : MarkerSelection) : Resolves schema (entities selection schema) := by
  rw [resolves_iff distinct, entities,
    EntityRegistry.ofList_of_nodup (distinct.sublist List.filter_sublist), List.forall_mem_map]
  intro type member
  obtain ⟨stands, entity⟩ := List.mem_filter.mp member
  exact ⟨type, stands, rfl, kind_of_isEntity entity⟩

theorem resolves_pass {state : SchemaDocument × EntityRegistry}
    (distinct : DistinctNames state.1.types) (resolves : Resolves state.1 state.2) (pass : Pass)
    (url : String) (selection : MarkerSelection) :
    Resolves (pass.run url selection state).1 (pass.run url selection state).2 := by
  have recorded : Resolves state.1 (pass.run url selection state).2 := by
    cases pass with
    | classify => exact resolves_entities distinct selection
    | annotate | strip | sanitize | eliminate => exact resolves
  have shape := keepsShape_pass pass url selection state
  rw [resolves_iff (shape.names.nodup distinct)]
  rw [resolves_iff distinct] at recorded
  intro name member
  obtain ⟨type, stands, rfl, object⟩ := recorded name member
  exact keepsObjects_pass pass url selection state type stands object

theorem resolves_runSteps {steps : List Step} {state result : SchemaDocument × EntityRegistry}
    (distinct : DistinctNames state.1.types) (resolves : Resolves state.1 state.2)
    (noAssembly : ∀ step ∈ steps, step.isAssembly = false)
    (ran : runSteps steps state = .ok result) : Resolves result.1 result.2 := by
  induction steps generalizing state with
  | nil =>
      cases ran
      exact resolves
  | cons step rest induction =>
      rw [List.forall_mem_cons] at noAssembly
      rw [runSteps_cons] at ran
      obtain ⟨between, first, ran⟩ := bind_ok_iff.mp ran
      have shape := keepsShape_step first
      cases step with
      | assemble policy registry => cases noAssembly.1
      | prune url selection pass =>
          cases first
          exact induction (shape.names.nodup distinct)
            (resolves_pass distinct resolves pass url selection) noAssembly.2 ran

/--
Whatever steps are run from a schema that has been read, its types keep distinct names under which
they are found, its roots stay what they are, and the types that are left stand in their old order.
Unless a scaffold is added, the entities of the latest reading of the markers are object types.
-/
theorem representation_of_runSteps {document : Document} {steps : List Step}
    {schema : SchemaDocument} {registry : EntityRegistry}
    (ran : runSteps steps ((fold document).toSchemaDocument, .empty) = .ok (schema, registry)) :
    (schema.types.map (·.name)).Nodup ∧
      (∀ type ∈ schema.types, schema.type? type.name = some type) ∧
      schema.rootTypes = (fold document).rootTypes ∧
      (schema.types.map (·.name)).filter ((fold document).types.map (·.name)).contains =
        ((fold document).types.map (·.name)).filter (schema.types.map (·.name)).contains ∧
      (∀ type ∈ (fold document).types, isCompositionName type.name = false →
        type.name ∈ schema.types.map (·.name)) ∧
      ((∀ step ∈ steps, step.isAssembly = false) →
        ∀ name ∈ registry.names, ∃ type, schema.type? name = some type ∧ type.kind = .object) := by
  have read := distinctNames_fold document
  have shape := keepsShape_runSteps ran
  have distinct : DistinctNames schema.types := shape.names.nodup read
  refine ⟨distinct, ?found, shape.roots, shape.names.filter_contains read, ?survives, ?entities⟩
  case found => exact fun type member => (findType?_eq_some_iff distinct).mpr ⟨member, rfl⟩
  case survives =>
    intro type member plain
    obtain ⟨kept, added, same, -, -, survives, -⟩ := shape.names
    change type.name ∈ schema.types.map (·.name)
    rw [same]
    exact List.mem_append_left _ (survives _ (List.mem_map_of_mem member) plain)
  case entities =>
    intro noAssembly name member
    have none : Resolves (fold document).toSchemaDocument .empty := List.forall_mem_nil _
    have resolves := resolves_runSteps read none noAssembly ran name member
    simpa only [Option.any_eq_true, decide_eq_true_eq] using resolves

def replacingSteps : List Step :=
  [.prune "" .all .classify,
    .assemble { collision := .replace, emptyEntity := .emit } { names := ["Cup"] },
    .prune "" .first .eliminate, .prune "" .first .strip, .prune "" .first .sanitize,
    .prune "" .first .annotate,
    .assemble { collision := .replace, emptyEntity := .omit } .empty]

def pruningSteps : List Step :=
  [.prune "" .first .classify, .prune "" .all .annotate, .prune "" .all .classify,
    .prune "" .all .strip, .prune "" .all .eliminate, .prune "" .all .strip]

private theorem exists_of_map_eq_ok {ε α β : Type} {outcome : Except ε α} {view : α → β}
    {seen : β} (mapped : outcome.map view = .ok seen) :
    ∃ result, outcome = .ok result ∧ view result = seen := by
  cases outcome with
  | error error => cases mapped
  | ok result => exact ⟨result, rfl, Except.ok.inj mapped⟩

theorem representation_labelledSupergraph :
    (∃ schema registry,
      runSteps replacingSteps ((fold labelledSupergraph).toSchemaDocument, .empty) =
          .ok (schema, registry) ∧
        schema.types.map (·.name) =
          ["Query", "Cup", "_Any", "FieldSet", "_Entity", "link__Import", "link__Purpose"] ∧
        (schema.types.map (·.name)).Nodup ∧
        schema.rootTypes = (fold labelledSupergraph).rootTypes) ∧
      ∃ schema registry,
        runSteps pruningSteps ((fold labelledSupergraph).toSchemaDocument, .empty) =
            .ok (schema, registry) ∧
          registry.names = ["Cup"] ∧
          ∃ type, schema.type? "Cup" = some type ∧ type.kind = .object := by
  constructor
  · have named :
        (runSteps replacingSteps ((fold labelledSupergraph).toSchemaDocument, .empty)).map
            (·.1.types.map (·.name)) =
          .ok ["Query", "Cup", "_Any", "FieldSet", "_Entity", "link__Import",
            "link__Purpose"] := rfl
    obtain ⟨⟨schema, registry⟩, ran, names⟩ := exists_of_map_eq_ok named
    obtain ⟨distinct, -, roots, -⟩ := representation_of_runSteps ran
    exact ⟨schema, registry, ran, names, distinct, roots⟩
  · have recorded :
        (runSteps pruningSteps ((fold labelledSupergraph).toSchemaDocument, .empty)).map
          (fun result => result.2.names) = .ok ["Cup"] := rfl
    obtain ⟨⟨schema, registry⟩, ran, names⟩ := exists_of_map_eq_ok recorded
    have registered : "Cup" ∈ registry.names := by
      rw [show registry.names = ["Cup"] from names]
      exact List.mem_singleton_self "Cup"
    obtain ⟨-, -, -, -, -, resolves⟩ := representation_of_runSteps ran
    exact ⟨schema, registry, ran, names, resolves (by decide) "Cup" registered⟩

end FederationSplit.Federation
