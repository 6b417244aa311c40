import FederationSplit.Proofs.Federation.Refusals
import FederationSplit.Rules.Builtin

namespace FederationSplit.Federation

open FederationSplit.Syntax
open FederationSplit.Schema
open FederationSplit.Rules
open FederationSplit.Settings

/-- What the markers of a type stand for: some keys, or that the type may be shared. -/
def KeysOrShared (appended : List DirectiveUsage) : Prop :=
  (appended ≠ [] ∧ ∀ usage ∈ appended, usage.name = "key") ∨ appended = [shareableUsage]

/-- How the usages that the first marker and all markers add to a type are related. -/
structure Refines (type : TypeDefinition) (first all : List DirectiveUsage) : Prop where
  unmarked : type.kind ≠ .object ∨ usagesOf typeMarker type.directives = [] →
    first = [] ∧ all = []
  marked : type.kind = .object → usagesOf typeMarker type.directives ≠ [] →
    KeysOrShared first ∧ KeysOrShared all
  same : (usagesOf typeMarker type.directives).length ≤ 1 ∨
    (∀ marker ∈ usagesOf typeMarker type.directives, isKeyed marker = false) → first = all
  head : type.kind = .object →
    ∀ marker ∈ (usagesOf typeMarker type.directives).head?, isKeyed marker = true →
      ∃ key, key.name = "key" ∧ first = [key] ∧ all.head? = some key

private theorem classifyMarkers_all (marker : DirectiveUsage) (rest : List DirectiveUsage) :
    classifyMarkers .all (marker :: rest) =
      match (marker :: rest).filter isKeyed with
      | [] => [shareableUsage]
      | keyed => keyed.map federationUsage :=
  rfl

theorem keysOrShared_federationUsage (marker : DirectiveUsage) :
    KeysOrShared [federationUsage marker] := by
  cases keyed : isKeyed marker with
  | true =>
      rw [← federationUsage_name, beq_iff_eq] at keyed
      exact .inl ⟨List.cons_ne_nil _ _, List.forall_mem_singleton.mpr keyed⟩
  | false => exact .inr (congrArg ([·]) (federationUsage_of_unkeyed keyed))

theorem keysOrShared_classifyMarkers (selection : MarkerSelection) {markers : List DirectiveUsage}
    (marked : markers ≠ []) : KeysOrShared (classifyMarkers selection markers) := by
  obtain ⟨marker, rest, rfl⟩ := List.exists_cons_of_ne_nil marked
  cases selection with
  | first => exact keysOrShared_federationUsage marker
  | all =>
      rw [classifyMarkers_all]
      split
      · exact .inr rfl
      · next keyed some =>
          refine .inl ⟨fun none => some (List.map_eq_nil_iff.mp none), ?_⟩
          rw [List.forall_mem_map]
          intro other member
          rw [← beq_iff_eq, federationUsage_name]
          exact (List.mem_filter.mp member).2

theorem classifyMarkers_eq_of_plain {markers : List DirectiveUsage}
    (plain : markers.length ≤ 1 ∨ ∀ marker ∈ markers, isKeyed marker = false) :
    classifyMarkers .first markers = classifyMarkers .all markers := by
  cases markers with
  | nil => rfl
  | cons marker rest =>
      rw [classifyMarkers_all]
      change [federationUsage marker] = _
      cases keyed : isKeyed marker with
      | false =>
          have none : (marker :: rest).filter isKeyed = [] := by
            rw [List.filter_cons_of_neg (Bool.eq_false_iff.mp keyed), List.filter_eq_nil_iff]
            intro other member
            rcases plain with short | unkeyed
            · rw [List.length_eq_zero_iff.mp (Nat.le_zero.mp (Nat.le_of_succ_le_succ short))]
                at member
              cases member
            · exact Bool.eq_false_iff.mp (unkeyed other (List.mem_cons_of_mem _ member))
          rw [none, federationUsage_of_unkeyed keyed]
      | true =>
          obtain rfl : rest = [] := by
            rcases plain with short | unkeyed
            · exact List.length_eq_zero_iff.mp (Nat.le_zero.mp (Nat.le_of_succ_le_succ short))
            · cases keyed.symm.trans (unkeyed marker List.mem_cons_self)
          rw [List.filter_cons_of_pos keyed]
          rfl

theorem refines_classifyType (type : TypeDefinition) :
    Refines type (classifyType .first type) (classifyType .all type) where
  unmarked plain := by
    have none (selection : MarkerSelection) : classifyType selection type = [] := by
      rw [classifyType]
      split
      · next object =>
          rw [plain.resolve_left (not_not_intro object)]
          cases selection <;> rfl
      · rfl
    exact ⟨none .first, none .all⟩
  marked object marked := by
    rw [classifyType, classifyType, object]
    exact ⟨keysOrShared_classifyMarkers _ marked, keysOrShared_classifyMarkers _ marked⟩
  same plain := by
    rw [classifyType, classifyType]
    split
    · exact classifyMarkers_eq_of_plain plain
    · rfl
  head object marker isFirst keyed := by
    rw [classifyType, classifyType, object]
    obtain ⟨rest, markers⟩ := List.head?_eq_some_iff.mp isFirst
    dsimp only
    rw [markers]
    refine ⟨federationUsage marker, ?_, rfl, ?_⟩
    · rwa [← beq_iff_eq, federationUsage_name]
    · rw [classifyMarkers_all, List.filter_cons_of_pos keyed]
      rfl

theorem names_entities {schema : SchemaDocument} (distinct : DistinctNames schema.types)
    (selection : MarkerSelection) :
    (entities selection schema).names =
      (schema.types.filter (statesKey selection)).map (·.name) := by
  have keyed : isEntity selection = statesKey selection := by
    funext type
    rw [isEntity_eq, selectedMarkers_any_isKeyed]
  rw [entities, keyed, EntityRegistry.ofList_of_nodup (distinct.sublist List.filter_sublist)]

theorem statesKey_all_of_first {type : TypeDefinition} (states : statesKey .first type = true) :
    statesKey .all type = true := by
  unfold statesKey at states ⊢
  rw [Bool.and_eq_true] at states ⊢
  refine ⟨states.1, ?_⟩
  have keyed := states.2
  dsimp only at keyed ⊢
  cases markers : usagesOf typeMarker type.directives with
  | nil =>
      rw [markers] at keyed
      cases keyed
  | cons marker rest =>
      rw [markers] at keyed
      exact List.any_eq_true.mpr ⟨marker, List.mem_cons_self, keyed⟩

/--
All markers tell more than the first ones. The entities of the first markers are among those of all
markers, in their order, and these are the object types with a marker that carries a key. Each
reading changes nothing but the usages of types, to which it appends its own.
-/
theorem classify_all_refines_first {schema : SchemaDocument}
    (distinct : DistinctNames schema.types) :
    (entities .first schema).names.Sublist (entities .all schema).names ∧
      (entities .all schema).names =
        (schema.types.filter fun type =>
          type.kind = .object && (usagesOf typeMarker type.directives).any isKeyed).map (·.name) ∧
      ∃ first all : TypeDefinition → List DirectiveUsage,
        classify .first schema =
            { schema with
              types := schema.types.map fun type =>
                { type with directives := type.directives ++ first type } } ∧
          classify .all schema =
            { schema with
              types := schema.types.map fun type =>
                { type with directives := type.directives ++ all type } } ∧
          ∀ type ∈ schema.types, Refines type (first type) (all type) := by
  refine ⟨?registered, names_entities distinct .all, classifyType .first, classifyType .all, rfl,
    rfl, fun type _ => refines_classifyType type⟩
  case registered =>
    rw [names_entities distinct, names_entities distinct]
    exact (List.monotone_filter_right _ fun _ => statesKey_all_of_first).map _

def markedSupergraph : SchemaDocument where
  types :=
    [plainObject "Query" [],
      { plainObject "Cup" [] with
        directives :=
          [DirectiveUsage.of typeMarker [],
            DirectiveUsage.of typeMarker [Argument.of "key" (.text "id")]] },
      { plainObject "Pot" [] with
        directives :=
          [DirectiveUsage.of typeMarker [Argument.of "key" (.text "id")],
            DirectiveUsage.of typeMarker [],
            DirectiveUsage.of typeMarker [Argument.of "key" (.text "name")]] }]
  directives := []
  schemaDirectives := []
  rootTypes := { query := some "Query", mutation := none, subscription := none }

theorem entities_markedSupergraph :
    DistinctNames markedSupergraph.types ∧
      ["Pot"].Sublist (entities .all markedSupergraph).names ∧
      (entities .all markedSupergraph).names = ["Cup", "Pot"] := by
  have distinct : DistinctNames markedSupergraph.types :=
    (by decide : ["Query", "Cup", "Pot"].Nodup)
  obtain ⟨registered, keyed, -⟩ := classify_all_refines_first distinct
  have first : (entities .first markedSupergraph).names = ["Pot"] := by decide
  rw [first] at registered
  exact ⟨distinct, registered, keyed.trans (by decide)⟩

end FederationSplit.Federation
