import FederationSplit.Proofs.TypeSystem.Resolving

namespace FederationSplit.TypeSystem

open FederationSplit.Syntax
open FederationSplit.Schema
open FederationSplit.Rules
open FederationSplit.Federation

theorem Quiet.mapM {ι α : Type} {step : ι → Resolution α} {items : List ι}
    (quiet : ∀ item ∈ items, Quiet (step item)) : Quiet (items.mapM step) := by
  induction items with
  | nil => exact Quiet.pure []
  | cons head tail induction =>
      rw [List.forall_mem_cons] at quiet
      rw [List.mapM_cons]
      exact quiet.1.bind fun _ => (induction quiet.2).bind fun _ => Quiet.pure _

theorem Quiet.check {α : Type} (condition : Bool) (cause : FaultCause) {step : Resolution α}
    (quiet : Quiet step) :
    Quiet (do
      unless condition do
        failWith cause
      step) := by
  cases condition with
  | true => exact quiet
  | false =>
      intro table value after ran
      cases ran

def isFlat : Value → Bool
  | .list _ | .object _ => false
  | _ => true

private theorem quiet_coerce_of_flat (declarations : Declarations)
    (inputFields : TypeDefinition → Resolution (List InputField)) {value : Value}
    (flat : isFlat value = true) (type : TypeRef) :
    Quiet (coerce declarations inputFields value type) := by
  unfold isFlat at flat
  split at flat
  · cases flat
  · cases flat
  · next noList noObject =>
      unfold coerce
      split
      · exact Quiet.pure _
      · next items => exact absurd rfl (noList items)
      · next fields => exact absurd rfl (noObject fields)
      · exact quiet_coercePlain _ _ _

/-- A directive without lists and objects among its default values follows no input fields. -/
theorem quiet_resolveDirective_of_flat (declarations : Declarations)
    {directive : DirectiveDefinition}
    (flat : ∀ argument ∈ directive.arguments, argument.defaultValue.all isFlat = true) :
    Quiet (resolveDirective declarations directive) := by
  have slots : Quiet (resolveArguments declarations directive.arguments) := by
    refine Quiet.mapM fun argument member => Quiet.bind ?_ fun _ => Quiet.pure _
    rw [resolveInputSlot_eq]
    refine Quiet.bind ?_ fun default => (quiet_resolveDeprecation _).bind fun _ =>
      Quiet.check _ _ (Quiet.pure _)
    have flatDefault := flat argument member
    unfold resolveDefault
    cases default : argument.defaultValue with
    | none => exact Quiet.pure _
    | some value =>
        rw [default] at flatDefault
        exact quiet_coerce_of_flat declarations _ flatDefault _
  exact slots.bind fun _ => Quiet.pure _

private theorem naming_of_unreserved {name : Name} (unreserved : checkName name = []) :
    (if introspectionTypes.any (·.name == name) then [] else checkName name) = [] := by
  rw [unreserved, ite_self]

theorem inert_scalarType {name : Name} (unreserved : checkName name = []) :
    Inert (scalarType name) where
  shell _ := rfl
  body := by
    refine ⟨.scalar, fun _ _ => rfl, fun schema visited => ?_⟩
    exact Prod.ext (naming_of_unreserved unreserved) rfl

theorem inert_plainEnum {name : Name} {values : List Name} (unreserved : checkName name = [])
    (present : values ≠ []) (valuesUnreserved : ∀ value ∈ values, checkName value = []) :
    Inert (plainEnum name values) where
  shell table := by
    refine (forM_eq_ok_iff fun value => ?_).mpr ⟨rfl, ?_⟩
    · exact (quiet_resolveDeprecation _).bind fun _ => Quiet.pure _
    · rw [List.forall_mem_map]
      exact fun _ _ => rfl
  body := by
    refine ⟨.enum ((values.map (enumValue none)).map (·.name)), fun _ _ => rfl,
      fun schema visited => Prod.ext ?_ rfl⟩
    have names : (values.map (enumValue none)).map (·.name) = values := by
      rw [List.map_map]
      exact List.map_id values
    have sound : checkEnum name ((values.map (enumValue none)).map (·.name)) = [] := by
      rw [names, checkEnum, List.flatMap_eq_nil_iff.mpr valuesUnreserved,
        List.isEmpty_eq_false_iff.mpr present]
      rfl
    exact List.append_eq_nil_iff.mpr ⟨naming_of_unreserved unreserved, sound⟩

theorem inert_plainObject {name field : Name} {type : TypeRef}
    (unreserved : checkName name = []) (fieldUnreserved : checkName field = [])
    (output : ∀ declarations : Declarations, declarations.isOutputType type = true) :
    Inert (plainObject name [plainField field type]) where
  shell _ := rfl
  body := by
    refine ⟨.object [] [{ name := field, type, arguments := [] }], fun declarations table => ?_,
      fun schema visited => Prod.ext ?_ rfl⟩
    · have slot : resolveField declarations (plainField field type) table =
          .ok ({ name := field, type, arguments := [] }, table) := by
        unfold resolveField
        rw [show declarations.isOutputType (plainField field type).type = true from
          output declarations]
        rfl
      have slots : [plainField field type].mapM (resolveField declarations) table =
          .ok ([{ name := field, type, arguments := [] }], table) :=
        mapM_cons_eq_ok_iff.mpr ⟨_, table, [], slot, rfl, rfl⟩
      refine bind_eq_ok_iff.mpr ⟨(), table, rfl, bind_eq_ok_iff.mpr ⟨_, table, ?_, rfl⟩⟩
      exact congrArg (Except.mapError _) slots
    · have sound : checkFieldSlots name [{ name := field, type, arguments := [] }] = [] := by
        rw [checkFieldSlots, List.flatMap_singleton, checkFieldSlot, fieldUnreserved]
        rfl
      exact List.append_eq_nil_iff.mpr
        ⟨List.append_eq_nil_iff.mpr ⟨naming_of_unreserved unreserved, sound⟩, rfl⟩

end FederationSplit.TypeSystem
