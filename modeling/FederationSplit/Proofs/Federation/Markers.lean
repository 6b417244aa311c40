import FederationSplit.Federation.Composition
import FederationSplit.Proofs.Schema.Usages
import Mathlib.Data.List.Nodup
import Mathlib.Data.List.Perm.Basic

namespace FederationSplit.Federation

open FederationSplit.Syntax
open FederationSplit.Schema

theorem resolvableArgument_cases (key : DirectiveUsage) :
    resolvableArgument key = [] ∨
      resolvableArgument key = [Argument.of "resolvable" (.boolean false)] := by
  unfold resolvableArgument
  split
  · exact .inr rfl
  · exact .inl rfl

private theorem mem_setArgument {new argument : Argument} {set : List Argument}
    (member : argument ∈ setArgument new set) : argument = new ∨ argument ∈ set := by
  induction set with
  | nil => exact .inl (List.mem_singleton.mp member)
  | cons head tail induction =>
      rw [setArgument] at member
      split at member
      · exact (List.mem_cons.mp member).imp_right (List.mem_cons_of_mem head)
      · rcases List.mem_cons.mp member with rfl | there
        · exact .inr List.mem_cons_self
        · exact (induction there).imp_right (List.mem_cons_of_mem head)

private theorem nodup_setArgument (new : Argument) {set : List Argument}
    (distinct : (set.map (·.name)).Nodup) : ((setArgument new set).map (·.name)).Nodup := by
  induction set with
  | nil => exact List.nodup_singleton _
  | cons head tail induction =>
      rw [List.map_cons, List.nodup_cons] at distinct
      rw [setArgument]
      split
      · next same =>
          rw [List.map_cons, List.nodup_cons, ← beq_iff_eq.mp same]
          exact distinct
      · next other =>
          rw [List.map_cons, List.nodup_cons]
          refine ⟨fun member => ?_, induction distinct.2⟩
          obtain ⟨argument, argumentMember, named⟩ := List.mem_map.mp member
          rcases mem_setArgument argumentMember with rfl | there
          · exact other (beq_iff_eq.mpr named.symm)
          · exact distinct.1 (named ▸ List.mem_map_of_mem there)

private theorem foldl_setArgument (arguments : List Argument) {set : List Argument}
    (distinct : (set.map (·.name)).Nodup) :
    ((arguments.foldl (fun set new => setArgument new set) set).map (·.name)).Nodup ∧
      ∀ argument ∈ arguments.foldl (fun set new => setArgument new set) set,
        argument ∈ set ∨ argument ∈ arguments := by
  induction arguments generalizing set with
  | nil => exact ⟨distinct, fun _ member => .inl member⟩
  | cons head tail induction =>
      obtain ⟨once, among⟩ := induction (nodup_setArgument head distinct)
      refine ⟨once, fun argument member => ?_⟩
      rcases among argument member with earlier | later
      · rcases mem_setArgument earlier with rfl | before
        · exact .inr List.mem_cons_self
        · exact .inl before
      · exact .inr (List.mem_cons_of_mem head later)

/-- What is recorded of a usage is that it is there, or the value of one of its arguments. -/
theorem recordedArgument?_eq_some {usage : DirectiveUsage} {argument : Argument}
    (recorded : recordedArgument? usage = some argument) :
    argument.name ∈ ["external", "requires", "provides", "override"] ∧
      (argument.value = .boolean true ∨
        ∃ original ∈ usage.arguments, argument.value = original.value) := by
  unfold recordedArgument? at recorded
  split at recorded
  · rw [← Option.some.inj recorded]
    exact ⟨by decide, .inl rfl⟩
  · obtain ⟨⟨source, record⟩, known, found⟩ := Option.bind_eq_some_iff.mp recorded
    obtain ⟨original, isSource, same⟩ := Option.bind_eq_some_iff.mp found
    have named : ∀ entry ∈ recordedArguments,
        entry.2.2 ∈ ["external", "requires", "provides", "override"] := by
      decide
    obtain ⟨front, back, split, -⟩ := List.lookup_eq_some_iff.mp known
    rw [← Option.some.inj same]
    exact ⟨named (usage.name, source, record) (by rw [split]; simp),
      .inr ⟨original, List.mem_of_find?_eq_some isSource, rfl⟩⟩

theorem fieldMarkers_spec {graph : Name} {usages : List DirectiveUsage}
    {usage : DirectiveUsage} (member : usage ∈ fieldMarkers graph usages) :
    ∃ arguments : List Argument, usage = marker "join__field" graph arguments ∧
      (arguments.map (·.name)).Nodup ∧
      ∀ argument ∈ arguments, ∃ original ∈ usages, recordedArgument? original = some argument := by
  have fresh : (([] : List Argument).map (·.name)).Nodup := List.nodup_nil
  obtain ⟨once, among⟩ := foldl_setArgument (usages.filterMap recordedArgument?) fresh
  unfold fieldMarkers at member
  split at member
  · cases member
  · refine ⟨_, List.mem_singleton.mp member, once, fun argument argumentMember => ?_⟩
    rcases among argument argumentMember with none | recorded
    · cases none
    · exact List.mem_filterMap.mp recorded

def markerNames : List Name :=
  [typeMarker, "join__field", "join__implements", "join__unionMember", "join__enumValue"]

/-- A marker for a graph, of whose arguments the first one alone is for the graph. -/
inductive IsMarker (graph : Name) : DirectiveUsage → Prop
  | intro (name : Name) (arguments : List Argument) (listed : name ∈ markerNames)
      (others : "graph" ∉ arguments.map (·.name)) : IsMarker graph (marker name graph arguments)

theorem IsMarker.composition {graph : Name} {usage : DirectiveUsage}
    (isMarker : IsMarker graph usage) : isCompositionName usage.name = true := by
  have all : ∀ name ∈ markerNames, isCompositionName name = true := by decide
  cases isMarker with
  | intro name arguments listed others => exact all name listed

section

variable (graph : Name)

private theorem isMarker_keyMarker (key : DirectiveUsage) :
    IsMarker graph (keyMarker graph key) := by
  refine .intro typeMarker _ List.mem_cons_self fun member => ?_
  obtain ⟨argument, argumentMember, named⟩ := List.mem_map.mp member
  rcases List.mem_append.mp argumentMember with fields | resolvable
  · obtain ⟨original, -, rfl⟩ := List.mem_map.mp fields
    exact absurd named (by decide : "key" ≠ "graph")
  · rcases resolvableArgument_cases key with none | stated
    · rw [none] at resolvable
      cases resolvable
    · rw [stated, List.mem_singleton] at resolvable
      subst resolvable
      exact absurd named (by decide : "resolvable" ≠ "graph")

private theorem isMarker_typeMarkers (usages : List DirectiveUsage) :
    ∀ usage ∈ typeMarkers graph usages, IsMarker graph usage := by
  unfold typeMarkers
  split
  · exact List.forall_mem_singleton.mpr (.intro _ _ List.mem_cons_self List.not_mem_nil)
  · exact List.forall_mem_map.mpr fun key _ => isMarker_keyMarker graph key

theorem isMarker_ownMarkers (type : TypeDefinition) :
    ∀ usage ∈ ownMarkers graph type, IsMarker graph usage := by
  unfold ownMarkers
  split
  · exact isMarker_typeMarkers graph _
  · exact isMarker_typeMarkers graph _
  · exact List.forall_mem_singleton.mpr (.intro _ _ List.mem_cons_self List.not_mem_nil)

theorem isMarker_memberMarkers (body : TypeBody) :
    ∀ usage ∈ memberMarkers graph body, IsMarker graph usage := by
  cases body with
  | object interfaces fields | interface interfaces fields =>
      exact List.forall_mem_map.mpr fun name _ =>
        .intro "join__implements" _ (by decide) (by simp [Argument.of])
  | union members =>
      exact List.forall_mem_map.mpr fun name _ =>
        .intro "join__unionMember" _ (by decide) (by simp [Argument.of])
  | scalar | enum | inputObject => exact List.forall_mem_nil _

theorem isMarker_fieldMarkers (usages : List DirectiveUsage) :
    ∀ usage ∈ fieldMarkers graph usages, IsMarker graph usage := by
  intro usage member
  obtain ⟨arguments, rfl, -, recorded⟩ := fieldMarkers_spec member
  refine .intro "join__field" arguments (by decide) fun named => ?_
  obtain ⟨argument, argumentMember, isGraph⟩ := List.mem_map.mp named
  obtain ⟨original, -, found⟩ := recorded argument argumentMember
  have other := (recordedArgument?_eq_some found).1
  rw [isGraph] at other
  revert other
  decide

theorem isMarker_valueMarker : IsMarker graph (marker "join__enumValue" graph []) :=
  .intro _ [] (by decide) List.not_mem_nil

def innerMarkers : TypeBody → List DirectiveUsage
  | .object _ fields | .interface _ fields => fields.flatMap fun field =>
      fieldMarkers graph field.directives
  | .enum values => values.map fun _ => marker "join__enumValue" graph []
  | .scalar | .union _ | .inputObject _ => []

private theorem isMarker_innerMarkers (body : TypeBody) :
    ∀ usage ∈ innerMarkers graph body, IsMarker graph usage := by
  cases body with
  | object interfaces fields | interface interfaces fields =>
      exact List.forall_mem_flatMap.mpr fun field _ => isMarker_fieldMarkers graph field.directives
  | enum values =>
      exact List.forall_mem_map.mpr fun _ _ => isMarker_valueMarker graph
  | scalar | union | inputObject => exact List.forall_mem_nil _

/-- All markers that composing adds to a type. -/
def addedMarkers (type : TypeDefinition) : List DirectiveUsage :=
  ownMarkers graph type ++ memberMarkers graph type.body ++ innerMarkers graph type.body

theorem isMarker_addedMarkers (type : TypeDefinition) :
    ∀ usage ∈ addedMarkers graph type, IsMarker graph usage :=
  List.forall_mem_append.mpr
    ⟨List.forall_mem_append.mpr
        ⟨isMarker_ownMarkers graph type, isMarker_memberMarkers graph type.body⟩,
      isMarker_innerMarkers graph type.body⟩

private theorem usages_composeField (field : FieldDefinition) :
    (composeField graph field).usages.Perm
      (withoutFederationUsages field.usages ++ fieldMarkers graph field.directives) := by
  have arguments : (field.arguments.map composeInputValue).flatMap (·.directives) =
      withoutFederationUsages (field.arguments.flatMap (·.directives)) := by
    rw [withoutFederationUsages, List.filter_flatMap, List.flatMap_map]
    rfl
  have front : withoutFederationUsages field.usages =
      withoutFederationUsages field.directives ++
        withoutFederationUsages (field.arguments.flatMap (·.directives)) :=
    List.filter_append ..
  change ((_ ++ fieldMarkers graph field.directives) ++
    (field.arguments.map composeInputValue).flatMap (·.directives)).Perm _
  rw [arguments, front, List.append_assoc, List.append_assoc]
  exact List.perm_append_comm.append_left _

private theorem usages_composeBody (body : TypeBody) :
    (composeBody graph body).usages.Perm
      (withoutFederationUsages body.usages ++ innerMarkers graph body) := by
  cases body with
  | scalar | union => exact .refl _
  | object interfaces fields | interface interfaces fields =>
      change ((fields.map (composeField graph)).flatMap FieldDefinition.usages).Perm
        ((fields.flatMap FieldDefinition.usages).filter _ ++
          fields.flatMap fun field => fieldMarkers graph field.directives)
      rw [List.flatMap_map, List.filter_flatMap]
      exact (List.Perm.flatMap_left fields fun field _ => usages_composeField graph field).trans
        (List.flatMap_append_perm fields _ _).symm
  | enum values =>
      change ((values.map (composeEnumValue graph)).flatMap (·.directives)).Perm
        ((values.flatMap (·.directives)).filter _ ++ _)
      rw [innerMarkers, List.flatMap_map, List.filter_flatMap, List.map_eq_flatMap]
      exact (List.flatMap_append_perm values _ _).symm
  | inputObject fields =>
      change ((fields.map composeInputValue).flatMap (·.directives)).Perm
        ((fields.flatMap (·.directives)).filter _ ++ [])
      rw [List.flatMap_map, List.filter_flatMap, List.append_nil]
      exact .refl _

theorem usages_composeType (type : TypeDefinition) :
    (composeType graph type).usages.Perm
      (withoutFederationUsages type.usages ++ addedMarkers graph type) := by
  have front : withoutFederationUsages type.usages =
      withoutFederationUsages type.directives ++ withoutFederationUsages type.body.usages :=
    List.filter_append ..
  change ((withoutFederationUsages type.directives ++ ownMarkers graph type ++
    memberMarkers graph type.body) ++ (composeBody graph type.body).usages).Perm _
  rw [front, addedMarkers, List.append_assoc, List.append_assoc, List.append_assoc]
  refine List.Perm.append_left _ ?_
  rw [← List.append_assoc]
  exact ((usages_composeBody graph type.body).append_left _).trans
    (List.perm_append_comm_assoc ..)

end

end FederationSplit.Federation
