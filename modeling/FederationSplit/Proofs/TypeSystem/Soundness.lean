import FederationSplit.Proofs.TypeSystem.Resolving

namespace FederationSplit.TypeSystem

open FederationSplit.Syntax
open FederationSplit.Schema
open FederationSplit.Rules

theorem ResolvedBody.mem_references_of_field {body : ResolvedBody} {field : FieldSlot}
    (member : field ∈ body.fields) : field.type.baseName ∈ body.references := by
  cases body with
  | object | interface =>
      exact List.mem_append_right _ (List.mem_flatMap.mpr ⟨field, member, List.mem_cons_self⟩)
  | scalar | union | enum | inputObject => cases member

theorem ResolvedBody.mem_references_of_slot {body : ResolvedBody} {slot : InputSlot}
    (member : slot ∈ inputSlots body) : slot.type.baseName ∈ body.references := by
  cases body with
  | inputObject => exact List.mem_map_of_mem member
  | scalar | object | interface | union | enum => cases member

variable {aside : Aside} {first second : ResolvedSchema} (agree : first.AgreeApart aside second)

section

include agree

theorem ResolvedSchema.AgreeApart.type?_eq {name : Name} (other : name ∉ aside.types) :
    first.type? name = second.type? name := by
  have found := find?_filter_names ResolvedType.name other first.types
  rw [agree.types, find?_filter_names ResolvedType.name other] at found
  exact found.symm

theorem ResolvedSchema.AgreeApart.clear_of_type? {name : Name} (other : name ∉ aside.types)
    {type : ResolvedType} (found : first.type? name = some type) :
    type ∈ first.types ∧ type.name ∉ aside.types ∧
      ∀ reference ∈ type.body.references, reference ∉ aside.types := by
  have member := List.mem_of_find?_eq_some found
  have named := List.find?_some found
  rw [← beq_iff_eq.mp named] at other
  exact ⟨member, other, agree.clear type member other⟩

private theorem isSubtypeName_eq {name super : Name} (other : name ∉ aside.types)
    (superOther : super ∉ aside.types) :
    isSubtypeName first name super = isSubtypeName second name super := by
  rw [isSubtypeName, isSubtypeName, agree.type?_eq other, agree.type?_eq superOther]

private theorem isSubtype_eq {type super : TypeRef} (other : type.baseName ∉ aside.types)
    (superOther : super.baseName ∉ aside.types) :
    isSubtype first type super = isSubtype second type super := by
  induction type generalizing super with
  | named name =>
      cases super with
      | named superName => exact isSubtypeName_eq agree other superOther
      | list | nonNull => rfl
  | list item induction =>
      cases super with
      | list superItem => exact induction other superOther
      | named | nonNull => rfl
  | nonNull item induction =>
      cases super with
      | nonNull superItem => exact induction other superOther
      | named superName => exact induction other superOther
      | list superItem => exact induction other superOther

variable {type : ResolvedType}
  (clear : ∀ name ∈ type.body.references, name ∉ aside.types)

include clear

private theorem checkImplementedField_eq (interface : Name) {expected : FieldSlot}
    (other : expected.type.baseName ∉ aside.types) :
    checkImplementedField first type interface expected =
      checkImplementedField second type interface expected := by
  unfold checkImplementedField
  split
  · rfl
  · next field found =>
      have fieldOther := clear _ (ResolvedBody.mem_references_of_field
        (List.mem_of_find?_eq_some found))
      rw [isSubtype_eq agree fieldOther other]

private theorem checkInterface_eq {interface : Name} (other : interface ∉ aside.types) :
    checkInterface first type interface = checkInterface second type interface := by
  rw [checkInterface, checkInterface, checkAncestors, checkAncestors, agree.type?_eq other]
  congr 1
  cases found : second.type? interface with
  | none => rfl
  | some implemented =>
      rw [← agree.type?_eq other] at found
      obtain ⟨-, -, implementedClear⟩ := agree.clear_of_type? other found
      apply List.flatMap_congr
      intro expected member
      exact checkImplementedField_eq agree clear interface
        (implementedClear _ (ResolvedBody.mem_references_of_field member))

private theorem checkInterfaces_eq (seen : List Name) {interfaces : List Name}
    (others : ∀ name ∈ interfaces, name ∉ aside.types) :
    checkInterfaces first type seen interfaces = checkInterfaces second type seen interfaces := by
  induction interfaces generalizing seen with
  | nil => rfl
  | cons head tail induction =>
      rw [List.forall_mem_cons] at others
      rw [checkInterfaces, checkInterfaces, checkInterface_eq agree clear others.1,
        induction seen others.2, induction (head :: seen) others.2]

end

theorem foldl_congr_of_invariant {α β : Type} {step other : β → α → β} {invariant : β → Prop}
    {items : List α}
    (same : ∀ item ∈ items, ∀ state, invariant state →
      step state item = other state item ∧ invariant (step state item)) (state : β)
    (holds : invariant state) :
    items.foldl step state = items.foldl other state ∧ invariant (items.foldl step state) := by
  induction items generalizing state with
  | nil => exact ⟨rfl, holds⟩
  | cons head tail induction =>
      rw [List.forall_mem_cons] at same
      obtain ⟨sameHead, next⟩ := same.1 state holds
      rw [List.foldl_cons, List.foldl_cons, ← sameHead]
      exact induction same.2 _ next

def followSlot (schema : ResolvedSchema)
    (follow : List PathStep → List Name → ResolvedType → List SchemaProblem × List Name)
    (path : List PathStep) (type : Name) (state : List SchemaProblem × List Name)
    (slot : InputSlot) : List SchemaProblem × List Name :=
  match necessaryInput? schema slot with
  | none => state
  | some target =>
      let extended := path ++ [{ type, field := slot.name }]
      if extended.any (·.type == target.name) then
        (state.1 ++ [.inputCycle target.name (pathFrom target.name extended)], state.2)
      else (state.1 ++ (follow extended state.2 target).1, (follow extended state.2 target).2)

theorem followInputs_succ (schema : ResolvedSchema) (depth : Nat) (path : List PathStep)
    (visited : List Name) (type : ResolvedType) :
    followInputs schema (depth + 1) path visited type =
      if visited.contains type.name then ([], visited)
      else
        (inputSlots type.body).foldl (followSlot schema (followInputs schema depth) path type.name)
          ([], type.name :: visited) := rfl

/-- How many of some types have not been visited. -/
def unvisited (names visited : List Name) : Nat :=
  names.countP fun name => !visited.contains name

theorem unvisited_mono {names visited more : List Name} (among : visited ⊆ more) :
    unvisited names more ≤ unvisited names visited := by
  apply List.countP_mono_left
  intro name _ fresh
  rw [Bool.not_eq_true', List.contains_eq_mem, decide_eq_false_iff_not] at fresh ⊢
  exact fun known => fresh (among known)

theorem unvisited_cons_lt {names visited : List Name} {name : Name} (among : name ∈ names)
    (fresh : name ∉ visited) : unvisited names (name :: visited) < unvisited names visited := by
  refine countP_lt_countP (fun other stillFresh => ?_) among ?_ ?_
  · simp only [List.contains_cons, Bool.not_or, Bool.and_eq_true] at stillFresh
    exact stillFresh.2
  · simpa using fresh
  · simp

def ResolvedSchema.otherNames (aside : Aside) (schema : ResolvedSchema) : List Name :=
  (schema.types.filter (!aside.types.contains ·.name)).map (·.name)

section

include agree

private theorem necessaryInput?_eq {slot : InputSlot} (other : slot.type.baseName ∉ aside.types) :
    necessaryInput? first slot = necessaryInput? second slot := by
  unfold necessaryInput?
  split
  · next name is =>
      have nameOther : name ∉ aside.types := by rwa [is] at other
      rw [agree.type?_eq nameOther]
  · rfl

private theorem of_necessaryInput? {slot : InputSlot} (other : slot.type.baseName ∉ aside.types)
    {target : ResolvedType} (found : necessaryInput? first slot = some target) :
    target.name ∈ first.otherNames aside ∧
      ∀ reference ∈ target.body.references, reference ∉ aside.types := by
  unfold necessaryInput? at found
  split at found
  · next name is =>
      rw [is] at other
      obtain ⟨member, targetOther, clear⟩ :=
        agree.clear_of_type? other (Option.filter_eq_some_iff.mp found).1
      refine ⟨List.mem_map_of_mem (List.mem_filter.mpr ⟨member, ?_⟩), clear⟩
      simpa using targetOther
  · cases found

private theorem followSlot_eq {depth other : Nat} {path : List PathStep} {type : Name}
    {state : List SchemaProblem × List Name} {slot : InputSlot}
    (slotOther : slot.type.baseName ∉ aside.types)
    (follows : ∀ path target, target.name ∈ first.otherNames aside →
      (∀ name ∈ target.body.references, name ∉ aside.types) →
        followInputs first depth path state.2 target =
            followInputs second other path state.2 target ∧
          state.2 ⊆ (followInputs first depth path state.2 target).2) :
    followSlot first (followInputs first depth) path type state slot =
        followSlot second (followInputs second other) path type state slot ∧
      state.2 ⊆ (followSlot first (followInputs first depth) path type state slot).2 := by
  unfold followSlot
  rw [← necessaryInput?_eq agree slotOther]
  cases found : necessaryInput? first slot with
  | none => exact ⟨rfl, List.Subset.refl _⟩
  | some target =>
      obtain ⟨among, clear⟩ := of_necessaryInput? agree slotOther found
      simp only
      split
      · exact ⟨rfl, List.Subset.refl _⟩
      · obtain ⟨same, grows⟩ := follows _ target among clear
        exact ⟨by rw [same], grows⟩

/--
Input objects are followed alike to different depths: each of them is visited once, so that neither
run reaches the bottom as long as there is room for all that are not visited.
-/
private theorem followInputs_eq {depth other : Nat} {path : List PathStep} {visited : List Name}
    {type : ResolvedType} (among : type.name ∈ first.otherNames aside)
    (clear : ∀ name ∈ type.body.references, name ∉ aside.types)
    (room : unvisited (first.otherNames aside) visited < depth)
    (otherRoom : unvisited (first.otherNames aside) visited < other) :
    followInputs first depth path visited type = followInputs second other path visited type ∧
      visited ⊆ (followInputs first depth path visited type).2 := by
  induction depth generalizing other path visited type with
  | zero => exact absurd room (Nat.not_lt_zero _)
  | succ depth induction =>
      cases other with
      | zero => exact absurd otherRoom (Nat.not_lt_zero _)
      | succ other =>
          rw [followInputs_succ, followInputs_succ]
          split
          · exact ⟨rfl, List.Subset.refl _⟩
          · next new =>
              have less := unvisited_cons_lt among (by simpa using new)
              -- With the type visited there is room for one type less, as deep as its fields lead.
              have each : ∀ slot ∈ inputSlots type.body,
                  ∀ state : List SchemaProblem × List Name, type.name :: visited ⊆ state.2 →
                    followSlot first (followInputs first depth) path type.name state slot =
                        followSlot second (followInputs second other) path type.name state slot ∧
                      type.name :: visited ⊆
                        (followSlot first (followInputs first depth) path type.name state
                          slot).2 := by
                intro slot member state grown
                have still : unvisited (first.otherNames aside) state.2 ≤
                    unvisited (first.otherNames aside) (type.name :: visited) :=
                  unvisited_mono grown
                have enough : unvisited (first.otherNames aside) state.2 < depth ∧
                    unvisited (first.otherNames aside) state.2 < other := by omega
                have slotOther := clear _ (ResolvedBody.mem_references_of_slot member)
                obtain ⟨same, grows⟩ := followSlot_eq agree slotOther
                  fun path target targetAmong targetClear =>
                    induction targetAmong targetClear enough.1 enough.2
                exact ⟨same, List.Subset.trans grown grows⟩
              obtain ⟨same, grows⟩ := foldl_congr_of_invariant each
                ([], type.name :: visited) (List.Subset.refl (type.name :: visited))
              exact ⟨same, List.Subset.trans (List.subset_cons_self ..) grows⟩

private theorem unvisited_lt (visited : List Name) :
    unvisited (first.otherNames aside) visited < first.types.length + 1 ∧
      unvisited (first.otherNames aside) visited < second.types.length + 1 := by
  have all : unvisited (first.otherNames aside) visited ≤ (first.otherNames aside).length :=
    List.countP_le_length
  have few : (first.otherNames aside).length ≤ first.types.length := by
    rw [ResolvedSchema.otherNames, List.length_map]
    exact List.length_filter_le _ _
  have otherFew : (first.otherNames aside).length ≤ second.types.length := by
    rw [ResolvedSchema.otherNames, List.length_map, agree.types]
    exact List.length_filter_le _ _
  omega

private theorem checkType_eq (visited : List Name) {type : ResolvedType}
    (among : type.name ∈ first.otherNames aside)
    (clear : ∀ name ∈ type.body.references, name ∉ aside.types) :
    checkType first visited type = checkType second visited type := by
  unfold checkType
  cases body : type.body with
  | scalar | union | enum => rfl
  | object interfaces fields | interface interfaces fields =>
      have same := checkInterfaces_eq agree clear [] fun name member => clear name (by
        rw [body]
        exact List.mem_append_left _ member)
      simp only [same]
  | inputObject isOneOf fields =>
      obtain ⟨room, otherRoom⟩ := unvisited_lt agree visited
      rw [(followInputs_eq agree among clear room otherRoom).1]

omit agree in
private theorem checkTypes_cons (schema : ResolvedSchema) (visited : List Name)
    (head : ResolvedType) (tail : List ResolvedType) :
    checkTypes schema visited (head :: tail) =
      (checkType schema visited head).1 ++
        checkTypes schema (checkType schema visited head).2 tail := rfl

omit agree in
private theorem checkTypes_filter (schema : ResolvedSchema) (visited : List Name)
    {types : List ResolvedType}
    (inert : ∀ type ∈ types, type.name ∈ aside.types → Unproblematic type) :
    checkTypes schema visited (types.filter (!aside.types.contains ·.name)) =
      checkTypes schema visited types := by
  induction types generalizing visited with
  | nil => rfl
  | cons head tail induction =>
      rw [List.forall_mem_cons] at inert
      by_cases isAside : head.name ∈ aside.types
      · rw [List.filter_cons_of_neg (by simpa using isAside), checkTypes_cons, inert.1 isAside]
        exact induction visited inert.2
      · rw [List.filter_cons_of_pos (by simpa using isAside), checkTypes_cons, checkTypes_cons,
          induction _ inert.2]

omit agree in
private theorem checkTypes_congr {types : List ResolvedType}
    (same : ∀ type ∈ types, ∀ visited, checkType first visited type = checkType second visited type)
    (visited : List Name) : checkTypes first visited types = checkTypes second visited types := by
  induction types generalizing visited with
  | nil => rfl
  | cons head tail induction =>
      rw [List.forall_mem_cons] at same
      rw [checkTypes_cons, checkTypes_cons, same.1, induction same.2]

private theorem checkTypes_eq :
    checkTypes first [] first.types = checkTypes second [] second.types := by
  rw [← checkTypes_filter first [] agree.inertFirst,
    ← checkTypes_filter second [] agree.inertSecond, ← agree.types]
  apply checkTypes_congr
  intro type member visited
  obtain ⟨declared, kept⟩ := List.mem_filter.mp member
  exact checkType_eq agree visited (List.mem_map_of_mem member)
    (agree.clear type declared (by simpa using kept))

private theorem checkRoots_eq
    (roots : ∀ operation name, first.declarations.rootTypes.get operation = some name →
      name ∉ aside.types) : checkRoots first.declarations = checkRoots second.declarations := by
  have same : ∀ operation name, first.declarations.rootTypes.get operation = some name →
      checkRoot first.declarations operation name =
        checkRoot second.declarations operation name := by
    intro operation name root
    rw [checkRoot, checkRoot, agree.declarations.kind?_eq (roots operation name root)]
  unfold checkRoots
  rw [← agree.declarations.rootTypes]
  simp only
  congr 1
  · congr 1
    · cases query : first.declarations.rootTypes.query with
      | none => rfl
      | some name => exact same .query name query
    · exact List.flatMap_congr fun name member => same .mutation name (Option.mem_toList.mp member)
  · exact List.flatMap_congr fun name member =>
      same .subscription name (Option.mem_toList.mp member)

/-- What is set aside brings no problems and takes none away. -/
theorem schemaProblems_of_agree
    (roots : ∀ operation name, first.declarations.rootTypes.get operation = some name →
      name ∉ aside.types)
    (named : ∀ name ∈ aside.directives, checkName name = [])
    (sound : schemaProblems first = []) : schemaProblems second = [] := by
  simp only [schemaProblems, List.append_eq_nil_iff, List.flatMap_eq_nil_iff] at sound ⊢
  obtain ⟨⟨rootsSound, directivesSound⟩, typesSound⟩ := sound
  refine ⟨⟨(checkRoots_eq agree roots).symm.trans rootsSound, ?_⟩,
    (checkTypes_eq agree).symm.trans typesSound⟩
  intro directive member
  by_cases isAside : directive.name ∈ aside.directives
  · rw [checkDirective, named _ isAside, agree.bare directive member isAside]
    rfl
  · have other : directive ∈ second.directives.filter (!aside.directives.contains ·.name) :=
      List.mem_filter.mpr ⟨member, by simpa using isAside⟩
    rw [← agree.directives] at other
    exact directivesSound directive (List.mem_of_mem_filter other)

end

end FederationSplit.TypeSystem
