import FederationSplit.Proofs.TypeSystem.Carrying
import FederationSplit.TypeSystem.Validity

namespace FederationSplit.TypeSystem

open FederationSplit.Syntax
open FederationSplit.Schema
open FederationSplit.Rules

section

variable {ι α : Type} {keeps : ι → Bool} {keepsResult : α → Bool} {step : ι → Resolution α}

theorem mapM_cons_eq_ok_iff {head : ι} {tail : List ι} {table after : FieldTable}
    {values : List α} :
    (head :: tail).mapM step table = .ok (values, after) ↔
      ∃ value middle rest, step head table = .ok (value, middle) ∧
        tail.mapM step middle = .ok (rest, after) ∧ values = value :: rest := by
  rw [List.mapM_cons, bind_eq_ok_iff]
  constructor
  · rintro ⟨value, middle, ranHead, ran⟩
    obtain ⟨rest, last, ranTail, ran⟩ := bind_eq_ok_iff.mp ran
    cases ran
    exact ⟨value, middle, rest, ranHead, ranTail, rfl⟩
  · rintro ⟨value, middle, rest, ranHead, ranTail, rfl⟩
    exact ⟨value, middle, ranHead, bind_eq_ok_iff.mpr ⟨rest, after, ranTail, rfl⟩⟩

/-- Items whose steps leave the table as it is can be left out of a run. -/
theorem mapM_filter_of_mapM {items : List ι} {table after : FieldTable} {values : List α}
    (quiet : ∀ item ∈ items, keeps item = false → Quiet (step item))
    (keepsAlike : ∀ item ∈ items, ∀ table value after, step item table = .ok (value, after) →
      keepsResult value = keeps item)
    (ran : items.mapM step table = .ok (values, after)) :
    (items.filter keeps).mapM step table = .ok (values.filter keepsResult, after) := by
  induction items generalizing table values with
  | nil =>
      cases ran
      rfl
  | cons head tail induction =>
      rw [List.forall_mem_cons] at quiet keepsAlike
      obtain ⟨value, middle, rest, ranHead, ranTail, rfl⟩ := mapM_cons_eq_ok_iff.mp ran
      have sameChoice := keepsAlike.1 table value middle ranHead
      have ranRest := induction quiet.2 keepsAlike.2 ranTail
      rw [List.filter_cons, List.filter_cons, sameChoice]
      cases kept : keeps head with
      | true => exact mapM_cons_eq_ok_iff.mpr ⟨value, middle, _, ranHead, ranRest, rfl⟩
      | false =>
          rw [quiet.1 kept table value middle ranHead] at ranRest
          exact ranRest

/-- Items whose steps always succeed, and leave the table as it is, can be added to a run. -/
theorem mapM_of_mapM_filter {items : List ι} {table after : FieldTable} {values : List α}
    {inert : α → Prop}
    (succeeds : ∀ item ∈ items, keeps item = false →
      ∃ value, keepsResult value = false ∧ inert value ∧
        ∀ table, step item table = .ok (value, table))
    (kept : ∀ value ∈ values, keepsResult value = true)
    (ran : (items.filter keeps).mapM step table = .ok (values, after)) :
    ∃ all, items.mapM step table = .ok (all, after) ∧ all.filter keepsResult = values ∧
      ∀ value ∈ all, keepsResult value = false → inert value := by
  induction items generalizing table values with
  | nil =>
      cases ran
      exact ⟨[], rfl, rfl, List.forall_mem_nil _⟩
  | cons head tail induction =>
      rw [List.forall_mem_cons] at succeeds
      rw [List.filter_cons] at ran
      cases keepsHead : keeps head with
      | true =>
          rw [keepsHead] at ran
          obtain ⟨value, middle, rest, ranHead, ranRest, rfl⟩ := mapM_cons_eq_ok_iff.mp ran
          rw [List.forall_mem_cons] at kept
          obtain ⟨all, ranAll, filtered, others⟩ := induction succeeds.2 kept.2 ranRest
          refine ⟨value :: all, mapM_cons_eq_ok_iff.mpr ⟨value, middle, all, ranHead, ranAll, rfl⟩,
            ?_, List.forall_mem_cons.mpr ⟨fun dropped => ?_, others⟩⟩
          · rw [List.filter_cons_of_pos kept.1, filtered]
          · rw [kept.1] at dropped
            cases dropped
      | false =>
          rw [keepsHead] at ran
          obtain ⟨value, dropped, isInert, ranHead⟩ := succeeds.1 keepsHead
          obtain ⟨all, ranAll, filtered, others⟩ := induction succeeds.2 kept ran
          refine ⟨value :: all,
            mapM_cons_eq_ok_iff.mpr ⟨value, table, all, ranHead table, ranAll, rfl⟩, ?_,
            List.forall_mem_cons.mpr ⟨fun _ => isInert, others⟩⟩
          rw [List.filter_cons_of_neg (by rw [dropped]; exact Bool.false_ne_true), filtered]

theorem forall_of_mapM {items : List ι} {table after : FieldTable} {values : List α}
    {property : α → Prop}
    (each : ∀ item ∈ items, ∀ table value after, step item table = .ok (value, after) →
      property value)
    (ran : items.mapM step table = .ok (values, after)) : ∀ value ∈ values, property value := by
  induction items generalizing table values with
  | nil =>
      cases ran
      exact List.forall_mem_nil _
  | cons head tail induction =>
      rw [List.forall_mem_cons] at each
      obtain ⟨value, middle, rest, ranHead, ranTail, rfl⟩ := mapM_cons_eq_ok_iff.mp ran
      exact List.forall_mem_cons.mpr
        ⟨each.1 table value middle ranHead, induction each.2 ranTail⟩

theorem exists_of_mapM {items : List ι}
    {table after : FieldTable} {values : List α}
    (ran : items.mapM step table = .ok (values, after)) :
    ∀ item ∈ items, ∃ before outcome, step item before = .ok outcome := by
  induction items generalizing table values with
  | nil => exact List.forall_mem_nil _
  | cons head tail induction =>
      obtain ⟨value, middle, rest, ranHead, ranTail, rfl⟩ := mapM_cons_eq_ok_iff.mp ran
      exact List.forall_mem_cons.mpr ⟨⟨table, _, ranHead⟩, induction ranTail⟩

theorem forM_eq_ok_iff {items : List ι} {step : ι → Resolution Unit}
    (quiet : ∀ item, Quiet (step item)) {table after : FieldTable} :
    items.forM step table = .ok ((), after) ↔
      after = table ∧ ∀ item ∈ items, step item table = .ok ((), table) := by
  induction items with
  | nil =>
      constructor
      · intro ran
        cases ran
        exact ⟨rfl, List.forall_mem_nil _⟩
      · rintro ⟨rfl, -⟩
        rfl
  | cons head tail induction =>
      change (step head >>= fun _ => tail.forM step) table = _ ↔ _
      rw [bind_eq_ok_iff, List.forall_mem_cons]
      constructor
      · rintro ⟨⟨⟩, middle, ranHead, ranTail⟩
        obtain rfl := quiet head table () middle ranHead
        obtain ⟨same, others⟩ := induction.mp ranTail
        exact ⟨same, ranHead, others⟩
      · rintro ⟨same, ranHead, others⟩
        exact ⟨(), table, ranHead, induction.mpr ⟨same, others⟩⟩

/-- A run whose items agree with those of another, apart from some, gives what that one gives. -/
theorem mapM_carried (step other : ι → Resolution α) (keeps : ι → Bool)
    (keepsResult : α → Bool) (inert : α → Prop) {good : FieldTable → Prop} {sound : α → Prop}
    {items others : List ι}
    (same : items.filter keeps = others.filter keeps)
    (quiet : ∀ item ∈ items, keeps item = false → Quiet (step item))
    (keepsAlike : ∀ item ∈ items, ∀ table value after, step item table = .ok (value, after) →
      keepsResult value = keeps item)
    (carries : ∀ item ∈ items, keeps item = true → Carries good sound (step item) (other item))
    (succeeds : ∀ item ∈ others, keeps item = false →
      ∃ value, keepsResult value = false ∧ inert value ∧
        ∀ table, other item table = .ok (value, table))
    {table after : FieldTable} (isGood : good table) {values : List α}
    (ran : items.mapM step table = .ok (values, after)) :
    good after ∧ ∃ all, others.mapM other table = .ok (all, after) ∧
      values.filter keepsResult = all.filter keepsResult ∧
      (∀ value ∈ values, keepsResult value = true → sound value) ∧
      ∀ value ∈ all, keepsResult value = false → inert value := by
  have ranKept := mapM_filter_of_mapM quiet keepsAlike ran
  have carriesKept : Carries good _ ((items.filter keeps).mapM step)
      ((items.filter keeps).mapM other) := Carries.mapM fun item member =>
    carries item (List.mem_of_mem_filter member) (List.mem_filter.mp member).2
  obtain ⟨ranOther, afterGood, allSound⟩ := carriesKept table isGood _ _ ranKept
  rw [same] at ranOther
  obtain ⟨all, ranAll, filtered, others⟩ :=
    mapM_of_mapM_filter succeeds (fun value member => (List.mem_filter.mp member).2) ranOther
  exact ⟨afterGood, all, ranAll, filtered.symm,
    fun value member kept => allSound value (List.mem_filter.mpr ⟨member, kept⟩), others⟩

end

def Unproblematic (type : ResolvedType) : Prop :=
  ∀ schema visited, checkType schema visited type = ([], visited)

/-- A type that is resolved without looking at any other, and has no problems then. -/
structure Inert (type : TypeDefinition) : Prop where
  shell : ∀ table, resolveShell type table = .ok ((), table)
  body : ∃ body, (∀ declarations table, resolveBody declarations type table = .ok (body, table)) ∧
    Unproblematic { name := type.name, body }

structure ResolvedSchema.AgreeApart (aside : Aside) (first second : ResolvedSchema) : Prop where
  declarations : Declarations.AgreeApart aside first.declarations second.declarations
  types : first.types.filter (!aside.types.contains ·.name) =
    second.types.filter (!aside.types.contains ·.name)
  directives : first.directives.filter (!aside.directives.contains ·.name) =
    second.directives.filter (!aside.directives.contains ·.name)
  clear : ∀ type ∈ first.types, type.name ∉ aside.types →
    ∀ name ∈ type.body.references, name ∉ aside.types
  inertFirst : ∀ type ∈ first.types, type.name ∈ aside.types → Unproblematic type
  inertSecond : ∀ type ∈ second.types, type.name ∈ aside.types → Unproblematic type
  bare : ∀ directive ∈ second.directives, directive.name ∈ aside.directives →
    directive.arguments = []

/-! ### All references -/

theorem Quiet.bind {α β : Type} {step : Resolution α} {next : α → Resolution β}
    (quiet : Quiet step) (rest : ∀ value, Quiet (next value)) : Quiet (step >>= next) := by
  intro table result after ran
  obtain ⟨value, middle, ranStep, ranNext⟩ := bind_eq_ok_iff.mp ran
  rw [rest value middle result after ranNext, quiet table value middle ranStep]

private theorem quiet_resolveSpecification (usages : List DirectiveUsage) :
    Quiet (resolveSpecification usages) := by
  unfold resolveSpecification
  split
  · exact Quiet.pure _
  · simp only
    split
    · exact Quiet.fail _
    · split
      · exact Quiet.pure _
      · exact Quiet.fail _
      · exact Quiet.fail _

theorem quiet_resolveShell (type : TypeDefinition) : Quiet (resolveShell type) := by
  unfold resolveShell
  split
  · exact quiet_resolveSpecification _
  · intro table value after ran
    exact ((forM_eq_ok_iff fun value =>
      (quiet_resolveDeprecation _).bind fun _ => Quiet.pure ()).mp ran).1
  · exact Quiet.pure _

theorem resolve_eq_ok_iff {declarations : Declarations} {schema : ResolvedSchema} :
    resolve declarations = .ok schema ↔
      (∀ type ∈ declarations.effectiveTypes, resolveShell type [] = .ok ((), [])) ∧
        ∃ directives middle types after,
          declarations.directives.mapM (resolveDirective declarations) [] =
            .ok (directives, middle) ∧
          declarations.effectiveTypes.mapM (resolveType declarations) middle =
            .ok (types, after) ∧
          schema = { declarations, types, directives } := by
  have run : resolve declarations = .ok schema ↔
      ∃ after, resolveAll declarations [] = .ok (schema, after) := by
    change (resolveAll declarations []).map Prod.fst = _ ↔ _
    cases resolveAll declarations [] with
    | error fault => exact ⟨nofun, nofun⟩
    | ok outcome =>
        constructor
        · intro same
          cases same
          exact ⟨outcome.2, rfl⟩
        · rintro ⟨after, same⟩
          cases same
          rfl
  rw [run]
  constructor
  · rintro ⟨after, ran⟩
    obtain ⟨⟨⟩, start, shells, ran⟩ := bind_eq_ok_iff.mp ran
    obtain ⟨rfl, each⟩ := (forM_eq_ok_iff quiet_resolveShell).mp shells
    obtain ⟨directives, middle, ranDirectives, ran⟩ := bind_eq_ok_iff.mp ran
    obtain ⟨types, last, ranTypes, ran⟩ := bind_eq_ok_iff.mp ran
    cases ran
    exact ⟨each, directives, middle, types, after, ranDirectives, ranTypes, rfl⟩
  · rintro ⟨each, directives, middle, types, after, ranDirectives, ranTypes, rfl⟩
    refine ⟨after, bind_eq_ok_iff.mpr ⟨(), [], ?_, ?_⟩⟩
    · exact (forM_eq_ok_iff quiet_resolveShell).mpr ⟨rfl, each⟩
    · exact bind_eq_ok_iff.mpr ⟨directives, middle, ranDirectives,
        bind_eq_ok_iff.mpr ⟨types, after, ranTypes, rfl⟩⟩

theorem name_resolveType {declarations : Declarations} {type : TypeDefinition}
    {table after : FieldTable} {resolved : ResolvedType}
    (ran : resolveType declarations type table = .ok (resolved, after)) :
    resolved.name = type.name := by
  obtain ⟨body, _, -, ran⟩ := bind_eq_ok_iff.mp ran
  cases ran
  rfl

theorem name_resolveDirective {declarations : Declarations} {directive : DirectiveDefinition}
    {table after : FieldTable} {resolved : ResolvedDirective}
    (ran : resolveDirective declarations directive table = .ok (resolved, after)) :
    resolved.name = directive.name := by
  obtain ⟨arguments, _, -, ran⟩ := bind_eq_ok_iff.mp ran
  cases ran
  rfl

private theorem isOutputType_of_resolveField {declarations : Declarations}
    {field : FieldDefinition} {table : FieldTable} {outcome : FieldSlot × FieldTable}
    (ran : resolveField declarations field table = .ok outcome) :
    declarations.isOutputType field.type = true := by
  obtain ⟨_, _, -, ran⟩ := bind_eq_ok_iff.mp ran
  obtain ⟨_, _, -, ran⟩ := bind_eq_ok_iff.mp ran
  cases given : declarations.isOutputType field.type with
  | true => rfl
  | false =>
      rw [given] at ran
      cases ran

private theorem isOutputType_of_fields {declarations : Declarations} {type : Name}
    {fields : List FieldDefinition} {table : FieldTable} {outcome : List FieldSlot × FieldTable}
    (ran : withinFields type (fields.mapM (resolveField declarations)) table = .ok outcome) :
    ∀ field ∈ fields, declarations.isOutputType field.type = true := by
  intro field member
  change (fields.mapM (resolveField declarations) table).mapError _ = _ at ran
  cases resolved : fields.mapM (resolveField declarations) table with
  | error fault =>
      rw [resolved] at ran
      cases ran
  | ok slots =>
      obtain ⟨before, slot, ranField⟩ := exists_of_mapM resolved field member
      exact isOutputType_of_resolveField ranField

private theorem kind_of_builtin :
    ∀ type ∈ builtinTypes, ∀ field ∈ type.body.fields,
      ∃ kind ∈ [TypeKind.scalar, .object, .enum],
        (findType? builtinTypes field.type.baseName).map (·.kind) = some kind := by
  decide

theorem isOutputType_of_resolve {declarations : Declarations} {schema : ResolvedSchema}
    (resolved : resolve declarations = .ok schema) {name : Name} {type : TypeDefinition}
    (found : declarations.type? name = some type) :
    ∀ field ∈ type.body.fields, declarations.isOutputType field.type = true := by
  intro field member
  cases builtin : findType? builtinTypes name with
  | some own =>
      obtain rfl : own = type := by
        rw [Declarations.type?, builtin] at found
        exact Option.some.inj found
      obtain ⟨kind, outputs, given⟩ :=
        kind_of_builtin own (mem_of_findType? builtin).1 field member
      obtain ⟨other, otherFound, rfl⟩ := Option.map_eq_some_iff.mp given
      have kind : declarations.kind? field.type.baseName = some other.kind := by
        rw [Declarations.kind?, Declarations.type?, otherFound]
        rfl
      rw [Declarations.isOutputType, kind]
      revert outputs
      cases other.kind <;> decide
  | none =>
      rw [Declarations.type?, builtin] at found
      have foundOwn : findType? declarations.types name = some type := found
      obtain ⟨declared, rfl⟩ := mem_of_findType? foundOwn
      have counts : Declarations.effective type = type := by
        rw [Declarations.effective, builtin]
        rfl
      have effective : type ∈ declarations.effectiveTypes :=
        List.mem_map.mpr ⟨type, declared, counts⟩
      obtain ⟨-, _, _, _, _, -, ranTypes, -⟩ := resolve_eq_ok_iff.mp resolved
      obtain ⟨before, outcome, ran⟩ := exists_of_mapM ranTypes type effective
      obtain ⟨body, _, ranBody, -⟩ := bind_eq_ok_iff.mp ran
      unfold TypeBody.fields at member
      unfold resolveBody at ranBody
      cases shape : type.body with
      | object interfaces fields | interface interfaces fields =>
          simp only [shape] at member ranBody
          obtain ⟨_, _, -, ranBody⟩ := bind_eq_ok_iff.mp ranBody
          obtain ⟨_, _, ranFields, -⟩ := bind_eq_ok_iff.mp ranBody
          exact isOutputType_of_fields ranFields field member
      | scalar | union | enum | inputObject =>
          simp only [shape] at member
          cases member

private theorem filter_effectiveTypes (aside : Aside) (declarations : Declarations) :
    declarations.effectiveTypes.filter (!aside.types.contains ·.name) =
      (aside.others declarations.types).map Declarations.effective := by
  rw [Declarations.effectiveTypes, List.filter_map, Aside.others]
  congr 1
  apply List.filter_congr
  intro type _
  rw [Function.comp_apply, Declarations.name_effective]

private theorem kept_iff {names : List Name} {name : Name} :
    (!names.contains name) = true ↔ name ∉ names := by
  simp

private theorem dropped_iff {names : List Name} {name : Name} :
    (!names.contains name) = false ↔ name ∈ names := by
  simp

private theorem declared_of_effective {aside : Aside} {declarations : Declarations}
    {type : TypeDefinition} (member : type ∈ declarations.effectiveTypes)
    (isAside : type.name ∈ aside.types) : type ∈ declarations.types := by
  obtain ⟨original, declared, rfl⟩ := List.mem_map.mp member
  rw [Declarations.name_effective] at isAside
  rwa [Declarations.effective_of_aside isAside]

private theorem Inert.quiet {type : TypeDefinition} (inert : Inert type)
    (declarations : Declarations) : Quiet (resolveType declarations type) := by
  intro table value after ran
  obtain ⟨expected, resolves, -⟩ := inert.body
  obtain ⟨body, middle, ranBody, rest⟩ := bind_eq_ok_iff.mp ran
  rw [resolves] at ranBody
  cases ranBody
  cases rest
  rfl

private theorem Inert.succeeds {type : TypeDefinition} (inert : Inert type)
    (declarations : Declarations) :
    ∃ resolved, resolved.name = type.name ∧ Unproblematic resolved ∧
      ∀ table, resolveType declarations type table = .ok (resolved, table) := by
  obtain ⟨body, resolves, sound⟩ := inert.body
  exact ⟨{ name := type.name, body }, rfl, sound, fun table =>
    bind_eq_ok_iff.mpr ⟨body, table, resolves declarations table, rfl⟩⟩

section

variable {aside : Aside} {first second : Declarations}
  (agree : Declarations.AgreeApart aside first second)

include agree

private theorem settled_nil : Settled aside first second [] where
  clear := List.forall_mem_nil _
  first := by
    refine Nat.lt_succ_of_le (Nat.le_trans (missing_le_length ..) ?_)
    rw [otherNames, List.length_map]
    exact List.length_filter_le _ _
  second := by
    refine Nat.lt_succ_of_le (Nat.le_trans (missing_le_length ..) ?_)
    rw [otherNames, List.length_map, agree.types]
    exact List.length_filter_le _ _

private theorem effectiveTypes_agree :
    first.effectiveTypes.filter (!aside.types.contains ·.name) =
      second.effectiveTypes.filter (!aside.types.contains ·.name) := by
  rw [filter_effectiveTypes, agree.types, filter_effectiveTypes]

private theorem shells_carried
    (inert : ∀ type ∈ second.types, type.name ∈ aside.types → Inert type)
    (kept : ∀ type ∈ first.effectiveTypes, resolveShell type [] = .ok ((), [])) :
    ∀ type ∈ second.effectiveTypes, resolveShell type [] = .ok ((), []) := by
  intro type member
  by_cases isAside : type.name ∈ aside.types
  · exact (inert type (declared_of_effective member isAside) isAside).shell []
  · have other : type ∈ second.effectiveTypes.filter (!aside.types.contains ·.name) :=
      List.mem_filter.mpr ⟨member, kept_iff.mpr isAside⟩
    rw [← effectiveTypes_agree agree] at other
    exact kept type (List.mem_of_mem_filter other)

variable (unneeded : Declarations.Unneeded aside first)

include unneeded

private theorem directives_carried
    (quiet : ∀ directive ∈ first.directives, directive.name ∈ aside.directives →
      Quiet (resolveDirective first directive))
    (bare : ∀ directive ∈ second.directives, directive.name ∈ aside.directives →
      directive.arguments = []) {table after : FieldTable}
    (settled : Settled aside first second table) {directives : List ResolvedDirective}
    (ran : first.directives.mapM (resolveDirective first) table = .ok (directives, after)) :
    Settled aside first second after ∧
      ∃ others, second.directives.mapM (resolveDirective second) table = .ok (others, after) ∧
        directives.filter (!aside.directives.contains ·.name) =
          others.filter (!aside.directives.contains ·.name) ∧
        ∀ directive ∈ others, directive.name ∈ aside.directives → directive.arguments = [] := by
  obtain ⟨afterSettled, others, ranOthers, same, -, bareOthers⟩ :=
    mapM_carried (resolveDirective first) (resolveDirective second)
      (!aside.directives.contains ·.name) (!aside.directives.contains ·.name) (·.arguments = [])
      agree.directives
      (fun directive member dropped => quiet directive member (dropped_iff.mp dropped))
      (fun directive _ _ _ _ ran => by rw [name_resolveDirective ran])
      (fun directive member kept => carries_resolveDirective agree unneeded
        (unneeded.directives directive member (kept_iff.mp kept)))
      (fun directive member dropped => by
        refine ⟨{ name := directive.name, arguments := [] }, dropped, rfl, fun table => ?_⟩
        refine bind_eq_ok_iff.mpr ⟨[], table, ?_, rfl⟩
        rw [bare directive member (dropped_iff.mp dropped)]
        rfl)
      settled ran
  exact ⟨afterSettled, others, ranOthers, same, fun directive member isAside =>
    bareOthers directive member (dropped_iff.mpr isAside)⟩

private theorem types_carried
    (inertFirst : ∀ type ∈ first.types, type.name ∈ aside.types → Inert type)
    (inertSecond : ∀ type ∈ second.types, type.name ∈ aside.types → Inert type)
    {table after : FieldTable} (settled : Settled aside first second table)
    {types : List ResolvedType}
    (ran : first.effectiveTypes.mapM (resolveType first) table = .ok (types, after)) :
    ∃ others, second.effectiveTypes.mapM (resolveType second) table = .ok (others, after) ∧
      types.filter (!aside.types.contains ·.name) = others.filter (!aside.types.contains ·.name) ∧
      (∀ type ∈ types, type.name ∉ aside.types →
        ∀ name ∈ type.body.references, name ∉ aside.types) ∧
      ∀ type ∈ others, type.name ∈ aside.types → Unproblematic type := by
  obtain ⟨-, others, ranOthers, same, clear, inertOthers⟩ :=
    mapM_carried (resolveType first) (resolveType second) (!aside.types.contains ·.name)
      (!aside.types.contains ·.name) Unproblematic (effectiveTypes_agree agree)
      (fun type member dropped => by
        have isAside := dropped_iff.mp dropped
        exact (inertFirst type (declared_of_effective member isAside) isAside).quiet first)
      (fun type _ _ _ _ ran => by rw [name_resolveType ran])
      (fun type member kept => by
        have other := kept_iff.mp kept
        obtain ⟨original, declared, rfl⟩ := List.mem_map.mp member
        rw [Declarations.name_effective] at other
        apply carries_resolveType agree unneeded _ (unneeded.effective declared other)
        rw [Declarations.name_effective]
        exact List.mem_map_of_mem (Aside.mem_others.mpr ⟨declared, other⟩))
      (fun type member dropped => by
        have isAside := dropped_iff.mp dropped
        obtain ⟨result, named, sound, succeeds⟩ :=
          (inertSecond type (declared_of_effective member isAside) isAside).succeeds second
        exact ⟨result, by rw [named]; exact dropped, sound, succeeds⟩)
      settled ran
  exact ⟨others, ranOthers, same,
    fun type member other => clear type member (kept_iff.mpr other),
    fun type member isAside => inertOthers type member (dropped_iff.mpr isAside)⟩

omit agree unneeded in
private theorem unproblematic_of_ran
    (inert : ∀ type ∈ first.types, type.name ∈ aside.types → Inert type)
    {table after : FieldTable} {types : List ResolvedType}
    (ran : first.effectiveTypes.mapM (resolveType first) table = .ok (types, after)) :
    ∀ type ∈ types, type.name ∈ aside.types → Unproblematic type := by
  refine forall_of_mapM (fun type member table value after ran isAside => ?_) ran
  rw [name_resolveType ran] at isAside
  obtain ⟨result, -, sound, succeeds⟩ :=
    (inert type (declared_of_effective member isAside) isAside).succeeds first
  rw [succeeds] at ran
  cases ran
  exact sound

/--
Declarations resolve if others do with which they agree, apart from what is set aside, is not needed
and can be left out.
-/
theorem resolve_of_agree
    (inertFirst : ∀ type ∈ first.types, type.name ∈ aside.types → Inert type)
    (inertSecond : ∀ type ∈ second.types, type.name ∈ aside.types → Inert type)
    (quiet : ∀ directive ∈ first.directives, directive.name ∈ aside.directives →
      Quiet (resolveDirective first directive))
    (bare : ∀ directive ∈ second.directives, directive.name ∈ aside.directives →
      directive.arguments = []) {schema : ResolvedSchema}
    (resolved : resolve first = .ok schema) :
    ∃ other, resolve second = .ok other ∧ schema.AgreeApart aside other := by
  obtain ⟨shells, directives, middle, types, after, ranDirectives, ranTypes, rfl⟩ :=
    resolve_eq_ok_iff.mp resolved
  obtain ⟨settled, otherDirectives, ranOtherDirectives, sameDirectives, bareOthers⟩ :=
    directives_carried agree unneeded quiet bare (settled_nil agree) ranDirectives
  obtain ⟨otherTypes, ranOtherTypes, sameTypes, clear, inertOthers⟩ :=
    types_carried agree unneeded inertFirst inertSecond settled ranTypes
  refine ⟨_, resolve_eq_ok_iff.mpr ⟨shells_carried agree inertSecond shells, otherDirectives,
    middle, otherTypes, after, ranOtherDirectives, ranOtherTypes, rfl⟩, ?_⟩
  constructor
  case declarations => exact agree
  case types => exact sameTypes
  case directives => exact sameDirectives
  case clear => exact clear
  case inertFirst => exact unproblematic_of_ran inertFirst ranTypes
  case inertSecond => exact inertOthers
  case bare => exact bareOthers

end

end FederationSplit.TypeSystem
