import FederationSplit.Proofs.Schema.Folding
import FederationSplit.Rules.Check

namespace FederationSplit.Schema

open FederationSplit.Syntax
open FederationSplit.Rules

private theorem types_foldl_addDefinition {definitions : Definitions} {items : List Definition}
    (distinct : DistinctNames (definitions.types ++ typeDefinitions { definitions := items })) :
    (items.foldl Definitions.addDefinition definitions).types =
      definitions.types ++ typeDefinitions { definitions := items } := by
  induction items generalizing definitions with
  | nil => exact (List.append_nil _).symm
  | cons head tail induction =>
      rw [List.foldl_cons]
      cases head with
      | type type =>
          have split : typeDefinitions { definitions := .type type :: tail } =
              type :: typeDefinitions { definitions := tail } := rfl
          rw [split, List.append_cons] at distinct
          have fresh : findType? definitions.types type.name = none := by
            rw [DistinctNames, List.map_append, List.map_append, List.append_assoc,
              List.nodup_append] at distinct
            rw [findType?_eq_none_iff]
            intro member
            exact distinct.2.2 type.name member type.name
              (List.mem_append_left _ List.mem_cons_self) rfl
          have added : definitions.addDefinition (.type type) =
              { definitions with types := definitions.types ++ [type] } := by
            rw [Definitions.addDefinition, fresh]
            rfl
          rw [added, split]
          exact (induction distinct).trans (List.append_cons ..).symm
      | operation | fragment | schema | schemaExtension | typeExtension | directive =>
          exact induction distinct

theorem directives_foldl_addDefinition (definitions : Definitions)
    (items : List Definition) :
    (items.foldl Definitions.addDefinition definitions).directives =
      definitions.directives ++ directiveDefinitions { definitions := items } := by
  induction items generalizing definitions with
  | nil => exact (List.append_nil _).symm
  | cons head tail induction =>
      rw [List.foldl_cons, induction]
      cases head with
      | directive directive =>
          change (definitions.directives ++ [directive]) ++ _ = definitions.directives ++ _
          rw [List.append_assoc]
          rfl
      | type type =>
          rw [Definitions.addDefinition]
          split <;> rfl
      | operation | fragment | schema | schemaExtension | typeExtension => rfl

def extendWith (type : TypeDefinition) (extension : TypeExtension) : TypeDefinition :=
  if type.name = extension.name then (extendType? type extension).getD type else type

/-- A type with what all extensions of its name add, in order. -/
def extended (extensions : List TypeExtension) (type : TypeDefinition) : TypeDefinition :=
  extensions.foldl extendWith type

theorem kind_of_extendBody? {body more result : TypeBody}
    (joined : extendBody? body more = some result) : result.kind = body.kind := by
  unfold extendBody? at joined
  split at joined <;> cases joined <;> rfl

theorem sameKind_of_extendBody? {body more result : TypeBody}
    (joined : extendBody? body more = some result) : body.kind = more.kind := by
  unfold extendBody? at joined
  split at joined <;> cases joined <;> rfl

theorem extendBody?_isSome {body more : TypeBody} (sameKind : body.kind = more.kind) :
    (extendBody? body more).isSome := by
  cases body <;> cases more <;> first | rfl | cases sameKind

theorem name_extendWith (type : TypeDefinition) (extension : TypeExtension) :
    (extendWith type extension).name = type.name := by
  unfold extendWith extendType?
  split
  · cases extendBody? type.body extension.body <;> rfl
  · rfl

theorem kind_extendWith (type : TypeDefinition) (extension : TypeExtension) :
    (extendWith type extension).kind = type.kind := by
  unfold extendWith extendType?
  split
  · cases joined : extendBody? type.body extension.body with
    | none => rfl
    | some result => exact kind_of_extendBody? joined
  · rfl

theorem name_extended (extensions : List TypeExtension) (type : TypeDefinition) :
    (extended extensions type).name = type.name := by
  induction extensions generalizing type with
  | nil => rfl
  | cons head tail induction => exact (induction _).trans (name_extendWith type head)

theorem kind_extended (extensions : List TypeExtension) (type : TypeDefinition) :
    (extended extensions type).kind = type.kind := by
  induction extensions generalizing type with
  | nil => rfl
  | cons head tail induction => exact (induction _).trans (kind_extendWith type head)

def Extends (types : List TypeDefinition) (extension : TypeExtension) : Prop :=
  ∃ type ∈ types, type.name = extension.name ∧ type.kind = extension.body.kind

private theorem types_addExtension {definitions : Definitions} {extension : TypeExtension}
    (distinct : DistinctNames definitions.types)
    (based : Extends definitions.types extension) :
    (definitions.addExtension extension).types =
      definitions.types.map (extendWith · extension) := by
  obtain ⟨type, member, sameName, sameKind⟩ := based
  have found : findType? definitions.types extension.name = some type :=
    (findType?_eq_some_iff distinct).mpr ⟨member, sameName⟩
  obtain ⟨body, joined⟩ := Option.isSome_iff_exists.mp (extendBody?_isSome sameKind)
  have result : extendType? type extension = some (extendWith type extension) := by
    rw [extendWith, if_pos sameName, extendType?, joined]
    rfl
  have present : (extendWith type extension).name ∈ definitions.types.map (·.name) := by
    rw [name_extendWith]
    exact List.mem_map_of_mem member
  rw [Definitions.addExtension, found]
  simp only [result]
  rw [setType_of_mem distinct present]
  apply List.map_congr_left
  intro other otherMember
  by_cases same : other.name = type.name
  · rw [distinct.eq_of_name_eq otherMember member same, if_pos (name_extendWith ..).symm]
  · rw [name_extendWith, if_neg same, extendWith,
      if_neg fun named => same (named.trans sameName.symm)]

private theorem types_foldl_addExtension {definitions : Definitions}
    {extensions : List TypeExtension} (distinct : DistinctNames definitions.types)
    (based : ∀ extension ∈ extensions, Extends definitions.types extension) :
    (extensions.foldl Definitions.addExtension definitions).types =
      definitions.types.map (extended extensions) := by
  induction extensions generalizing definitions with
  | nil => exact (List.map_id' _).symm
  | cons head tail induction =>
      have step := types_addExtension distinct (based head List.mem_cons_self)
      have stillBased : ∀ extension ∈ tail,
          Extends (definitions.addExtension head).types extension := by
        intro extension member
        obtain ⟨type, typeMember, sameName, sameKind⟩ :=
          based extension (List.mem_cons_of_mem _ member)
        rw [step]
        exact ⟨_, List.mem_map_of_mem typeMember, (name_extendWith ..).trans sameName,
          (kind_extendWith ..).trans sameKind⟩
      rw [List.foldl_cons, induction (Definitions.distinctNames_addExtension distinct head)
        stillBased, step, List.map_map]
      rfl

private theorem directives_foldl_addExtension (extensions : List TypeExtension)
    (definitions : Definitions) :
    (extensions.foldl Definitions.addExtension definitions).directives =
      definitions.directives := by
  induction extensions generalizing definitions with
  | nil => rfl
  | cons head tail induction =>
      rw [List.foldl_cons, induction, Definitions.addExtension]
      split
      · rfl
      · split <;> rfl

theorem fold_types {document : Document} (distinct : DistinctNames (typeDefinitions document))
    (based : ∀ extension ∈ typeExtensions document,
      Extends (typeDefinitions document) extension) :
    (fold document).types =
      (typeDefinitions document).map (extended (typeExtensions document)) := by
  have grouped : (document.definitions.foldl Definitions.addDefinition Definitions.empty).types =
      typeDefinitions document :=
    types_foldl_addDefinition distinct
  rw [fold, types_foldl_addExtension (by rwa [grouped]) (by rwa [grouped]), grouped]

theorem fold_directives (document : Document) :
    (fold document).directives = directiveDefinitions document := by
  rw [fold, directives_foldl_addExtension, directives_foldl_addDefinition]
  rfl

theorem extendWith_of_named {type : TypeDefinition} {extension : TypeExtension}
    (named : type.name = extension.name) (sameKind : type.kind = extension.body.kind) :
    ∃ body, extendBody? type.body extension.body = some body ∧
      extendWith type extension =
        { type with directives := type.directives ++ extension.directives, body } := by
  obtain ⟨body, joined⟩ := Option.isSome_iff_exists.mp (extendBody?_isSome sameKind)
  refine ⟨body, joined, ?_⟩
  rw [extendWith, if_pos named, extendType?, joined]
  rfl

theorem extendWith_of_other {type : TypeDefinition} {extension : TypeExtension}
    (other : type.name ≠ extension.name) : extendWith type extension = type :=
  if_neg other

def extensionsOf (name : Name) (extensions : List TypeExtension) : List TypeExtension :=
  extensions.filter (·.name == name)

/-- What is said of a type that is extended step by step holds of it with all its extensions. -/
private theorem extended_induction
    {motive : TypeDefinition → List TypeExtension → TypeDefinition → Prop}
    (nil : ∀ type, motive type [] type)
    (step : ∀ {type extension rest result body}, extendBody? type.body extension.body = some body →
      motive { type with directives := type.directives ++ extension.directives, body } rest result →
      motive type (extension :: rest) result)
    {extensions : List TypeExtension} {type : TypeDefinition}
    (sameKind : ∀ extension ∈ extensionsOf type.name extensions,
      type.kind = extension.body.kind) :
    motive type (extensionsOf type.name extensions) (extended extensions type) := by
  induction extensions generalizing type with
  | nil => exact nil type
  | cons head tail induction =>
      by_cases named : type.name = head.name
      · have here : extensionsOf type.name (head :: tail) =
            head :: extensionsOf type.name tail := List.filter_cons_of_pos (by simp [named])
        rw [here] at sameKind ⊢
        obtain ⟨body, joined, joins⟩ :=
          extendWith_of_named named (sameKind head List.mem_cons_self)
        apply step joined
        have kind := kind_of_extendBody? joined
        rw [extended, List.foldl_cons, joins]
        apply induction
        intro extension member
        exact kind.trans (sameKind extension (List.mem_cons_of_mem _ member))
      · have elsewhere : extensionsOf type.name (head :: tail) = extensionsOf type.name tail :=
          List.filter_cons_of_neg (by simp [Ne.symm named])
        rw [elsewhere] at sameKind ⊢
        rw [extended, List.foldl_cons, extendWith_of_other named]
        exact induction sameKind

section

variable {extensions : List TypeExtension} {type : TypeDefinition}
  (sameKind : ∀ extension ∈ extensionsOf type.name extensions,
    type.kind = extension.body.kind)

include sameKind

theorem directives_extended :
    (extended extensions type).directives =
      type.directives ++ (extensionsOf type.name extensions).flatMap (·.directives) := by
  refine extended_induction
    (motive := fun type rest result =>
      result.directives = type.directives ++ rest.flatMap (·.directives))
    (fun type => (List.append_nil _).symm) ?_ sameKind
  intro type extension rest result body _ collected
  rw [collected, List.append_assoc]
  rfl

theorem collect_extended {α : Type} {collect : TypeBody → List α}
    (joins : ∀ {body more result}, extendBody? body more = some result →
      collect result = collect body ++ collect more) :
    collect (extended extensions type).body =
      collect type.body ++ (extensionsOf type.name extensions).flatMap (collect ·.body) := by
  refine extended_induction
    (motive := fun type rest result =>
      collect result.body = collect type.body ++ rest.flatMap (collect ·.body))
    (fun type => (List.append_nil _).symm) ?_ sameKind
  intro type extension rest result body joined collected
  rw [collected, joins joined, List.append_assoc]
  rfl

/-- What holds of all parts of a body holds of the body. -/
theorem holds_extended {property : TypeBody → Prop}
    (joins : ∀ {body more result}, extendBody? body more = some result →
      property body → property more → property result)
    (own : property type.body)
    (more : ∀ extension ∈ extensionsOf type.name extensions, property extension.body) :
    property (extended extensions type).body := by
  refine extended_induction
    (motive := fun type rest result => property type.body →
      (∀ extension ∈ rest, property extension.body) → property result.body)
    (fun type own _ => own) ?_ sameKind own more
  intro type extension rest result body joined holds own more
  rw [List.forall_mem_cons] at more
  exact holds (joins joined own more.1) more.2

end

end FederationSplit.Schema
