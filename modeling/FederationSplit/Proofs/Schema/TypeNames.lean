import FederationSplit.Schema.SchemaDocument
import Mathlib.Data.List.Nodup

namespace FederationSplit.Schema

open FederationSplit.Syntax

/-- No two types of a list have the same name. -/
def DistinctNames (types : List TypeDefinition) : Prop :=
  (types.map (·.name)).Nodup

theorem DistinctNames.nil : DistinctNames [] :=
  List.nodup_nil

theorem distinctNames_cons {type : TypeDefinition} {types : List TypeDefinition} :
    DistinctNames (type :: types) ↔
      type.name ∉ types.map (·.name) ∧ DistinctNames types := by
  simp only [DistinctNames, List.map_cons, List.nodup_cons]

theorem DistinctNames.sublist {types others : List TypeDefinition}
    (sublist : types.Sublist others) (distinct : DistinctNames others) :
    DistinctNames types :=
  (sublist.map _).nodup distinct

theorem DistinctNames.eq_of_name_eq {types : List TypeDefinition}
    (distinct : DistinctNames types) {type other : TypeDefinition}
    (typeMember : type ∈ types) (otherMember : other ∈ types)
    (sameName : type.name = other.name) : type = other :=
  List.inj_on_of_nodup_map distinct typeMember otherMember sameName

theorem mem_of_findType? {types : List TypeDefinition} {name : Name} {type : TypeDefinition}
    (found : findType? types name = some type) : type ∈ types ∧ type.name = name := by
  have holds := List.find?_some found
  exact ⟨List.mem_of_find?_eq_some found, by simpa using holds⟩

theorem findType?_eq_none_iff {types : List TypeDefinition} {name : Name} :
    findType? types name = none ↔ name ∉ types.map (·.name) := by
  simp [findType?]

theorem findType?_isSome_iff {types : List TypeDefinition} {name : Name} :
    (findType? types name).isSome ↔ name ∈ types.map (·.name) := by
  simp [findType?]

theorem findType?_eq_some_iff {types : List TypeDefinition} (distinct : DistinctNames types)
    {name : Name} {type : TypeDefinition} :
    findType? types name = some type ↔ type ∈ types ∧ type.name = name := by
  constructor
  · exact mem_of_findType?
  · rintro ⟨member, rfl⟩
    have present : (findType? types type.name).isSome :=
      findType?_isSome_iff.mpr (List.mem_map_of_mem member)
    obtain ⟨other, found⟩ := Option.isSome_iff_exists.mp present
    obtain ⟨otherMember, sameName⟩ := mem_of_findType? found
    rw [found, distinct.eq_of_name_eq otherMember member sameName]

theorem DistinctNames.filter_name {types : List TypeDefinition} {type : TypeDefinition}
    (distinct : DistinctNames types) (member : type ∈ types) :
    types.filter (·.name == type.name) = [type] := by
  induction types with
  | nil => cases member
  | cons head tail induction =>
      obtain ⟨headFresh, tailDistinct⟩ := distinctNames_cons.mp distinct
      rcases List.mem_cons.mp member with rfl | there
      · have others : tail.filter (·.name == type.name) = [] := by
          rw [List.filter_eq_nil_iff]
          intro other otherMember named
          apply headFresh
          rw [← beq_iff_eq.mp named]
          exact List.mem_map_of_mem otherMember
        rw [List.filter_cons_of_pos (by simp), others]
      · have other : head.name ≠ type.name := fun same =>
          headFresh (same ▸ List.mem_map_of_mem there)
        rw [List.filter_cons_of_neg (by simpa using other), induction tailDistinct there]

theorem setType_of_notMem {types : List TypeDefinition} {definition : TypeDefinition}
    (fresh : definition.name ∉ types.map (·.name)) :
    setType definition types = types ++ [definition] := by
  induction types with
  | nil => rfl
  | cons head tail induction =>
      simp only [List.map_cons, List.mem_cons, not_or] at fresh
      rw [setType, if_neg (Ne.symm fresh.1), induction fresh.2]
      rfl

theorem setType_of_mem {types : List TypeDefinition} {definition : TypeDefinition}
    (distinct : DistinctNames types) (present : definition.name ∈ types.map (·.name)) :
    setType definition types =
      types.map fun type => if type.name = definition.name then definition else type := by
  induction types with
  | nil => simp at present
  | cons head tail induction =>
      obtain ⟨headFresh, tailDistinct⟩ := distinctNames_cons.mp distinct
      by_cases sameName : head.name = definition.name
      · have untouched : ∀ type ∈ tail,
            (if type.name = definition.name then definition else type) = type := by
          intro type member
          rw [if_neg]
          intro equal
          apply headFresh
          rw [sameName, ← equal]
          exact List.mem_map_of_mem member
        rw [setType, if_pos sameName, List.map_cons, if_pos sameName,
          List.map_congr_left untouched, List.map_id']
      · have tailPresent : definition.name ∈ tail.map (·.name) := by
          simpa [Ne.symm sameName] using present
        rw [setType, if_neg sameName, induction tailDistinct tailPresent, List.map_cons,
          if_neg sameName]

theorem map_name_setType_of_mem {types : List TypeDefinition} {definition : TypeDefinition}
    (present : definition.name ∈ types.map (·.name)) :
    (setType definition types).map (·.name) = types.map (·.name) := by
  induction types with
  | nil => simp at present
  | cons head tail induction =>
      by_cases sameName : head.name = definition.name
      · simp [setType, sameName]
      · have tailPresent : definition.name ∈ tail.map (·.name) := by
          simpa [Ne.symm sameName] using present
        simp [setType, sameName, induction tailPresent]

theorem DistinctNames.setType {types : List TypeDefinition} {definition : TypeDefinition}
    (distinct : DistinctNames types) : DistinctNames (setType definition types) := by
  unfold DistinctNames at distinct ⊢
  by_cases present : definition.name ∈ types.map (·.name)
  · rwa [map_name_setType_of_mem present]
  · rw [setType_of_notMem present, List.map_append]
    simpa [List.concat_eq_append] using distinct.concat present

theorem DistinctNames.append_fresh {types : List TypeDefinition} {type : TypeDefinition}
    (distinct : DistinctNames types) (fresh : type.name ∉ types.map (·.name)) :
    DistinctNames (types ++ [type]) := by
  rw [← setType_of_notMem fresh]
  exact distinct.setType

/-- A type of another name stays where it is, whatever is put before or behind it. -/
theorem setType_insert {definition type : TypeDefinition} (other : definition.name ≠ type.name)
    (front back : List TypeDefinition) :
    ∃ newFront newBack, setType definition (front ++ back) = newFront ++ newBack ∧
      setType definition (front ++ type :: back) = newFront ++ type :: newBack := by
  induction front with
  | nil =>
      refine ⟨[], setType definition back, rfl, ?_⟩
      rw [List.nil_append, Schema.setType, if_neg (Ne.symm other)]
      rfl
  | cons head tail induction =>
      rw [List.cons_append, List.cons_append, Schema.setType, Schema.setType]
      split
      · exact ⟨definition :: tail, back, rfl, rfl⟩
      · obtain ⟨newFront, newBack, without, inserted⟩ := induction
        exact ⟨head :: newFront, newBack, by rw [without]; rfl, by rw [inserted]; rfl⟩

theorem foldl_setType_insert {definitions : List TypeDefinition} {type : TypeDefinition}
    (others : ∀ definition ∈ definitions, definition.name ≠ type.name)
    (front back : List TypeDefinition) :
    ∃ newFront newBack,
      definitions.foldl (fun types definition => setType definition types) (front ++ back) =
          newFront ++ newBack ∧
        definitions.foldl (fun types definition => setType definition types)
            (front ++ type :: back) = newFront ++ type :: newBack := by
  induction definitions generalizing front back with
  | nil => exact ⟨front, back, rfl, rfl⟩
  | cons head tail induction =>
      rw [List.forall_mem_cons] at others
      obtain ⟨newFront, newBack, without, inserted⟩ := setType_insert others.1 front back
      rw [List.foldl_cons, List.foldl_cons, without, inserted]
      exact induction others.2 newFront newBack

theorem mem_names_setType {types : List TypeDefinition} {definition : TypeDefinition}
    {name : Name} :
    name ∈ (setType definition types).map (·.name) ↔
      name = definition.name ∨ name ∈ types.map (·.name) := by
  by_cases present : definition.name ∈ types.map (·.name)
  · rw [map_name_setType_of_mem present]
    constructor
    · exact .inr
    · rintro (rfl | member)
      · exact present
      · exact member
  · rw [setType_of_notMem present, List.map_append, List.mem_append, or_comm]
    simp only [List.map_cons, List.map_nil, List.mem_singleton]

theorem mem_setType {types : List TypeDefinition} (distinct : DistinctNames types)
    {definition type : TypeDefinition} :
    type ∈ setType definition types ↔
      type = definition ∨ type ∈ types ∧ type.name ≠ definition.name := by
  induction types with
  | nil => simp [Schema.setType]
  | cons head tail induction =>
      obtain ⟨headFresh, tailDistinct⟩ := distinctNames_cons.mp distinct
      by_cases sameName : head.name = definition.name
      · have others : type ∈ tail → type.name ≠ definition.name := fun member named =>
          headFresh (sameName ▸ named ▸ List.mem_map_of_mem member)
        rw [Schema.setType, if_pos sameName, List.mem_cons, List.mem_cons]
        constructor
        · rintro (new | old)
          · exact .inl new
          · exact .inr ⟨.inr old, others old⟩
        · rintro (new | ⟨rfl | old, other⟩)
          · exact .inl new
          · exact absurd sameName other
          · exact .inr old
      · rw [Schema.setType, if_neg sameName, List.mem_cons, List.mem_cons, induction tailDistinct]
        constructor
        · rintro (rfl | new | ⟨old, other⟩)
          · exact .inr ⟨.inl rfl, sameName⟩
          · exact .inl new
          · exact .inr ⟨.inr old, other⟩
        · rintro (new | ⟨rfl | old, other⟩)
          · exact .inr (.inl new)
          · exact .inl rfl
          · exact .inr (.inr ⟨old, other⟩)

theorem forall_mem_setType {types : List TypeDefinition} {definition : TypeDefinition}
    {property : TypeDefinition → Prop} (new : property definition)
    (old : ∀ type ∈ types, property type) : ∀ type ∈ setType definition types, property type := by
  induction types with
  | nil => exact List.forall_mem_singleton.mpr new
  | cons head tail induction =>
      rw [List.forall_mem_cons] at old
      rw [setType]
      split
      · exact List.forall_mem_cons.mpr ⟨new, old.2⟩
      · exact List.forall_mem_cons.mpr ⟨old.1, induction old.2⟩

theorem forall_mem_foldl_setType {types definitions : List TypeDefinition}
    {property : TypeDefinition → Prop} (new : ∀ definition ∈ definitions, property definition)
    (old : ∀ type ∈ types, property type) :
    ∀ type ∈ definitions.foldl (fun types definition => setType definition types) types,
      property type := by
  induction definitions generalizing types with
  | nil => exact old
  | cons head tail induction =>
      rw [List.forall_mem_cons] at new
      exact induction new.2 (forall_mem_setType new.1 old)

theorem findType?_setType (definition : TypeDefinition) (types : List TypeDefinition) :
    findType? (setType definition types) definition.name = some definition := by
  induction types with
  | nil => simp [setType, findType?]
  | cons head tail induction =>
      by_cases sameName : head.name = definition.name
      · rw [setType, if_pos sameName, findType?,
          List.find?_cons_of_pos (by exact beq_self_eq_true definition.name)]
      · rw [setType, if_neg sameName, findType?, List.find?_cons_of_neg (by simpa using sameName)]
        exact induction

theorem findType?_setType_of_ne {definition : TypeDefinition} {name : Name}
    (other : definition.name ≠ name) (types : List TypeDefinition) :
    findType? (setType definition types) name = findType? types name := by
  induction types with
  | nil => simp [setType, findType?, other]
  | cons head tail induction =>
      simp only [findType?] at induction ⊢
      by_cases sameName : head.name = definition.name
      · rw [setType, if_pos sameName, List.find?_cons_of_neg (by simpa using other),
          List.find?_cons_of_neg (by simpa [sameName] using other)]
      · rw [setType, if_neg sameName, List.find?_cons, List.find?_cons, induction]

theorem filter_setType {types : List TypeDefinition} {definition : TypeDefinition}
    (distinct : DistinctNames types) {keeps : TypeDefinition → Bool}
    (dropped : keeps definition = false) :
    (setType definition types).filter keeps =
      types.filter fun type => keeps type && type.name != definition.name := by
  induction types with
  | nil => simp [Schema.setType, dropped]
  | cons head tail induction =>
      obtain ⟨headFresh, tailDistinct⟩ := distinctNames_cons.mp distinct
      by_cases sameName : head.name = definition.name
      · have others : ∀ type ∈ tail,
            keeps type = (keeps type && type.name != definition.name) := by
          intro type member
          have other : type.name ≠ definition.name := fun equal =>
            headFresh (List.mem_map.mpr ⟨type, member, equal.trans sameName.symm⟩)
          simp [other]
        rw [Schema.setType, if_pos sameName, List.filter_cons_of_neg (by simp [dropped]),
          List.filter_cons_of_neg (by simp [sameName]), List.filter_congr others]
      · rw [Schema.setType, if_neg sameName, List.filter_cons, List.filter_cons,
          induction tailDistinct]
        simp [sameName]

theorem DistinctNames.foldl_setType {types definitions : List TypeDefinition}
    (distinct : DistinctNames types) :
    DistinctNames
      (definitions.foldl (fun types definition => Schema.setType definition types) types) := by
  induction definitions generalizing types with
  | nil => exact distinct
  | cons head tail induction => exact induction distinct.setType

theorem mem_names_foldl_setType {types definitions : List TypeDefinition} {name : Name} :
    name ∈ (definitions.foldl (fun types definition => setType definition types) types).map
        (·.name) ↔
      name ∈ definitions.map (·.name) ∨ name ∈ types.map (·.name) := by
  induction definitions generalizing types with
  | nil => simp
  | cons head tail induction =>
      rw [List.foldl_cons, induction, mem_names_setType, List.map_cons, List.mem_cons,
        or_left_comm, or_assoc]

/-- The types that are put in place are there, and the others whose places they do not take. -/
theorem mem_foldl_setType {types definitions : List TypeDefinition} {type : TypeDefinition}
    (distinct : DistinctNames types) (distinctNew : DistinctNames definitions) :
    type ∈ definitions.foldl (fun types definition => setType definition types) types ↔
      type ∈ definitions ∨ type ∈ types ∧ type.name ∉ definitions.map (·.name) := by
  induction definitions generalizing types with
  | nil => simp
  | cons head tail induction =>
      obtain ⟨headFresh, tailDistinct⟩ := distinctNames_cons.mp distinctNew
      rw [List.foldl_cons, induction distinct.setType tailDistinct, mem_setType distinct,
        List.mem_cons, List.map_cons, List.mem_cons, not_or]
      constructor
      · rintro (new | ⟨rfl | ⟨old, other⟩, others⟩)
        · exact .inl (.inr new)
        · exact .inl (.inl rfl)
        · exact .inr ⟨old, other, others⟩
      · rintro ((rfl | new) | ⟨old, other, others⟩)
        · exact .inr ⟨.inl rfl, headFresh⟩
        · exact .inl new
        · exact .inr ⟨.inr ⟨old, other⟩, others⟩

theorem filter_foldl_setType {types : List TypeDefinition} (distinct : DistinctNames types)
    {keeps : TypeDefinition → Bool} {definitions : List TypeDefinition}
    (dropped : ∀ definition ∈ definitions, keeps definition = false) :
    (definitions.foldl (fun types definition => setType definition types) types).filter keeps =
      types.filter fun type => keeps type && !(definitions.map (·.name)).contains type.name := by
  induction definitions generalizing types with
  | nil => simp
  | cons head tail induction =>
      rw [List.forall_mem_cons] at dropped
      have headDropped :
          (keeps head && !(tail.map (·.name)).contains head.name) = false := by
        rw [dropped.1, Bool.false_and]
      rw [List.foldl_cons, induction distinct.setType dropped.2,
        filter_setType distinct headDropped]
      apply List.filter_congr
      intro type _
      rw [List.map_cons, List.contains_cons, Bool.not_or, Bool.and_assoc,
        Bool.and_comm (!_) (_ != _)]
      rfl

/-- Types that are put in place keep the order of the others, and those of new names follow them. -/
theorem map_name_foldl_setType {types definitions : List TypeDefinition}
    (distinct : DistinctNames definitions) :
    (definitions.foldl (fun types definition => setType definition types) types).map (·.name) =
      types.map (·.name) ++
        (definitions.map (·.name)).filter (!(types.map (·.name)).contains ·) := by
  induction definitions generalizing types with
  | nil => simp
  | cons head tail induction =>
      obtain ⟨headFresh, tailDistinct⟩ := distinctNames_cons.mp distinct
      rw [List.foldl_cons, induction tailDistinct, List.map_cons]
      by_cases present : head.name ∈ types.map (·.name)
      · rw [map_name_setType_of_mem present, List.filter_cons_of_neg (by simpa using present)]
      · have others : ∀ name ∈ tail.map (·.name),
            (!(types.map (·.name) ++ [head.name]).contains name) =
              !(types.map (·.name)).contains name := by
          intro name member
          have other : name ≠ head.name := fun same => headFresh (same ▸ member)
          simp [other]
        rw [setType_of_notMem present, List.map_append, List.map_singleton,
          List.filter_congr others, List.filter_cons_of_pos (by simpa using present),
          List.append_assoc, List.singleton_append]

/-- Among types that are put in place, the new ones are found first. -/
theorem findType?_foldl_setType {types definitions : List TypeDefinition}
    (distinct : DistinctNames definitions) {name : Name} :
    findType? (definitions.foldl (fun types definition => setType definition types) types) name =
      (findType? definitions name).or (findType? types name) := by
  induction definitions generalizing types with
  | nil => rfl
  | cons head tail induction =>
      obtain ⟨headFresh, tailDistinct⟩ := distinctNames_cons.mp distinct
      rw [List.foldl_cons, induction tailDistinct]
      by_cases same : head.name = name
      · subst same
        have missing : findType? tail head.name = none := findType?_eq_none_iff.mpr headFresh
        rw [missing, findType?_setType, findType?, List.find?_cons_of_pos (by simp)]
        rfl
      · rw [findType?_setType_of_ne same, findType?, findType?, findType?,
          List.find?_cons_of_neg (by simpa using same)]

end FederationSplit.Schema
