import FederationSplit.Proofs.Schema.Gathering

namespace FederationSplit.Schema

open FederationSplit.Syntax
open FederationSplit.Rules

def appendAll (document : Document) (items : List Definition) : Document where
  definitions := document.definitions ++ items

/-- Definitions of new types, and extensions of what a document has, each of its kind. -/
structure Appendable (document : Document) (items : List Definition) : Prop where
  plain : ∀ item ∈ items, definitionProblem? [] item = none
  distinct : (typeNames { definitions := items }).Nodup
  undefined : ∀ name ∈ typeNames { definitions := items }, name ∉ typeNames document
  unextended : ∀ extension ∈ typeExtensions document,
    extension.name ∉ typeNames { definitions := items }
  based : ∀ extension ∈ typeExtensions { definitions := items },
    HasKind (fold document).types extension.name extension.body.kind

theorem hasKind_fold_iff {document : Document} {name : Name} {kind : TypeKind} :
    HasKind (fold document).types name kind ↔
      ∃ type, gatheredType? document name = some type ∧ type.kind = kind := by
  simp only [← findType?_fold, findType?_eq_some_iff (distinctNames_fold document), HasKind,
    and_assoc]

private theorem typeNames_append (first second : List Definition) :
    typeNames { definitions := first ++ second } =
      typeNames { definitions := first } ++ typeNames { definitions := second } := by
  rw [typeNames, typeDefinitions, List.filterMap_append, List.map_append]
  rfl

section

variable {document : Document} {items : List Definition}

theorem typeNames_appendAll :
    typeNames (appendAll document items) =
      typeNames document ++ typeNames { definitions := items } :=
  typeNames_append document.definitions items

theorem typeExtensions_appendAll :
    typeExtensions (appendAll document items) =
      typeExtensions document ++ typeExtensions { definitions := items } :=
  List.filterMap_append

/-- A type that is not defined once more has what is added to it behind what it had. -/
theorem gatheredType?_appendAll {name : Name} {type : TypeDefinition}
    (gathers : gatheredType? document name = some type)
    (undefined : name ∉ typeNames { definitions := items }) :
    gatheredType? (appendAll document items) name =
      some (joinedType type (extensionsOf name (typeExtensions { definitions := items }))) := by
  have definitions : findType? (typeDefinitions (appendAll document items)) name =
      findType? (typeDefinitions document) name := by
    have split : typeDefinitions (appendAll document items) =
        typeDefinitions document ++ typeDefinitions { definitions := items } :=
      List.filterMap_append
    rw [split, findType?_append, findType?_eq_none_iff.mpr undefined, Option.or_none]
  have extensions : extensionsOf name (typeExtensions (appendAll document items)) =
      extensionsOf name (typeExtensions document) ++
        extensionsOf name (typeExtensions { definitions := items }) := by
    rw [typeExtensions_appendAll]
    exact List.filter_append ..
  rw [gatheredType?_eq_foldl, definitions, extensions, List.foldl_append,
    ← gatheredType?_eq_foldl, gathers, foldl_extendFound]

private theorem problems_grouped_of_new {earlier : List Definition}
    (plain : ∀ item ∈ items, definitionProblem? [] item = none)
    (distinct : (typeNames { definitions := items }).Nodup)
    (undefined : ∀ name ∈ typeNames { definitions := items },
      name ∉ typeNames { definitions := earlier }) :
    ((earlier ++ items).foldl Definitions.addDefinition Definitions.empty).problems =
      (earlier.foldl Definitions.addDefinition Definitions.empty).problems := by
  induction items generalizing earlier with
  | nil => rw [List.append_nil]
  | cons head tail induction =>
      rw [List.forall_mem_cons] at plain
      have split : typeNames { definitions := head :: tail } =
          typeNames { definitions := [head] } ++ typeNames { definitions := tail } :=
        typeNames_append [head] tail
      rw [split, List.nodup_append] at distinct
      rw [split, List.forall_mem_append] at undefined
      have new : definitionProblem? earlier head = none := by
        cases head with
        | type type => exact if_neg (undefined.1 type.name List.mem_cons_self)
        | operation | fragment => cases plain.1
        | schema | schemaExtension | typeExtension | directive => rfl
      rw [List.append_cons, induction plain.2 distinct.2.1, List.foldl_append]
      · exact (problems_addDefinition earlier head).trans (by rw [new]; exact List.append_nil _)
      · intro name member
        have both : typeNames { definitions := earlier ++ [head] } =
            typeNames { definitions := earlier } ++ typeNames { definitions := [head] } :=
          typeNames_append earlier [head]
        rw [both, List.mem_append, not_or]
        exact ⟨undefined.2 name member, fun here => distinct.2.2 name here name member rfl⟩

theorem Appendable.other (appendable : Appendable document items) {name : Name}
    (present : name ∈ (fold document).types.map (·.name)) :
    name ∉ typeNames { definitions := items } := by
  intro defined
  rw [names_fold, List.mem_append, definedNames, orphanNames, List.mem_eraseDups,
    List.mem_eraseDups] at present
  rcases present with here | orphan
  · exact appendable.undefined name defined here
  · obtain ⟨extension, member, rfl⟩ := List.mem_map.mp (List.mem_of_mem_filter orphan)
    exact appendable.unextended extension member defined

private theorem extensionProblem?_appendAll (appendable : Appendable document items)
    {extension : TypeExtension}
    (based : HasKind (fold document).types extension.name extension.body.kind) :
    extensionProblem? (appendAll document items) extension = none := by
  have present : extension.name ∈ (fold document).types.map (·.name) := by
    obtain ⟨type, member, named, -⟩ := based
    exact named ▸ List.mem_map_of_mem member
  obtain ⟨type, gathers, kind⟩ := hasKind_fold_iff.mp based
  rw [extensionProblem?, gatheredType?_appendAll gathers (appendable.other present),
    Option.any_some, kind_joinedType, kind, if_neg]
  simp

theorem problems_fold_appendAll (appendable : Appendable document items)
    (sound : (fold document).problems = []) : (fold (appendAll document items)).problems = [] := by
  obtain ⟨-, based, -⟩ :=
    foldl_addExtension_of_sound (distinctNames_grouped document.definitions) sound
  rw [problems_fold_eq, List.append_eq_nil_iff] at sound
  have grouped : ((appendAll document items).definitions.foldl Definitions.addDefinition
      Definitions.empty).problems = [] :=
    (problems_grouped_of_new appendable.plain appendable.distinct appendable.undefined).trans
      sound.1
  rw [problems_fold_eq, grouped, List.nil_append, typeExtensions_appendAll,
    List.filterMap_append, List.append_eq_nil_iff, List.filterMap_eq_nil_iff,
    List.filterMap_eq_nil_iff]
  exact ⟨fun extension member => extensionProblem?_appendAll appendable (based extension member),
    fun extension member =>
      extensionProblem?_appendAll appendable (appendable.based extension member)⟩

private theorem mem_definedNames_appendAll {name : Name} :
    name ∈ definedNames (appendAll document items) ↔
      name ∈ definedNames document ∨ name ∈ typeNames { definitions := items } := by
  rw [definedNames, definedNames, typeNames_appendAll, List.mem_eraseDups, List.mem_eraseDups,
    List.mem_append]

private theorem orphanNames_appendAll (appendable : Appendable document items) :
    orphanNames (appendAll document items) = orphanNames document := by
  have own : ((typeExtensions document).map (·.name)).filter
        (· ∉ definedNames (appendAll document items)) =
      ((typeExtensions document).map (·.name)).filter (· ∉ definedNames document) := by
    apply List.filter_congr
    intro name member
    obtain ⟨extension, extensionMember, rfl⟩ := List.mem_map.mp member
    simp only [mem_definedNames_appendAll, appendable.unextended extension extensionMember,
      or_false]
  -- What is extended has a definition, or is among the names that have none.
  have added : (((typeExtensions { definitions := items }).map (·.name)).filter
        (· ∉ definedNames (appendAll document items))).removeAll
      (((typeExtensions document).map (·.name)).filter (· ∉ definedNames document)) = [] := by
    rw [List.removeAll, List.filter_eq_nil_iff]
    intro name member
    rw [List.mem_filter] at member
    obtain ⟨extension, extensionMember, rfl⟩ := List.mem_map.mp member.1
    obtain ⟨type, typeMember, named, -⟩ := appendable.based extension extensionMember
    have present : extension.name ∈ definedNames document ++ orphanNames document := by
      rw [← names_fold, ← named]
      exact List.mem_map_of_mem typeMember
    rcases List.mem_append.mp present with here | orphan
    · exact absurd (mem_definedNames_appendAll.mpr (.inl here)) (of_decide_eq_true member.2)
    · rw [orphanNames, List.mem_eraseDups] at orphan
      simpa using orphan
  rw [orphanNames, typeExtensions_appendAll, List.map_append, List.filter_append, own,
    List.eraseDups_append, added]
  exact List.append_nil _

/-- The names of appended types stand between those that are defined and those that are not. -/
theorem names_fold_appendAll (appendable : Appendable document items) :
    ∃ new, (∀ name ∈ new, name ∈ typeNames { definitions := items }) ∧
      (fold (appendAll document items)).types.map (·.name) =
        definedNames document ++ new ++ orphanNames document := by
  refine ⟨((typeNames { definitions := items }).removeAll (typeNames document)).eraseDups,
    fun name member => ?_, ?_⟩
  · exact List.mem_of_mem_filter (List.mem_eraseDups.mp member)
  · rw [names_fold, orphanNames_appendAll appendable, definedNames, typeNames_appendAll,
      List.eraseDups_append]
    rfl

end

end FederationSplit.Schema
