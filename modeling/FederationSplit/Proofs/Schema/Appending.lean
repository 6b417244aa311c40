import FederationSplit.Proofs.Schema.Merging

namespace FederationSplit.Schema

open FederationSplit.Syntax
open FederationSplit.Rules

def append (document : Document) (definition : Definition) : Document where
  definitions := document.definitions ++ [definition]

private theorem fold_append (document : Document) (definition : Definition)
    (other : typeExtensions { definitions := [definition] } = []) :
    fold (append document definition) =
      (typeExtensions document).foldl Definitions.addExtension
        ((document.definitions.foldl Definitions.addDefinition Definitions.empty).addDefinition
          definition) := by
  have extensions : typeExtensions (append document definition) = typeExtensions document := by
    rw [typeExtensions, append, List.filterMap_append]
    exact (congrArg (_ ++ ·) other).trans (List.append_nil _)
  rw [fold, extensions, append, List.foldl_append]
  rfl

private theorem addExtension_directives (definitions : Definitions)
    (directives : List DirectiveDefinition) (extension : TypeExtension) :
    ({ definitions with directives := directives } : Definitions).addExtension extension =
      { definitions.addExtension extension with directives := directives } := by
  unfold Definitions.addExtension
  dsimp only
  split
  · rfl
  · split <;> rfl

private theorem foldl_addExtension_directives (definitions : Definitions)
    (directives : List DirectiveDefinition) (extensions : List TypeExtension) :
    extensions.foldl Definitions.addExtension { definitions with directives := directives } =
      { extensions.foldl Definitions.addExtension definitions with directives := directives } := by
  induction extensions generalizing definitions with
  | nil => rfl
  | cons head tail induction =>
      rw [List.foldl_cons, addExtension_directives, induction, List.foldl_cons]

theorem fold_append_directive (document : Document) (directive : DirectiveDefinition) :
    fold (append document (.directive directive)) =
      { fold document with directives := (fold document).directives ++ [directive] } := by
  have folded := fold_append document (.directive directive) rfl
  rw [Definitions.addDefinition, foldl_addExtension_directives] at folded
  have grouped : (document.definitions.foldl Definitions.addDefinition
      Definitions.empty).directives = (fold document).directives := by
    rw [fold_directives]
    exact (directives_foldl_addDefinition ..)
  rw [folded, grouped]
  rfl

private theorem findType?_insert {type : TypeDefinition} {name : Name} (other : type.name ≠ name)
    (front back : List TypeDefinition) :
    findType? (front ++ type :: back) name = findType? (front ++ back) name := by
  rw [findType?, findType?, List.find?_append, List.find?_append, List.find?_cons_of_neg]
  simpa using other

/-- The second group has one type more than the first, somewhere, and differs in nothing else. -/
private def Inserts (type : TypeDefinition) (first second : Definitions) : Prop :=
  ∃ front back, first.types = front ++ back ∧
    second = { first with types := front ++ type :: back }

private theorem inserts_addExtension {type : TypeDefinition} {first second : Definitions}
    (inserts : Inserts type first second) {extension : TypeExtension}
    (other : extension.name ≠ type.name) :
    Inserts type (first.addExtension extension) (second.addExtension extension) := by
  obtain ⟨front, back, types, rfl⟩ := inserts
  have sameFound : findType? (front ++ type :: back) extension.name =
      findType? first.types extension.name := by
    rw [types]
    exact findType?_insert (Ne.symm other) front back
  unfold Definitions.addExtension
  dsimp only
  rw [sameFound]
  cases found : findType? first.types extension.name with
  | none =>
      refine ⟨front, back ++ [definitionOfExtension extension], ?_, ?_⟩
      · simp [types]
      · simp
  | some definition =>
      dsimp only
      cases joined : extendType? definition extension with
      | none => exact ⟨front, back, types, rfl⟩
      | some extended =>
          obtain ⟨body, -, rfl⟩ := Option.map_eq_some_iff.mp joined
          have named : definition.name = extension.name := (mem_of_findType? found).2
          obtain ⟨newFront, newBack, without, inserted⟩ :=
            setType_insert (show ({ definition with
              directives := definition.directives ++ extension.directives,
              body } : TypeDefinition).name ≠ type.name from named.trans_ne other) front back
          refine ⟨newFront, newBack, ?_, ?_⟩
          · exact (congrArg (setType _) types).trans without
          · dsimp only
            rw [inserted]

private theorem inserts_foldl_addExtension {type : TypeDefinition} {first second : Definitions}
    (inserts : Inserts type first second) {extensions : List TypeExtension}
    (others : ∀ extension ∈ extensions, extension.name ≠ type.name) :
    Inserts type (extensions.foldl Definitions.addExtension first)
      (extensions.foldl Definitions.addExtension second) := by
  induction extensions generalizing first second with
  | nil => exact inserts
  | cons head tail induction =>
      rw [List.forall_mem_cons] at others
      exact induction (inserts_addExtension inserts others.1) others.2

theorem fold_append_type {document : Document} (sound : (fold document).problems = [])
    {type : TypeDefinition} (fresh : type.name ∉ (fold document).types.map (·.name)) :
    ∃ front back, (fold document).types = front ++ back ∧
      fold (append document (.type type)) =
        { fold document with types := front ++ type :: back } := by
  obtain ⟨-, extensions, kept⟩ :=
    foldl_addExtension_of_sound (distinctNames_grouped document.definitions) sound
  have otherExtensions : ∀ extension ∈ typeExtensions document, extension.name ≠ type.name := by
    intro extension member named
    obtain ⟨extended, extendedMember, sameName, -⟩ := extensions extension member
    exact fresh (named ▸ sameName ▸ List.mem_map_of_mem extendedMember)
  have ungrouped : findType? (document.definitions.foldl Definitions.addDefinition
      Definitions.empty).types type.name = none := by
    rw [findType?_eq_none_iff]
    intro member
    obtain ⟨declared, declaredMember, named⟩ := List.mem_map.mp member
    obtain ⟨found, foundMember, foundNamed, -⟩ := kept _ _ ⟨declared, declaredMember, named, rfl⟩
    exact fresh (foundNamed ▸ List.mem_map_of_mem foundMember)
  rw [fold_append document (.type type) rfl, Definitions.addDefinition, ungrouped]
  apply inserts_foldl_addExtension _ otherExtensions
  exact ⟨_, [], (List.append_nil _).symm, rfl⟩

/-- One type more makes no difference for the root types, unless it has a conventional name. -/
theorem Definitions.rootTypes_insert {definitions : Definitions} {front back : List TypeDefinition}
    (types : definitions.types = front ++ back) {type : TypeDefinition}
    (unconventional : ∀ operation, RootTypes.conventionalName operation ≠ type.name) :
    ({ definitions with types := front ++ type :: back } : Definitions).rootTypes =
      definitions.rootTypes := by
  refine RootTypes.ext_get fun operation => ?_
  have sameFound : findType? (front ++ type :: back) (RootTypes.conventionalName operation) =
      findType? definitions.types (RootTypes.conventionalName operation) := by
    rw [types]
    exact findType?_insert (Ne.symm (unconventional operation)) front back
  simp only [Definitions.rootTypes_get, sameFound]

end FederationSplit.Schema
