import FederationSplit.Proofs.Schema.TypeNames
import FederationSplit.Proofs.Schema.Usages
import FederationSplit.TypeSystem.Basic

namespace FederationSplit.TypeSystem

open FederationSplit.Syntax
open FederationSplit.Schema
open FederationSplit.Rules

theorem find?_filter_names {α : Type} (nameOf : α → Name) {names : List Name} {name : Name}
    (other : name ∉ names) (items : List α) :
    (items.filter fun item => !names.contains (nameOf item)).find? (nameOf · == name) =
      items.find? (nameOf · == name) := by
  rw [List.find?_filter]
  congr 1
  funext item
  rw [Bool.decide_and, Bool.decide_eq_true, Bool.decide_eq_true, Bool.and_eq_right_iff_imp,
    beq_iff_eq]
  rintro rfl
  simpa using other

theorem countP_lt_countP {α : Type} {before after : α → Bool} {items : List α}
    (still : ∀ item, after item = true → before item = true) {item : α} (among : item ∈ items)
    (counted : before item = true) (gone : after item = false) :
    items.countP after < items.countP before := by
  obtain ⟨front, back, rfl⟩ := List.append_of_mem among
  have frontLess : front.countP after ≤ front.countP before :=
    List.countP_mono_left fun other _ => still other
  have backLess : back.countP after ≤ back.countP before :=
    List.countP_mono_left fun other _ => still other
  rw [List.countP_append, List.countP_append, List.countP_cons_of_pos counted,
    List.countP_cons_of_neg (Bool.eq_false_iff.mp gone)]
  omega

/-- Names of the types and of the directives that are set aside. -/
structure Aside where
  types : List Name
  directives : List Name
  unbuilt : ∀ name ∈ types, findType? builtinTypes name = none

namespace Aside

def others (aside : Aside) (types : List TypeDefinition) : List TypeDefinition :=
  types.filter (!aside.types.contains ·.name)

def otherDirectives (aside : Aside) (directives : List DirectiveDefinition) :
    List DirectiveDefinition :=
  directives.filter (!aside.directives.contains ·.name)

variable {aside : Aside}

theorem others_append (aside : Aside) (types others : List TypeDefinition) :
    aside.others (types ++ others) = aside.others types ++ aside.others others :=
  List.filter_append ..

theorem otherDirectives_append (aside : Aside) (directives others : List DirectiveDefinition) :
    aside.otherDirectives (directives ++ others) =
      aside.otherDirectives directives ++ aside.otherDirectives others :=
  List.filter_append ..

theorem mem_others {types : List TypeDefinition} {type : TypeDefinition} :
    type ∈ aside.others types ↔ type ∈ types ∧ type.name ∉ aside.types := by
  simp [others]

theorem mem_otherDirectives {directives : List DirectiveDefinition}
    {directive : DirectiveDefinition} :
    directive ∈ aside.otherDirectives directives ↔
      directive ∈ directives ∧ directive.name ∉ aside.directives := by
  simp [otherDirectives]

theorem findType?_others (aside : Aside) {name : Name} (other : name ∉ aside.types)
    (types : List TypeDefinition) : findType? (aside.others types) name = findType? types name :=
  find?_filter_names TypeDefinition.name other types

end Aside

namespace Declarations

/-- Two sets of declarations differ in what is set aside, and in nothing else. -/
structure AgreeApart (aside : Aside) (first second : Declarations) : Prop where
  types : aside.others first.types = aside.others second.types
  directives : aside.otherDirectives first.directives = aside.otherDirectives second.directives
  rootTypes : first.rootTypes = second.rootTypes

def usages (declarations : Declarations) : List DirectiveUsage :=
  declarations.types.flatMap TypeDefinition.usages ++
    declarations.directives.flatMap DirectiveDefinition.usages

def references (declarations : Declarations) : List Name :=
  declarations.types.flatMap referencedNames ++
    declarations.directives.flatMap fun directive =>
      directive.arguments.map (·.type.baseName)

/-- Nothing but what is set aside itself refers to a type that is set aside. -/
structure Unneeded (aside : Aside) (declarations : Declarations) : Prop where
  types : ∀ type ∈ declarations.types, type.name ∉ aside.types →
    ∀ name ∈ referencedNames type, name ∉ aside.types
  directives : ∀ directive ∈ declarations.directives, directive.name ∉ aside.directives →
    ∀ argument ∈ directive.arguments, argument.type.baseName ∉ aside.types
  roots : ∀ operation name, declarations.rootTypes.get operation = some name →
    name ∉ aside.types

section

variable {aside : Aside} {first second : Declarations} (agree : AgreeApart aside first second)

include agree

theorem AgreeApart.mem_types {type : TypeDefinition} (member : type ∈ first.types)
    (other : type.name ∉ aside.types) : type ∈ second.types := by
  have kept := Aside.mem_others.mpr ⟨member, other⟩
  rw [agree.types] at kept
  exact (Aside.mem_others.mp kept).1

theorem AgreeApart.mem_directives {directive : DirectiveDefinition}
    (member : directive ∈ first.directives) (other : directive.name ∉ aside.directives) :
    directive ∈ second.directives := by
  have kept := Aside.mem_otherDirectives.mpr ⟨member, other⟩
  rw [agree.directives] at kept
  exact (Aside.mem_otherDirectives.mp kept).1

theorem AgreeApart.symm : AgreeApart aside second first where
  types := agree.types.symm
  directives := agree.directives.symm
  rootTypes := agree.rootTypes.symm

theorem AgreeApart.type?_eq {name : Name} (other : name ∉ aside.types) :
    first.type? name = second.type? name := by
  have declared := aside.findType?_others other first.types
  rw [agree.types, aside.findType?_others other] at declared
  rw [type?, type?, declared]

theorem AgreeApart.kind?_eq {name : Name} (other : name ∉ aside.types) :
    first.kind? name = second.kind? name := by
  rw [kind?, kind?, agree.type?_eq other]

theorem AgreeApart.isInputType_eq {type : TypeRef} (other : type.baseName ∉ aside.types) :
    first.isInputType type = second.isInputType type := by
  rw [isInputType, isInputType, agree.kind?_eq other]

theorem AgreeApart.isOutputType_eq {type : TypeRef} (other : type.baseName ∉ aside.types) :
    first.isOutputType type = second.isOutputType type := by
  rw [isOutputType, isOutputType, agree.kind?_eq other]

end

theorem Unneeded.of_references {aside : Aside} {declarations : Declarations}
    (unreferenced : ∀ name ∈ declarations.references, name ∉ aside.types)
    (roots : ∀ operation name, declarations.rootTypes.get operation = some name →
      name ∉ aside.types) : Unneeded aside declarations := by
  rw [references, List.forall_mem_append, List.forall_mem_flatMap, List.forall_mem_flatMap]
    at unreferenced
  constructor
  case types => exact fun type member _ => unreferenced.1 type member
  case directives =>
    intro directive member _ argument given
    exact unreferenced.2 directive member _ (List.mem_map_of_mem given)
  case roots => exact roots

private theorem builtin_of_builtin :
    ∀ type ∈ builtinTypes, ∀ name ∈ referencedNames type,
      (findType? builtinTypes name).isSome := by
  decide

variable {aside : Aside} {declarations : Declarations}

private theorem other_of_builtin {type : TypeDefinition} (member : type ∈ builtinTypes) :
    ∀ name ∈ referencedNames type, name ∉ aside.types := by
  intro name referenced isAside
  have found := builtin_of_builtin type member name referenced
  rw [aside.unbuilt name isAside] at found
  cases found

@[simp] theorem name_effective (type : TypeDefinition) : (effective type).name = type.name := by
  unfold effective
  cases found : findType? builtinTypes type.name with
  | none => rfl
  | some builtin => exact (mem_of_findType? found).2

theorem effective_of_aside {type : TypeDefinition} (isAside : type.name ∈ aside.types) :
    effective type = type := by
  rw [effective, aside.unbuilt type.name isAside]
  rfl

section

variable (unneeded : Unneeded aside declarations)

include unneeded

/-- A type as it counts refers to nothing that is set aside, unless it is itself. -/
theorem Unneeded.effective {type : TypeDefinition} (member : type ∈ declarations.types)
    (other : type.name ∉ aside.types) :
    ∀ name ∈ referencedNames (effective type), name ∉ aside.types := by
  unfold Declarations.effective
  cases found : findType? builtinTypes type.name with
  | none => exact unneeded.types type member other
  | some builtin => exact other_of_builtin (mem_of_findType? found).1

theorem Unneeded.of_type? {name : Name} (other : name ∉ aside.types) {type : TypeDefinition}
    (found : declarations.type? name = some type) :
    ∀ reference ∈ referencedNames type, reference ∉ aside.types := by
  rw [type?] at found
  cases builtin : findType? builtinTypes name with
  | some own =>
      rw [builtin] at found
      cases found
      exact other_of_builtin (mem_of_findType? builtin).1
  | none =>
      rw [builtin] at found
      obtain ⟨member, rfl⟩ := mem_of_findType? found
      exact unneeded.types type member other

end

theorem mem_of_type?_inputObject {name : Name} {type : TypeDefinition}
    (found : declarations.type? name = some type) (input : type.kind = .inputObject) :
    type ∈ declarations.types ∧ type.name = name := by
  have builtinOther : ∀ type ∈ builtinTypes, type.kind ≠ .inputObject := by decide
  rw [type?] at found
  cases builtin : findType? builtinTypes name with
  | some own =>
      rw [builtin] at found
      cases found
      exact absurd input (builtinOther _ (mem_of_findType? builtin).1)
  | none =>
      rw [builtin] at found
      exact mem_of_findType? found

end Declarations

end FederationSplit.TypeSystem
