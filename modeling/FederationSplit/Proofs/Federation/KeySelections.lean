import FederationSplit.Federation.KeyFields
import FederationSplit.Proofs.TypeSystem.Resolving

namespace FederationSplit.Federation

open FederationSplit.Syntax
open FederationSplit.Rules
open FederationSplit.TypeSystem

def fieldOf? (parent : TypeDefinition) (name : Name) : Option FieldDefinition :=
  parent.body.fields.find? (·.name == name)

def HasPlainField (declarations : Declarations) (parent : TypeDefinition) (name : Name)
    (type : TypeDefinition) : Prop :=
  ∃ field, fieldOf? parent name = some field ∧ field.arguments = [] ∧
    declarations.type? field.type.baseName = some type

def IsLeaf (type : TypeDefinition) : Prop :=
  type.kind = .scalar ∨ type.kind = .enum

def IsComposite (type : TypeDefinition) : Prop :=
  type.kind = .object ∨ type.kind = .interface

/-- A selection on a type that may be part of a key. -/
inductive IsKeySelection (declarations : Declarations) : TypeDefinition → Selection → Prop
  | leaf {parent type : TypeDefinition} {responseName : Option Name} {name : Name}
      {directives : List DirectiveUsage} (has : HasPlainField declarations parent name type)
      (isLeaf : IsLeaf type) :
      IsKeySelection declarations parent (.field responseName name [] directives [])
  | composite {parent type : TypeDefinition} {responseName : Option Name} {name : Name}
      {directives : List DirectiveUsage} {selections : List Selection}
      (has : HasPlainField declarations parent name type) (isComposite : IsComposite type)
      (selects : selections ≠ [])
      (below : ∀ selection ∈ selections, IsKeySelection declarations type selection) :
      IsKeySelection declarations parent (.field responseName name [] directives selections)

/-- Selections on a type that may be a key of it. -/
def IsKey (declarations : Declarations) (parent : TypeDefinition) (selections : List Selection) :
    Prop :=
  ∀ selection ∈ selections, IsKeySelection declarations parent selection

/-! ### Offences -/

/-- What is wrong with a selection on a type in itself, whatever stands below it. -/
inductive Offends (declarations : Declarations) (parent : TypeDefinition) :
    Selection → SelectionProblem → Prop
  | fragmentSpread {name : Name} {directives : List DirectiveUsage} :
      Offends declarations parent (.fragmentSpread name directives) .fragment
  | inlineFragment {condition : Option Name} {directives : List DirectiveUsage}
      {selections : List Selection} :
      Offends declarations parent (.inlineFragment condition directives selections) .fragment
  | unknownField {responseName : Option Name} {name : Name} {arguments : List Argument}
      {directives : List DirectiveUsage} {selections : List Selection}
      (missing : fieldOf? parent name = none) :
      Offends declarations parent (.field responseName name arguments directives selections)
        (.unknownField name parent.name)
  | withArguments {responseName : Option Name} {name : Name} {arguments : List Argument}
      {directives : List DirectiveUsage} {selections : List Selection} {field : FieldDefinition}
      (found : fieldOf? parent name = some field)
      (given : field.arguments ≠ [] ∨ arguments ≠ []) :
      Offends declarations parent (.field responseName name arguments directives selections)
        (.withArguments parent.name name)
  | leafWithSelection {responseName : Option Name} {name : Name}
      {directives : List DirectiveUsage} {selections : List Selection} {type : TypeDefinition}
      (has : HasPlainField declarations parent name type) (isLeaf : IsLeaf type)
      (selects : selections ≠ []) :
      Offends declarations parent (.field responseName name [] directives selections)
        (.leafWithSelection name type.name)
  | unionField {responseName : Option Name} {name : Name} {directives : List DirectiveUsage}
      {selections : List Selection} {type : TypeDefinition}
      (has : HasPlainField declarations parent name type) (isUnion : type.kind = .union) :
      Offends declarations parent (.field responseName name [] directives selections)
        (.unionField parent.name name)
  | selectionMissing {responseName : Option Name} {name : Name}
      {directives : List DirectiveUsage} {type : TypeDefinition}
      (has : HasPlainField declarations parent name type) (isComposite : IsComposite type) :
      Offends declarations parent (.field responseName name [] directives [])
        (.selectionMissing name type.name)

/-- A selection leads to selections on another type: it is a field that may have some, and has. -/
inductive Enters (declarations : Declarations) (parent : TypeDefinition) :
    Selection → TypeDefinition → List Selection → Prop
  | field {responseName : Option Name} {name : Name} {directives : List DirectiveUsage}
      {selections : List Selection} {type : TypeDefinition}
      (has : HasPlainField declarations parent name type) (isComposite : IsComposite type)
      (selects : selections ≠ []) :
      Enters declarations parent (.field responseName name [] directives selections) type selections

/--
The selection at a position below a selection, with the type it is made on. A position tells the
index at each level, the outermost first; nothing is below a selection that offends.
-/
inductive Reaches (declarations : Declarations) :
    TypeDefinition → Selection → List Nat → TypeDefinition → Selection → Prop
  | here {parent : TypeDefinition} {selection : Selection} :
      Reaches declarations parent selection [] parent selection
  | inside {parent type owner : TypeDefinition} {selection next found : Selection}
      {inner : List Selection} {index : Nat} {position : List Nat}
      (enters : Enters declarations parent selection type inner)
      (isNext : inner[index]? = some next)
      (reaches : Reaches declarations type next position owner found) :
      Reaches declarations parent selection (index :: position) owner found

def WrongAt (declarations : Declarations) (parent : TypeDefinition) (selection : Selection)
    (position : List Nat) (problem : SelectionProblem) : Prop :=
  ∃ owner found, Reaches declarations parent selection position owner found ∧
    Offends declarations owner found problem

/-- Something is wrong at a position among some selections. -/
def WrongAmong (declarations : Declarations) (parent : TypeDefinition) (selections : List Selection)
    (position : List Nat) (problem : SelectionProblem) : Prop :=
  ∃ index rest selection, position = index :: rest ∧ selections[index]? = some selection ∧
    WrongAt declarations parent selection rest problem

/-- Problems are those at some positions, one for each, in the order of the positions. -/
def Lists (wrong : List Nat → SelectionProblem → Prop) (problems : List SelectionProblem) : Prop :=
  ∃ offences : List (List Nat × SelectionProblem),
    offences.map (·.2) = problems ∧ (offences.map (·.1)).Pairwise (· < ·) ∧
      ∀ position problem, (position, problem) ∈ offences ↔ wrong position problem

theorem Lists.congr {wrong other : List Nat → SelectionProblem → Prop}
    {problems : List SelectionProblem} (lists : Lists wrong problems)
    (same : ∀ position problem, wrong position problem ↔ other position problem) :
    Lists other problems := by
  obtain ⟨offences, listed, sorted, each⟩ := lists
  exact ⟨offences, listed, sorted, fun position problem => (each _ _).trans (same _ _)⟩

theorem Lists.none {wrong : List Nat → SelectionProblem → Prop}
    (right : ∀ position problem, ¬wrong position problem) : Lists wrong [] :=
  ⟨[], rfl, List.Pairwise.nil, fun _ _ =>
    ⟨fun member => absurd member List.not_mem_nil, fun found => absurd found (right _ _)⟩⟩

theorem Lists.single {wrong : List Nat → SelectionProblem → Prop} {problem : SelectionProblem}
    (only : ∀ position other, wrong position other ↔ position = [] ∧ other = problem) :
    Lists wrong [problem] := by
  refine ⟨[([], problem)], rfl, List.pairwise_singleton _ _, fun position other => ?_⟩
  rw [List.mem_singleton, Prod.mk.injEq, only]

theorem Lists.flatMap {α : Type} {wrong : α → List Nat → SelectionProblem → Prop}
    {problems : α → List SelectionProblem} {items : List α}
    (each : ∀ item ∈ items, Lists (wrong item) (problems item)) (offset : Nat) :
    Lists (fun position problem => ∃ index rest item, position = (offset + index) :: rest ∧
      items[index]? = some item ∧ wrong item rest problem) (items.flatMap problems) := by
  induction items generalizing offset with
  | nil =>
      apply Lists.none
      rintro position problem ⟨index, rest, item, -, found, -⟩
      cases found
  | cons head tail induction =>
      rw [List.forall_mem_cons] at each
      obtain ⟨headOffences, headProblems, headSorted, headWrong⟩ := each.1
      obtain ⟨offences, tailProblems, sorted, tailWrong⟩ := induction each.2 (offset + 1)
      refine ⟨headOffences.map (fun offence => (offset :: offence.1, offence.2)) ++ offences,
        ?problems, ?sorted, fun position problem => ?members⟩
      case problems =>
        rw [List.map_append, List.map_map, List.flatMap_cons, ← headProblems, ← tailProblems]
        rfl
      case sorted =>
        rw [List.map_append, List.map_map, List.pairwise_append]
        refine ⟨?_, sorted, ?_⟩
        · have inFront : (headOffences.map (·.1)).map (offset :: ·) |>.Pairwise (· < ·) := by
            rw [List.pairwise_map]
            exact headSorted.imp fun before => List.cons_lt_cons_iff.mpr (.inr ⟨rfl, before⟩)
          rwa [List.map_map] at inFront
        · -- The index in front decides between the first item and a later one.
          intro first firstMember second secondMember
          obtain ⟨offence, -, rfl⟩ := List.mem_map.mp firstMember
          obtain ⟨⟨position, problem⟩, later, rfl⟩ := List.mem_map.mp secondMember
          obtain ⟨index, rest, _, rfl, -, -⟩ := (tailWrong position problem).mp later
          exact List.cons_lt_cons_iff.mpr (.inl (by omega))
      case members =>
        rw [List.mem_append, tailWrong, List.mem_map]
        constructor
        · rintro (⟨⟨rest, found⟩, member, same⟩ | ⟨index, rest, item, rfl, found, isWrong⟩)
          · cases same
            exact ⟨0, rest, head, rfl, rfl, (headWrong _ _).mp member⟩
          · exact ⟨index + 1, rest, item, by rw [Nat.add_right_comm, Nat.add_assoc], found, isWrong⟩
        · rintro ⟨index, rest, item, rfl, found, isWrong⟩
          cases index with
          | zero =>
              cases found
              exact .inl ⟨(rest, problem), (headWrong _ _).mpr isWrong, rfl⟩
          | succ index =>
              exact .inr ⟨index, rest, item, by rw [Nat.add_right_comm, Nat.add_assoc], found,
                isWrong⟩

section

variable {declarations : Declarations} {parent type : TypeDefinition} {selection : Selection}

private theorem HasPlainField.field?_eq {name : Name} {field : FieldDefinition}
    (has : HasPlainField declarations parent name type)
    (found : fieldOf? parent name = some field) :
    field.arguments = [] ∧ declarations.type? field.type.baseName = some type := by
  obtain ⟨own, ownFound, plain⟩ := has
  obtain rfl : own = field := Option.some.inj (ownFound.symm.trans found)
  exact plain

theorem HasPlainField.unique {name : Name} {other : TypeDefinition}
    (has : HasPlainField declarations parent name type)
    (hasOther : HasPlainField declarations parent name other) : type = other := by
  obtain ⟨field, found, -, typed⟩ := has
  exact Option.some.inj (typed.symm.trans (hasOther.field?_eq found).2)

theorem Enters.unique {other : TypeDefinition} {inner otherInner : List Selection}
    (enters : Enters declarations parent selection type inner)
    (entersOther : Enters declarations parent selection other otherInner) :
    type = other ∧ inner = otherInner := by
  cases enters with
  | field has =>
      cases entersOther with
      | field hasOther => exact ⟨has.unique hasOther, rfl⟩

theorem Enters.not_offends {inner : List Selection} {problem : SelectionProblem}
    (enters : Enters declarations parent selection type inner) :
    ¬Offends declarations parent selection problem := by
  intro offends
  cases enters with
  | field has isComposite selects =>
      cases offends with
      | unknownField missing =>
          obtain ⟨field, found, -⟩ := has
          cases missing.symm.trans found
      | withArguments found given =>
          exact given.elim (fun some => some (has.field?_eq found).1) fun some => some rfl
      | leafWithSelection hasOther isLeaf =>
          cases has.unique hasOther
          rcases isComposite with kind | kind <;> rcases isLeaf with other | other <;>
            cases kind.symm.trans other
      | unionField hasOther isUnion =>
          cases has.unique hasOther
          rcases isComposite with kind | kind <;> cases kind.symm.trans isUnion
      | selectionMissing => exact selects rfl

theorem wrongAt_of_enters {inner : List Selection}
    (enters : Enters declarations parent selection type inner) {position : List Nat}
    {problem : SelectionProblem} :
    WrongAt declarations parent selection position problem ↔
      WrongAmong declarations type inner position problem := by
  constructor
  · rintro ⟨owner, found, reaches, offends⟩
    cases reaches with
    | here => exact absurd offends enters.not_offends
    | inside entersAlso isNext reaches =>
        obtain ⟨rfl, rfl⟩ := enters.unique entersAlso
        exact ⟨_, _, _, rfl, isNext, owner, found, reaches, offends⟩
  · rintro ⟨index, rest, next, rfl, isNext, owner, found, reaches, offends⟩
    exact ⟨owner, found, .inside enters isNext reaches, offends⟩

/-! ### What is reported -/

private theorem selectionProblems_of_plain {responseName : Option Name} {name : Name}
    {directives : List DirectiveUsage} {selections : List Selection}
    (has : HasPlainField declarations parent name type) :
    selectionProblems declarations parent (.field responseName name [] directives selections) =
      match type.kind with
      | .scalar | .enum => if selections.isEmpty then [] else [.leafWithSelection name type.name]
      | .union => [.unionField parent.name name]
      | .object | .interface | .inputObject =>
          if selections.isEmpty then [.selectionMissing name type.name]
          else selectionSetProblems declarations type selections := by
  obtain ⟨field, found, plain, typed⟩ := has
  rw [fieldOf?] at found
  cases kind : type.kind <;>
    simp only [selectionProblems, found, plain, typed, kind, List.isEmpty_nil, Bool.not_true,
      Bool.or_self, Bool.false_eq_true, if_false]

theorem Offends.reported {problem : SelectionProblem}
    (offends : Offends declarations parent selection problem) :
    selectionProblems declarations parent selection = [problem] := by
  cases offends with
  | fragmentSpread | inlineFragment => rfl
  | unknownField missing =>
      rw [fieldOf?] at missing
      simp only [selectionProblems, missing]
  | @withArguments _ _ arguments _ _ field found given =>
      rw [fieldOf?] at found
      have isGiven : (!field.arguments.isEmpty || !arguments.isEmpty) = true := by
        simpa using given
      simp only [selectionProblems, found, isGiven, if_true]
  | leafWithSelection has isLeaf selects =>
      have some := List.isEmpty_eq_false_iff.mpr selects
      rw [selectionProblems_of_plain has]
      rcases isLeaf with kind | kind <;> simp only [kind, some, Bool.false_eq_true, if_false]
  | unionField has isUnion => simp only [selectionProblems_of_plain has, isUnion]
  | selectionMissing has isComposite =>
      rw [selectionProblems_of_plain has]
      rcases isComposite with kind | kind <;> simp only [kind, List.isEmpty_nil, if_true]

theorem Offends.unique {problem other : SelectionProblem}
    (offends : Offends declarations parent selection problem)
    (offendsOther : Offends declarations parent selection other) : problem = other :=
  List.head_eq_of_cons_eq (offends.reported.symm.trans offendsOther.reported)

theorem selectionSetProblems_eq_flatMap (declarations : Declarations) (parent : TypeDefinition)
    (selections : List Selection) :
    selectionSetProblems declarations parent selections =
      selections.flatMap (selectionProblems declarations parent) := by
  induction selections with
  | nil => rfl
  | cons head tail induction => rw [selectionSetProblems, induction, List.flatMap_cons]

theorem Enters.reported {inner : List Selection}
    (enters : Enters declarations parent selection type inner) :
    selectionProblems declarations parent selection =
      inner.flatMap (selectionProblems declarations type) := by
  cases enters with
  | field has isComposite selects =>
      have some := List.isEmpty_eq_false_iff.mpr selects
      rw [selectionProblems_of_plain has]
      rcases isComposite with kind | kind <;>
        simp only [kind, some, Bool.false_eq_true, if_false, selectionSetProblems_eq_flatMap]

def IsLeafSelection (declarations : Declarations) (parent : TypeDefinition)
    (selection : Selection) : Prop :=
  ∃ responseName name directives type, selection = .field responseName name [] directives [] ∧
    HasPlainField declarations parent name type ∧ IsLeaf type

theorem IsLeafSelection.reported (isLeaf : IsLeafSelection declarations parent selection) :
    selectionProblems declarations parent selection = [] := by
  obtain ⟨responseName, name, directives, type, rfl, has, kind⟩ := isLeaf
  rw [selectionProblems_of_plain has]
  rcases kind with kind | kind <;> simp only [kind, List.isEmpty_nil, if_true]

/-- A type whose fields give out types of the schema. -/
def GivesOut (declarations : Declarations) (type : TypeDefinition) : Prop :=
  ∀ field ∈ type.body.fields, declarations.isOutputType field.type = true

private theorem kind_of_output {type : TypeRef} {named : TypeDefinition}
    (output : declarations.isOutputType type = true)
    (found : declarations.type? type.baseName = some named) :
    IsLeaf named ∨ named.kind = .union ∨ IsComposite named := by
  rw [Declarations.isOutputType, Declarations.kind?, found, Option.map_some] at output
  rw [IsLeaf, IsComposite]
  cases kind : named.kind with
  | scalar | enum | union | object | interface => decide
  | inputObject =>
      rw [kind] at output
      cases output

private theorem declared_of_output {type : TypeRef}
    (output : declarations.isOutputType type = true) :
    ∃ named, declarations.type? type.baseName = some named := by
  rw [Declarations.isOutputType, Declarations.kind?] at output
  cases found : declarations.type? type.baseName with
  | none =>
      rw [found] at output
      cases output
  | some named => exact ⟨named, rfl⟩

theorem selection_settled (givesOut : GivesOut declarations parent) (selection : Selection) :
    (∃ problem, Offends declarations parent selection problem) ∨
      (∃ type inner, Enters declarations parent selection type inner) ∨
        IsLeafSelection declarations parent selection := by
  cases selection with
  | fragmentSpread => exact .inl ⟨_, .fragmentSpread⟩
  | inlineFragment => exact .inl ⟨_, .inlineFragment⟩
  | field responseName name arguments directives selections =>
      cases found : fieldOf? parent name with
      | none => exact .inl ⟨_, .unknownField found⟩
      | some field =>
          by_cases given : field.arguments ≠ [] ∨ arguments ≠ []
          · exact .inl ⟨_, .withArguments found given⟩
          · simp only [not_or, ne_eq, not_not] at given
            obtain ⟨plain, rfl⟩ := given
            have output := givesOut field (List.mem_of_find?_eq_some found)
            obtain ⟨type, typed⟩ := declared_of_output output
            have has : HasPlainField declarations parent name type := ⟨field, found, plain, typed⟩
            by_cases selects : selections = []
            · subst selects
              rcases kind_of_output output typed with isLeaf | isUnion | isComposite
              · exact .inr (.inr ⟨_, _, _, _, rfl, has, isLeaf⟩)
              · exact .inl ⟨_, .unionField has isUnion⟩
              · exact .inl ⟨_, .selectionMissing has isComposite⟩
            · rcases kind_of_output output typed with isLeaf | isUnion | isComposite
              · exact .inl ⟨_, .leafWithSelection has isLeaf selects⟩
              · exact .inl ⟨_, .unionField has isUnion⟩
              · exact .inr (.inl ⟨_, _, .field has isComposite selects⟩)

end

section

variable {declarations : Declarations}

private theorem Enters.givesOut {parent type : TypeDefinition} {selection : Selection}
    {inner : List Selection}
    (closed : ∀ name type, declarations.type? name = some type → GivesOut declarations type)
    (enters : Enters declarations parent selection type inner) : GivesOut declarations type := by
  cases enters with
  | field has =>
      obtain ⟨field, -, -, typed⟩ := has
      exact closed _ _ typed

private theorem sizeOf_of_enters {parent type : TypeDefinition} {selection next : Selection}
    {inner : List Selection} (enters : Enters declarations parent selection type inner)
    (member : next ∈ inner) : sizeOf next < sizeOf selection := by
  cases enters with
  | field =>
      have smaller := List.sizeOf_lt_of_mem member
      rw [Selection.field.sizeOf_spec]
      omega

variable (declarations) in
/-- What holds of a selection if it holds of those it leads to holds of all selections. -/
theorem selection_induction {motive : TypeDefinition → Selection → Prop}
    (step : ∀ parent selection,
      (∀ type inner, Enters declarations parent selection type inner →
        ∀ next ∈ inner, motive type next) → motive parent selection)
    (parent : TypeDefinition) (selection : Selection) : motive parent selection :=
  step parent selection fun type _ enters next member =>
    have := sizeOf_of_enters enters member
    selection_induction step type next
termination_by sizeOf selection

variable (closed : ∀ name type, declarations.type? name = some type → GivesOut declarations type)

include closed

theorem selectionProblems_eq_nil_iff {parent : TypeDefinition}
    (givesOut : GivesOut declarations parent) (selection : Selection) :
    selectionProblems declarations parent selection = [] ↔
      IsKeySelection declarations parent selection := by
  revert givesOut
  refine selection_induction declarations (motive := fun parent selection =>
    GivesOut declarations parent → (selectionProblems declarations parent selection = [] ↔
      IsKeySelection declarations parent selection)) ?_ parent selection
  intro parent selection induction givesOut
  constructor
  · intro right
    rcases selection_settled givesOut selection with ⟨problem, offends⟩ | ⟨type, inner, enters⟩ |
      ⟨responseName, name, directives, type, rfl, has, isLeaf⟩
    · rw [offends.reported] at right
      cases right
    · rw [enters.reported, List.flatMap_eq_nil_iff] at right
      have typeGivesOut := enters.givesOut closed
      have below := induction type inner enters
      cases enters with
      | field has isComposite selects =>
          exact .composite has isComposite selects fun next member =>
            (below next member typeGivesOut).mp (right next member)
    · exact .leaf has isLeaf
  · intro isKey
    cases isKey with
    | leaf has isLeaf => exact IsLeafSelection.reported ⟨_, _, _, _, rfl, has, isLeaf⟩
    | @composite _ _ responseName name directives selections has isComposite selects below =>
        have enters : Enters declarations parent
            (.field responseName name [] directives selections) _ selections :=
          .field has isComposite selects
        rw [enters.reported, List.flatMap_eq_nil_iff]
        intro next member
        exact (induction _ _ enters next member (enters.givesOut closed)).mpr (below next member)

theorem selectionSetProblems_eq_nil_iff {parent : TypeDefinition}
    (givesOut : GivesOut declarations parent) (selections : List Selection) :
    selectionSetProblems declarations parent selections = [] ↔
      IsKey declarations parent selections := by
  rw [selectionSetProblems_eq_flatMap, List.flatMap_eq_nil_iff]
  exact forall₂_congr fun selection _ => selectionProblems_eq_nil_iff closed givesOut selection

/-- What is reported of a selection is what is wrong at it and below it, in order. -/
theorem lists_selectionProblems {parent : TypeDefinition}
    (givesOut : GivesOut declarations parent) (selection : Selection) :
    Lists (WrongAt declarations parent selection)
      (selectionProblems declarations parent selection) := by
  revert givesOut
  refine selection_induction declarations (motive := fun parent selection =>
    GivesOut declarations parent → Lists (WrongAt declarations parent selection)
      (selectionProblems declarations parent selection)) ?_ parent selection
  intro parent selection induction givesOut
  rcases selection_settled givesOut selection with ⟨problem, offends⟩ | ⟨type, inner, enters⟩ | leaf
  · rw [offends.reported]
    refine Lists.single fun position other => ⟨?_, ?_⟩
    · rintro ⟨owner, found, reaches, offendsOther⟩
      cases reaches with
      | here => exact ⟨rfl, (offends.unique offendsOther).symm⟩
      | inside enters => exact absurd offends enters.not_offends
    · rintro ⟨rfl, rfl⟩
      exact ⟨parent, selection, .here, offends⟩
  · rw [enters.reported]
    refine (Lists.flatMap (fun next member =>
      induction type inner enters next member (enters.givesOut closed)) 0).congr
        fun position problem => ?_
    rw [wrongAt_of_enters enters]
    simp only [Nat.zero_add, WrongAmong]
  · rw [leaf.reported]
    refine Lists.none fun position problem => ?_
    rintro ⟨owner, found, reaches, offends⟩
    cases reaches with
    | here =>
        have same := leaf.reported.symm.trans offends.reported
        cases same
    | inside enters =>
        obtain ⟨_, _, _, _, rfl, -, -⟩ := leaf
        cases enters with
        | field _ _ selects => exact selects rfl

end

private theorem nothing_below {declarations : Declarations} {parent owner other : TypeDefinition}
    {selection found deeper : Selection} {position below : List Nat} {problem : SelectionProblem}
    (reaches : Reaches declarations parent selection position owner found)
    (offends : Offends declarations owner found problem)
    (reachesDeeper : Reaches declarations parent selection (position ++ below) other deeper) :
    below = [] := by
  induction reaches with
  | here =>
      cases reachesDeeper with
      | here => rfl
      | inside enters => exact absurd offends enters.not_offends
  | inside enters isNext _ induction =>
      cases reachesDeeper with
      | inside entersAlso isNextAlso reachesDeeper =>
          obtain ⟨rfl, rfl⟩ := enters.unique entersAlso
          obtain rfl := Option.some.inj (isNext.symm.trans isNextAlso)
          exact induction offends reachesDeeper

theorem WrongAmong.nothing_below {declarations : Declarations} {parent : TypeDefinition}
    {selections : List Selection} {position below : List Nat} {problem other : SelectionProblem}
    (wrong : WrongAmong declarations parent selections position problem)
    (wrongDeeper : WrongAmong declarations parent selections (position ++ below) other) :
    below = [] := by
  obtain ⟨index, rest, selection, rfl, isHere, owner, found, reaches, offends⟩ := wrong
  obtain ⟨_, _, _, same, isHereAlso, _, _, reachesDeeper, -⟩ := wrongDeeper
  cases same
  obtain rfl := Option.some.inj (isHere.symm.trans isHereAlso)
  exact Federation.nothing_below reaches offends reachesDeeper

/--
A text is accepted as a key of a type of a schema exactly if it reads as selections that may be one.
Of other selections, those that are wrong in themselves are reported, each once and in order, and
none of them is below another.
-/
theorem keyProblems_eq_offences {declarations : Declarations} {schema : ResolvedSchema}
    (resolved : resolve declarations = .ok schema) {name : Name} {parent : TypeDefinition}
    (present : declarations.hasType name = true) (found : declarations.type? name = some parent)
    (text : String) :
    ∃ problems, keyProblems declarations name text = .ok problems ∧
      (problems = [] ↔
        ∃ selections, parseFieldSet text = .ok selections ∧
          IsKey declarations parent selections) ∧
      (∀ error, parseFieldSet text = .error error → problems = [.malformed error]) ∧
      ∀ selections, parseFieldSet text = .ok selections →
        (∃ offences, problems = offences.map .selection ∧
          Lists (WrongAmong declarations parent selections) offences) ∧
        ∀ position below problem other,
          WrongAmong declarations parent selections position problem →
            WrongAmong declarations parent selections (position ++ below) other → below = [] := by
  have closed : ∀ name type, declarations.type? name = some type → GivesOut declarations type :=
    fun _ _ => isOutputType_of_resolve resolved
  have givesOut := closed _ _ found
  unfold keyProblems
  cases parsed : parseFieldSet text with
  | error error =>
      refine ⟨_, rfl, ⟨nofun, ?_⟩, ?_, nofun⟩
      · rintro ⟨selections, done, -⟩
        cases done
      · rintro _ ⟨⟩
        rfl
  | ok selections =>
      simp only [found, Option.filter_some, present, if_true]
      refine ⟨_, rfl, ?accepted, nofun, ?offences⟩
      case accepted =>
        simp only [List.map_eq_nil_iff, selectionSetProblems_eq_nil_iff closed givesOut,
          Except.ok.injEq, exists_eq_left']
      case offences =>
        rintro _ ⟨⟩
        refine ⟨⟨_, rfl, ?_⟩, fun _ _ _ _ wrong => wrong.nothing_below⟩
        rw [selectionSetProblems_eq_flatMap]
        refine (Lists.flatMap (fun selection _ =>
          lists_selectionProblems closed givesOut selection) 0).congr fun position problem => ?_
        simp only [Nat.zero_add, WrongAmong]

def cupsDeclarations : Declarations where
  types :=
    [plainObject "Query" [plainField "cup" (.named "Cup")],
      plainObject "Cup"
        [plainField "id" (.named "ID"),
          { plainField "size" (.named "Int") with arguments := [parameter "unit" (.named "ID")] },
          plainField "maker" (.named "Maker"), plainField "shape" (.named "Shape")],
      plainObject "Maker"
        [plainField "name" (.named "String"), plainField "cups" (.list (.named "Cup"))],
      { description := none, name := "Shape", directives := [], body := .union ["Cup"] }]
  directives := []
  rootTypes := { query := some "Query", mutation := none, subscription := none }

def cupsKey : String := "id maker \x7b name cups \x7b size \x7d \x7d shape"

def cupsSelections : List Selection :=
  let select (name : Name) (selections : List Selection) : Selection :=
    .field none name [] [] selections
  [select "id" [], select "maker" [select "name" [], select "cups" [select "size" []]],
    select "shape" []]

private theorem parse_cupsKey : parseFieldSet cupsKey = .ok cupsSelections := by
  decide +kernel

/-- The size inside the maker's cups and the shape are wrong, and are reported in this order. -/
theorem keyProblems_cupsKey :
    ∃ schema parent, resolve cupsDeclarations = .ok schema ∧
      cupsDeclarations.hasType "Cup" = true ∧ cupsDeclarations.type? "Cup" = some parent ∧
      parseFieldSet cupsKey = .ok cupsSelections ∧
      keyProblems cupsDeclarations "Cup" cupsKey =
        .ok [.selection (.withArguments "Cup" "size"), .selection (.unionField "Cup" "shape")] ∧
      ¬IsKey cupsDeclarations parent cupsSelections ∧
      Lists (WrongAmong cupsDeclarations parent cupsSelections)
        [.withArguments "Cup" "size", .unionField "Cup" "shape"] := by
  obtain ⟨schema, resolved⟩ : ∃ schema, resolve cupsDeclarations = .ok schema := ⟨_, rfl⟩
  obtain ⟨parent, found⟩ : ∃ parent, cupsDeclarations.type? "Cup" = some parent := ⟨_, rfl⟩
  have computed : keyProblems cupsDeclarations "Cup" cupsKey =
      .ok [.selection (.withArguments "Cup" "size"), .selection (.unionField "Cup" "shape")] := by
    rw [keyProblems, parse_cupsKey]
    rfl
  obtain ⟨problems, reported, accepted, -, listed⟩ :=
    keyProblems_eq_offences resolved rfl found cupsKey
  obtain rfl := Except.ok.inj (computed.symm.trans reported)
  obtain ⟨⟨offences, same, lists⟩, -⟩ := listed cupsSelections parse_cupsKey
  have injective : Function.Injective (List.map KeyProblem.selection) :=
    Function.Injective.list_map fun _ _ => KeyProblem.selection.inj
  obtain rfl := @injective [_, _] _ same
  refine ⟨schema, parent, resolved, rfl, found, parse_cupsKey, computed, fun isKey => ?_, lists⟩
  cases accepted.mpr ⟨_, parse_cupsKey, isKey⟩

end FederationSplit.Federation
