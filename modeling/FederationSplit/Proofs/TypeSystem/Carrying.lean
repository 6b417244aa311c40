import FederationSplit.Proofs.TypeSystem.Agreement
import FederationSplit.TypeSystem.Resolution

namespace FederationSplit.TypeSystem

open FederationSplit.Syntax
open FederationSplit.Schema
open FederationSplit.Rules

/--
What the first of two steps gives on a good table, the second one gives as well. The result is sound
and the table is good still.
-/
def Carries {α : Type} (good : FieldTable → Prop) (sound : α → Prop)
    (first second : Resolution α) : Prop :=
  ∀ table, good table → ∀ value after, first table = .ok (value, after) →
    second table = .ok (value, after) ∧ good after ∧ sound value

def Quiet {α : Type} (step : Resolution α) : Prop :=
  ∀ table value after, step table = .ok (value, after) → after = table

theorem Quiet.pure {α : Type} (value : α) : Quiet (pure value) := by
  intro table result after ran
  cases ran
  rfl

theorem Quiet.fail {α : Type} (cause : FaultCause) : Quiet (failWith (α := α) cause) := by
  intro table result after ran
  cases ran

theorem bind_eq_ok_iff {α β : Type} {step : Resolution α} {next : α → Resolution β}
    {table : FieldTable} {outcome : β × FieldTable} :
    (step >>= next) table = .ok outcome ↔
      ∃ value after, step table = .ok (value, after) ∧ next value after = .ok outcome := by
  change (step table >>= fun middle => next middle.1 middle.2) = _ ↔ _
  cases step table with
  | error fault => exact ⟨nofun, nofun⟩
  | ok middle =>
      constructor
      · exact fun ran => ⟨middle.1, middle.2, rfl, ran⟩
      · rintro ⟨value, after, same, ran⟩
        cases same
        exact ran

section

variable {α β : Type} {good : FieldTable → Prop} {sound : α → Prop} {soundNext : β → Prop}

theorem Carries.pure {value : α} (holds : sound value) :
    Carries good sound (pure value) (pure value) := by
  intro table isGood result after ran
  cases ran
  exact ⟨rfl, isGood, holds⟩

theorem Carries.bind {first second : Resolution α} {next others : α → Resolution β}
    (carries : Carries good sound first second)
    (rest : ∀ value, sound value → Carries good soundNext (next value) (others value)) :
    Carries good soundNext (first >>= next) (second >>= others) := by
  intro table isGood result after ran
  obtain ⟨value, middle, ranFirst, ranNext⟩ := bind_eq_ok_iff.mp ran
  obtain ⟨same, middleGood, holds⟩ := carries table isGood value middle ranFirst
  obtain ⟨sameNext, afterGood, holdsNext⟩ :=
    rest value holds middle middleGood result after ranNext
  exact ⟨bind_eq_ok_iff.mpr ⟨value, middle, same, sameNext⟩, afterGood, holdsNext⟩

theorem Carries.fail (cause : FaultCause) (second : Resolution α) :
    Carries good sound (failWith cause) second := by
  intro table _ value after ran
  cases ran

theorem Carries.weaken {weaker : α → Prop} {first second : Resolution α}
    (carries : Carries good sound first second)
    (implies : ∀ value, sound value → weaker value) : Carries good weaker first second := by
  intro table isGood value after ran
  obtain ⟨same, afterGood, holds⟩ := carries table isGood value after ran
  exact ⟨same, afterGood, implies value holds⟩

theorem Carries.check (condition : Bool) (cause : FaultCause) {first second : Resolution α}
    (carries : Carries good sound first second) :
    Carries good sound
      (do
        unless condition do
          failWith cause
        first)
      (do
        unless condition do
          failWith cause
        second) := by
  cases condition with
  | true => exact carries
  | false =>
      intro table _ value after ran
      cases ran

theorem Carries.of_quiet {step : Resolution α} (quiet : Quiet step) :
    Carries good (fun _ => True) step step := by
  intro table isGood value after ran
  refine ⟨ran, ?_, trivial⟩
  rwa [quiet table value after ran]

theorem Carries.mapM {ι : Type} {items : List ι} {first second : ι → Resolution α}
    (carries : ∀ item ∈ items, Carries good sound (first item) (second item)) :
    Carries good (fun values => ∀ value ∈ values, sound value) (items.mapM first)
      (items.mapM second) := by
  induction items with
  | nil =>
      rw [List.mapM_nil, List.mapM_nil]
      exact Carries.pure (List.forall_mem_nil _)
  | cons head tail induction =>
      rw [List.forall_mem_cons] at carries
      rw [List.mapM_cons, List.mapM_cons]
      refine carries.1.bind fun value holds => ?_
      refine (induction carries.2).bind fun values allHold => ?_
      exact Carries.pure (List.forall_mem_cons.mpr ⟨holds, allHold⟩)

theorem Carries.withinFields {first second : Resolution α}
    (carries : Carries good sound first second) (type : Name) :
    Carries good sound (withinFields type first) (withinFields type second) := by
  have ok {step : Resolution α} {table : FieldTable} {outcome : α × FieldTable} :
      TypeSystem.withinFields type step table = .ok outcome ↔ step table = .ok outcome := by
    change (step table).mapError _ = _ ↔ _
    cases step table with
    | error fault => exact ⟨nofun, nofun⟩
    | ok result => exact Iff.rfl
  intro table isGood value after ran
  rw [ok] at ran ⊢
  exact carries table isGood value after ran

end

theorem quiet_resolveDeprecation (usages : List DirectiveUsage) :
    Quiet (resolveDeprecation usages) := by
  unfold resolveDeprecation
  split
  · exact Quiet.pure _
  · split
    · exact Quiet.pure _
    · split
      · exact Quiet.pure _
      · exact Quiet.pure _
      · exact Quiet.fail _

theorem quiet_coercePlain (declarations : Declarations) (name : Name) (value : Value) :
    Quiet (coercePlain declarations name value) := by
  unfold coercePlain
  split
  · exact Quiet.fail _
  · split
    · exact Quiet.pure _
    · split <;> exact Quiet.pure _
    · exact Quiet.pure _
    all_goals exact Quiet.fail _

def Clear (aside : Aside) (slots : List (InputSlot × Coerced)) : Prop :=
  ∀ slot ∈ slots, slot.1.type.baseName ∉ aside.types

/-- How many of some types a table has no fields of. -/
def missing (names : List Name) (table : FieldTable) : Nat :=
  names.countP fun name => (table.lookup name).isNone

/-- A table at which two runs may enter some more types, to their depths. -/
structure Roomy (aside : Aside) (names : List Name) (depth other : Nat) (table : FieldTable) :
    Prop where
  clear : ∀ entry ∈ table, Clear aside entry.2
  first : missing names table < depth
  second : missing names table < other

private theorem lookup_cons_isNone {name type : Name} {slots : List (InputSlot × Coerced)}
    {table : FieldTable} :
    (((type, slots) :: table).lookup name).isNone = true ↔
      name ≠ type ∧ (table.lookup name).isNone = true := by
  by_cases same : name = type
  · simp [same]
  · rw [List.lookup_cons, beq_eq_false_iff_ne.mpr same]
    simp only [ne_eq, same, not_false_eq_true, true_and]

theorem missing_cons_le (names : List Name) (type : Name) (slots : List (InputSlot × Coerced))
    (table : FieldTable) : missing names ((type, slots) :: table) ≤ missing names table := by
  apply List.countP_mono_left
  intro name _ absent
  exact (lookup_cons_isNone.mp absent).2

theorem missing_cons_lt {names : List Name} {type : Name} {table : FieldTable}
    (among : type ∈ names) (absent : table.lookup type = none)
    (slots : List (InputSlot × Coerced)) :
    missing names ((type, slots) :: table) < missing names table := by
  refine countP_lt_countP (fun name stillAbsent => (lookup_cons_isNone.mp stillAbsent).2) among
    ?_ ?_
  · rw [absent]
    rfl
  · rw [List.lookup_cons_self]
    rfl

/-! ### Default values -/

section

variable {aside : Aside} {good : FieldTable → Prop} {first second : Declarations}
  {fieldsFirst fieldsSecond : TypeDefinition → Resolution (List InputField)}

def CoercersCarry (aside : Aside) (good : FieldTable → Prop)
    (coercer other : TypeRef → Resolution Coerced) : Prop :=
  ∀ type, type.baseName ∉ aside.types →
    Carries good (fun _ => True) (coercer type) (other type)

def FieldsCarry (aside : Aside) (good : FieldTable → Prop) (declarations : Declarations)
    (fields others : TypeDefinition → Resolution (List InputField)) : Prop :=
  ∀ name type, name ∉ aside.types → declarations.type? name = some type →
    type.kind = .inputObject →
    Carries good (fun result => ∀ field ∈ result, field.type.baseName ∉ aside.types)
      (fields type) (others type)

private theorem baseName_nullableType (type : TypeRef) :
    (nullableType type).baseName = type.baseName := by
  induction type with
  | nonNull item induction => exact induction
  | named | list => rfl

private theorem coercePlain_eq (agree : Declarations.AgreeApart aside first second) {name : Name}
    (other : name ∉ aside.types) (value : Value) :
    coercePlain first name value = coercePlain second name value := by
  rw [coercePlain, coercePlain, agree.type?_eq other]

private theorem carries_coercePlain (agree : Declarations.AgreeApart aside first second)
    {name : Name} (other : name ∉ aside.types) (value : Value) :
    Carries good (fun _ => True) (coercePlain first name value)
      (coercePlain second name value) := by
  rw [← coercePlain_eq agree other]
  exact Carries.of_quiet (quiet_coercePlain first name value)

private theorem carries_coerceItems {coercers others : List (TypeRef → Resolution Coerced)}
    (carry : List.Forall₂ (CoercersCarry aside good) coercers others) {item : TypeRef}
    (other : item.baseName ∉ aside.types) :
    Carries good (fun _ => True) (coerceItems item coercers) (coerceItems item others) := by
  induction carry with
  | nil => exact Carries.pure trivial
  | cons head _ induction =>
      rw [coerceItems, coerceItems]
      refine (head item other).bind fun state _ => ?_
      cases state with
      | invalid => exact Carries.pure trivial
      | null | present => exact induction

private theorem lookup_reverse {β : Type} {related : β → β → Prop}
    {items others : List (Name × β)}
    (carry : List.Forall₂ (fun item other => item.1 = other.1 ∧ related item.2 other.2)
      items others) (name : Name) :
    (items.reverse.lookup name = none ∧ others.reverse.lookup name = none) ∨
      ∃ found other, items.reverse.lookup name = some found ∧
        others.reverse.lookup name = some other ∧ related found other := by
  have reversed := List.rel_reverse carry
  generalize items.reverse = front at reversed ⊢
  generalize others.reverse = back at reversed ⊢
  induction reversed with
  | nil => exact .inl ⟨rfl, rfl⟩
  | @cons item other _ _ head _ induction =>
      obtain ⟨key, found⟩ := item
      obtain ⟨otherKey, otherFound⟩ := other
      obtain ⟨sameKey, isRelated⟩ := head
      cases sameKey
      rw [List.lookup_cons, List.lookup_cons]
      cases name == key with
      | true => exact .inr ⟨found, otherFound, rfl, rfl, isRelated⟩
      | false => exact induction

private theorem carries_coerceObjectFields
    {coercers others : List (Name × (TypeRef → Resolution Coerced))}
    (carry : List.Forall₂ (fun coercer other => coercer.1 = other.1 ∧
      CoercersCarry aside good coercer.2 other.2) coercers others) {fields : List InputField}
    (clear : ∀ field ∈ fields, field.type.baseName ∉ aside.types) :
    Carries good (fun _ => True) (coerceObjectFields coercers fields)
      (coerceObjectFields others fields) := by
  induction fields with
  | nil => exact Carries.pure trivial
  | cons field rest induction =>
      rw [List.forall_mem_cons] at clear
      have restCarries := induction clear.2
      rw [coerceObjectFields, coerceObjectFields]
      rcases lookup_reverse carry field.name with ⟨none, otherNone⟩ | ⟨coercer, other, found,
        otherFound, here⟩
      · rw [none, otherNone]
        cases field.default with
        | invalid =>
            simp only
            split
            · exact Carries.pure trivial
            · exact restCarries
        | null | present => exact restCarries.bind fun _ _ => Carries.pure trivial
      · rw [found, otherFound]
        refine (here field.type clear.1).bind fun state _ => ?_
        cases state with
        | invalid => exact Carries.pure trivial
        | null | present => exact restCarries.bind fun _ _ => Carries.pure trivial

private theorem carries_coerceObject (agree : Declarations.AgreeApart aside first second)
    (fieldsCarry : FieldsCarry aside good first fieldsFirst fieldsSecond)
    {coercers others : List (Name × (TypeRef → Resolution Coerced))}
    (carry : List.Forall₂ (fun coercer other => coercer.1 = other.1 ∧
      CoercersCarry aside good coercer.2 other.2) coercers others) (value : Value) {name : Name}
    (other : name ∉ aside.types) :
    Carries good (fun _ => True) (coerceObject first fieldsFirst coercers value name)
      (coerceObject second fieldsSecond others value name) := by
  have plain : Carries good (fun _ => True) (coercePlain first name value)
      (coercePlain second name value) := carries_coercePlain agree other value
  unfold coerceObject
  rw [← agree.type?_eq other]
  cases found : first.type? name with
  | none => exact plain
  | some type =>
      simp only
      split
      · next input =>
          refine (fieldsCarry name type other found input).bind fun fields clear => ?_
          refine (carries_coerceObjectFields carry clear).bind fun states _ => ?_
          cases states with
          | none => exact Carries.pure trivial
          | some => exact Carries.pure trivial
      · exact plain

mutual

theorem carries_coerce (agree : Declarations.AgreeApart aside first second)
    (fieldsCarry : FieldsCarry aside good first fieldsFirst fieldsSecond) (value : Value) :
    CoercersCarry aside good (coerce first fieldsFirst value) (coerce second fieldsSecond value) :=
  fun type other =>
    match value with
    | .null => by
        rw [coerce, coerce]
        exact Carries.pure trivial
    | .list items => by
        rw [coerce, coerce]
        cases nullable : nullableType type with
        | list item =>
            have same := baseName_nullableType type
            rw [nullable] at same
            exact carries_coerceItems (carries_coercersOf agree fieldsCarry items) (same ▸ other)
        | named name =>
            have same := baseName_nullableType type
            rw [nullable] at same
            exact carries_coercePlain agree (same ▸ other) _
        | nonNull item =>
            have same := baseName_nullableType type
            rw [nullable] at same
            exact carries_coercePlain agree (same ▸ other) _
    | .object fields => by
        rw [coerce, coerce]
        exact carries_coerceObject agree fieldsCarry
          (carries_fieldCoercersOf agree fieldsCarry fields) _ other
    | .variable _ | .int _ | .float _ | .string _ | .boolean _ | .enum _ => by
        rw [coerce, coerce] <;> first | exact carries_coercePlain agree other _ | exact nofun

theorem carries_coercersOf (agree : Declarations.AgreeApart aside first second)
    (fieldsCarry : FieldsCarry aside good first fieldsFirst fieldsSecond)
    (items : List Value) :
    List.Forall₂ (CoercersCarry aside good) (coercersOf first fieldsFirst items)
      (coercersOf second fieldsSecond items) :=
  match items with
  | [] => .nil
  | value :: rest =>
      .cons (carries_coerce agree fieldsCarry value) (carries_coercersOf agree fieldsCarry rest)

theorem carries_fieldCoercersOf (agree : Declarations.AgreeApart aside first second)
    (fieldsCarry : FieldsCarry aside good first fieldsFirst fieldsSecond)
    (fields : List (Name × Value)) :
    List.Forall₂ (fun coercer other => coercer.1 = other.1 ∧
        CoercersCarry aside good coercer.2 other.2)
      (fieldCoercersOf first fieldsFirst fields) (fieldCoercersOf second fieldsSecond fields) :=
  match fields with
  | [] => .nil
  | (_, value) :: rest => .cons ⟨rfl, carries_coerce agree fieldsCarry value⟩
        (carries_fieldCoercersOf agree fieldsCarry rest)

end

def resolveDefault (declarations : Declarations)
    (inputFields : TypeDefinition → Resolution (List InputField))
    (definition : InputValueDefinition) : Resolution Coerced :=
  match definition.defaultValue with
  | none => pure .invalid
  | some value => coerce declarations inputFields value definition.type

theorem resolveInputSlot_eq (declarations : Declarations)
    (inputFields : TypeDefinition → Resolution (List InputField)) (cause : FaultCause)
    (definition : InputValueDefinition) :
    resolveInputSlot declarations inputFields cause definition =
      (do
        let default ← resolveDefault declarations inputFields definition
        let isDeprecated ← resolveDeprecation definition.directives
        unless declarations.isInputType definition.type do
          failWith cause
        pure
          ({ name := definition.name, type := definition.type, hasDefault := default != .invalid,
              isDeprecated },
            default)) := by
  unfold resolveInputSlot resolveDefault
  cases definition.defaultValue <;> rfl

theorem carries_resolveInputSlot (agree : Declarations.AgreeApart aside first second)
    (fieldsCarry : FieldsCarry aside good first fieldsFirst fieldsSecond) (cause : FaultCause)
    {definition : InputValueDefinition} (other : definition.type.baseName ∉ aside.types) :
    Carries good (fun slot => slot.1.type.baseName ∉ aside.types)
      (resolveInputSlot first fieldsFirst cause definition)
      (resolveInputSlot second fieldsSecond cause definition) := by
  have default : Carries good (fun _ => True) (resolveDefault first fieldsFirst definition)
      (resolveDefault second fieldsSecond definition) := by
    unfold resolveDefault
    cases definition.defaultValue with
    | none => exact Carries.pure trivial
    | some value => exact carries_coerce agree fieldsCarry value definition.type other
  rw [resolveInputSlot_eq, resolveInputSlot_eq, ← agree.isInputType_eq other]
  refine default.bind fun default _ => ?_
  refine (Carries.of_quiet (quiet_resolveDeprecation _)).bind fun isDeprecated _ => ?_
  exact Carries.check _ cause (Carries.pure other)

end

section

variable {aside : Aside} {names : List Name} {depth other : Nat}

/-- While the fields of a type are resolved there is room for one type less. -/
private theorem Roomy.enter {type : Name} {table : FieldTable}
    (roomy : Roomy aside names (depth + 1) (other + 1) table) (among : type ∈ names)
    (absent : table.lookup type = none) : Roomy aside names depth other ((type, []) :: table) where
  clear := List.forall_mem_cons.mpr ⟨List.forall_mem_nil _, roomy.clear⟩
  first := Nat.lt_of_lt_of_le (missing_cons_lt among absent []) (Nat.le_of_lt_succ roomy.first)
  second := Nat.lt_of_lt_of_le (missing_cons_lt among absent []) (Nat.le_of_lt_succ roomy.second)

private theorem Roomy.leave {type : Name} {slots : List (InputSlot × Coerced)} {table : FieldTable}
    (roomy : Roomy aside names depth other table) (clear : Clear aside slots) :
    Roomy aside names (depth + 1) (other + 1) ((type, slots) :: table) where
  clear := List.forall_mem_cons.mpr ⟨clear, roomy.clear⟩
  first := Nat.lt_succ_of_le (Nat.le_trans (missing_cons_le ..) (Nat.le_of_lt roomy.first))
  second := Nat.lt_succ_of_le (Nat.le_trans (missing_cons_le ..) (Nat.le_of_lt roomy.second))

private theorem mem_of_lookup {β : Type} {items : List (Name × β)} {name : Name} {found : β}
    (here : items.lookup name = some found) : (name, found) ∈ items := by
  obtain ⟨front, back, rfl, -⟩ := List.lookup_eq_some_iff.mp here
  simp

/-- Entering a type takes room that is there again on leaving it. -/
private theorem carries_remembering {type : Name} (among : type ∈ names)
    {first second : Resolution (List (InputSlot × Coerced))}
    (carries : Carries (Roomy aside names depth other) (Clear aside) first second) :
    Carries (Roomy aside names (depth + 1) (other + 1)) (Clear aside) (remembering type first)
      (remembering type second) := by
  intro table roomy slots after ran
  unfold remembering at ran ⊢
  obtain ⟨_, _, got, ran⟩ := bind_eq_ok_iff.mp ran
  cases got
  refine (and_congr_left' bind_eq_ok_iff).mpr ?_
  cases known : table.lookup type with
  | some found =>
      rw [known] at ran
      cases ran
      refine ⟨⟨_, _, rfl, ?_⟩, roomy, roomy.clear _ (mem_of_lookup known)⟩
      rw [known]
      rfl
  | none =>
      rw [known] at ran
      obtain ⟨_, _, entered, ran⟩ := bind_eq_ok_iff.mp ran
      cases entered
      obtain ⟨resolved, middle, ranFirst, ran⟩ := bind_eq_ok_iff.mp ran
      obtain ⟨ranSecond, middleRoomy, clear⟩ :=
        carries _ (roomy.enter among known) resolved middle ranFirst
      cases ran
      refine ⟨⟨_, _, rfl, ?_⟩, middleRoomy.leave clear, clear⟩
      rw [known]
      exact bind_eq_ok_iff.mpr ⟨_, _, rfl, bind_eq_ok_iff.mpr ⟨_, _, ranSecond, rfl⟩⟩

end

section

variable {aside : Aside} {first second : Declarations}

def otherNames (aside : Aside) (declarations : Declarations) : List Name :=
  (aside.others declarations.types).map (·.name)

theorem missing_le_length (names : List Name) (table : FieldTable) :
    missing names table ≤ names.length := List.countP_le_length

private theorem fieldsCarry_of_within (unneeded : Declarations.Unneeded aside first)
    {good : FieldTable → Prop}
    {within others : TypeDefinition → Resolution (List (InputSlot × Coerced))}
    (carries : ∀ type, type.name ∈ otherNames aside first →
      (∀ name ∈ Declarations.referencedNames type, name ∉ aside.types) →
        Carries good (Clear aside) (within type) (others type)) :
    FieldsCarry aside good first
      (fun type => do
        let slots ← within type
        pure (slots.map fun (slot, default) => { name := slot.name, type := slot.type, default }))
      (fun type => do
        let slots ← others type
        pure (slots.map fun (slot, default) =>
          { name := slot.name, type := slot.type, default })) := by
  intro name type other found input
  obtain ⟨member, rfl⟩ := Declarations.mem_of_type?_inputObject found input
  have among : type.name ∈ otherNames aside first :=
    List.mem_map_of_mem (Aside.mem_others.mpr ⟨member, other⟩)
  refine (carries type among (unneeded.types type member other)).bind fun slots clear => ?_
  exact Carries.pure (List.forall_mem_map.mpr clear)

variable (agree : Declarations.AgreeApart aside first second)
  (unneeded : Declarations.Unneeded aside first)

include agree unneeded

/-- Each type is entered once, so that the depth to which default values are read does not show. -/
theorem carries_inputFieldsWithin {depth other : Nat} {type : TypeDefinition}
    (among : type.name ∈ otherNames aside first)
    (clear : ∀ name ∈ Declarations.referencedNames type, name ∉ aside.types) :
    Carries (Roomy aside (otherNames aside first) depth other) (Clear aside)
      (inputFieldsWithin first depth type) (inputFieldsWithin second other type) := by
  induction depth generalizing other type with
  | zero => exact fun table roomy => absurd roomy.first (Nat.not_lt_zero _)
  | succ depth induction =>
      cases other with
      | zero => exact fun table roomy => absurd roomy.second (Nat.not_lt_zero _)
      | succ other =>
          rw [inputFieldsWithin, inputFieldsWithin]
          cases body : type.body with
          | inputObject fields =>
              apply carries_remembering among
              apply Carries.withinFields
              apply Carries.mapM
              intro field member
              apply carries_resolveInputSlot agree
                (fieldsCarry_of_within unneeded fun _ => induction)
              apply clear
              rw [Declarations.referencedNames, body]
              exact List.mem_map_of_mem member
          | scalar | object | interface | union | enum =>
              exact Carries.pure (List.forall_mem_nil _)

/-! ### Members of types -/

abbrev Settled (aside : Aside) (first second : Declarations) : FieldTable → Prop :=
  Roomy aside (otherNames aside first) (first.types.length + 1) (second.types.length + 1)

private theorem fieldsCarry_inputFieldsOf :
    FieldsCarry aside (Settled aside first second) first (inputFieldsOf first)
      (inputFieldsOf second) :=
  fieldsCarry_of_within unneeded fun _ => carries_inputFieldsWithin agree unneeded

theorem carries_resolveArguments {arguments : List InputValueDefinition}
    (clear : ∀ argument ∈ arguments, argument.type.baseName ∉ aside.types) :
    Carries (Settled aside first second)
      (fun slots => ∀ slot ∈ slots, slot.type.baseName ∉ aside.types)
      (resolveArguments first arguments) (resolveArguments second arguments) := by
  apply Carries.mapM
  intro argument member
  refine (carries_resolveInputSlot agree (fieldsCarry_inputFieldsOf agree unneeded) _
    (clear argument member)).bind fun slot other => ?_
  exact Carries.pure other

def FieldSlot.references (field : FieldSlot) : List Name :=
  field.type.baseName :: field.arguments.map (·.type.baseName)

def ResolvedBody.references : ResolvedBody → List Name
  | .object interfaces fields | .interface interfaces fields =>
      interfaces ++ fields.flatMap FieldSlot.references
  | .union members => members
  | .inputObject _ fields => fields.map (·.type.baseName)
  | .scalar | .enum _ => []

theorem carries_resolveField {field : FieldDefinition}
    (clear : ∀ name ∈ field.type.baseName :: field.arguments.map (·.type.baseName),
      name ∉ aside.types) :
    Carries (Settled aside first second)
      (fun slot => ∀ name ∈ slot.references, name ∉ aside.types) (resolveField first field)
      (resolveField second field) := by
  rw [List.forall_mem_cons, List.forall_mem_map] at clear
  unfold resolveField
  refine (carries_resolveArguments agree unneeded clear.2).bind fun arguments others => ?_
  refine (Carries.of_quiet (quiet_resolveDeprecation _)).bind fun _ _ => ?_
  rw [← agree.isOutputType_eq clear.1]
  apply Carries.check
  exact Carries.pure (List.forall_mem_cons.mpr ⟨clear.1, List.forall_mem_map.mpr others⟩)

private theorem carries_resolveFields (type : Name) {fields : List FieldDefinition}
    (clear : ∀ name ∈ fields.flatMap fun field =>
      field.type.baseName :: field.arguments.map (·.type.baseName), name ∉ aside.types) :
    Carries (Settled aside first second)
      (fun slots => ∀ name ∈ slots.flatMap FieldSlot.references, name ∉ aside.types)
      (withinFields type (fields.mapM (resolveField first)))
      (withinFields type (fields.mapM (resolveField second))) := by
  rw [List.forall_mem_flatMap] at clear
  apply Carries.withinFields
  have each := Carries.mapM fun field member =>
    carries_resolveField agree unneeded (clear field member)
  exact each.weaken fun slots others => List.forall_mem_flatMap.mpr others

omit unneeded in
private theorem carries_kindTest {good : FieldTable → Prop} {names : List Name}
    (clear : ∀ name ∈ names, name ∉ aside.types) (kind : TypeKind) (cause : FaultCause) :
    Carries good (fun _ => True)
      (if names.all fun name => first.kind? name = some kind then pure () else failWith cause)
      (if names.all fun name => second.kind? name = some kind then pure ()
        else failWith cause) := by
  have same : (names.all fun name => first.kind? name = some kind) =
      names.all fun name => second.kind? name = some kind := by
    rw [Bool.eq_iff_iff, List.all_eq_true, List.all_eq_true]
    refine forall₂_congr fun name member => ?_
    rw [agree.kind?_eq (clear name member)]
  rw [same]
  split
  · exact Carries.pure trivial
  · exact Carries.fail cause _

theorem carries_resolveBody {type : TypeDefinition}
    (among : type.name ∈ otherNames aside first)
    (clear : ∀ name ∈ Declarations.referencedNames type, name ∉ aside.types) :
    Carries (Settled aside first second)
      (fun body => ∀ name ∈ body.references, name ∉ aside.types) (resolveBody first type)
      (resolveBody second type) := by
  have inputs : Carries (Settled aside first second) _ _ _ :=
    carries_inputFieldsWithin agree unneeded among clear
  unfold resolveBody
  unfold Declarations.referencedNames at clear
  cases body : type.body with
  | scalar => exact Carries.pure (List.forall_mem_nil _)
  | enum => exact Carries.pure (List.forall_mem_nil _)
  | object interfaces fields =>
      simp only [body, List.forall_mem_append] at clear
      refine (carries_kindTest agree clear.1 _ _).bind fun _ _ => ?_
      refine (carries_resolveFields agree unneeded type.name clear.2).bind fun slots others => ?_
      exact Carries.pure (List.forall_mem_append.mpr ⟨clear.1, others⟩)
  | interface interfaces fields =>
      simp only [body, List.forall_mem_append] at clear
      refine (carries_kindTest agree clear.1 _ _).bind fun _ _ => ?_
      refine (carries_resolveFields agree unneeded type.name clear.2).bind fun slots others => ?_
      exact Carries.pure (List.forall_mem_append.mpr ⟨clear.1, others⟩)
  | union members =>
      simp only [body] at clear
      exact (carries_kindTest agree clear _ _).bind fun _ _ => Carries.pure clear
  | inputObject fields =>
      refine inputs.bind fun slots others => ?_
      exact Carries.pure (List.forall_mem_map.mpr (List.forall_mem_map.mpr others))

theorem carries_resolveType {type : TypeDefinition}
    (among : type.name ∈ otherNames aside first)
    (clear : ∀ name ∈ Declarations.referencedNames type, name ∉ aside.types) :
    Carries (Settled aside first second)
      (fun resolved => ∀ name ∈ resolved.body.references, name ∉ aside.types)
      (resolveType first type) (resolveType second type) := by
  refine (carries_resolveBody agree unneeded among clear).bind fun body others => ?_
  exact Carries.pure others

theorem carries_resolveDirective {directive : DirectiveDefinition}
    (clear : ∀ argument ∈ directive.arguments, argument.type.baseName ∉ aside.types) :
    Carries (Settled aside first second) (fun _ => True) (resolveDirective first directive)
      (resolveDirective second directive) := by
  refine (carries_resolveArguments agree unneeded clear).bind fun arguments _ => ?_
  exact Carries.pure trivial

end

end FederationSplit.TypeSystem
